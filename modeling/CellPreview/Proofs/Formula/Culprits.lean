import CellPreview.Proofs.Formula.Correspondence
import CellPreview.Proofs.Formula.Degradation
import CellPreview.Proofs.Formula.Shape

/-!
# Where causes point

The offset in a cause is the place in the text of what is to blame: the
parenthesis or the quote that is never closed, the reference that is not known
or the token that is misplaced. It lies in the piece of the text that the cause
is about.
-/

namespace CellPreview
namespace Text

/-- Offsets of the trimmed form of what stands between two offsets of a text. -/
def IsWithin (text : Text) (start stop offset : Nat) : Prop :=
  let piece := text.slice start stop
  let first := start + byteLength (piece.takeWhile isBlank)
  first ≤ offset ∧ offset < first + byteLength piece.trim

/-- A character of the piece that is not blank lies in its trimmed form. -/
theorem isWithin_of_slice_eq
    {text before after : Text}
    {start stop : Nat}
    {char : Char}
    (sliced : text.slice start stop = before ++ char :: after)
    (notBlank : isBlank char = false) :
    text.IsWithin start stop (start + byteLength before) := by
  obtain ⟨lower, upper⟩ := byteLength_before_of_not_isBlank sliced notBlank
  constructor
  · exact Nat.add_le_add_left lower start
  · omega

theorem slice_whole (text : Text) :
    text.slice 0 (byteLength text) = text := by
  have sliced := @slice_append 0 (byteLength text) [] text rfl (by simp) []
  rwa [List.nil_append, List.append_nil] at sliced

end Text

namespace Formula

open CellPreview.Formula.Parser

/-- A token is written as it is shown in a message, but for a text literal,
which is shown in single quotes. -/
def Token.IsShownAs (token : Token) (found : Text) : Prop :=
  match token.kind with
  | .text content => found = '\'' :: content ++ ['\''] ∧
      ∃ quote, IsQuote quote ∧ token.lexeme = quote :: content ++ [quote]
  | _ => found = token.lexeme

/-- What a text is like from the place on that a cause points at. -/
def Error.Describes (body : Text) : Error -> Text -> Prop
  | .unclosed _, rest => ['('] <+: rest
  | .unterminatedText _, rest =>
      ∃ quote others, IsQuote quote ∧ rest = quote :: others ∧ quote ∉ others
  | .unknownReference name _, rest => '@' :: name <+: rest
  | .unexpected found offset, rest =>
      ∃ tokens token, tokenize body = .ok tokens ∧ token ∈ tokens ∧
        token.start = offset ∧ token.lexeme <+: rest ∧ token.IsShownAs found
  | _, _ => True

/-- A cause that points at a character of the trimmed piece between two offsets,
where the text is as the cause says, if it points anywhere. -/
def Error.PointsInto (body : Text) (start stop : Nat) (cause : Error) : Prop :=
  ∀ offset, cause.offset? = some offset ->
    body.IsWithin start stop offset ∧
    ∃ before rest, body = before ++ rest ∧ before.byteLength = offset ∧
      cause.Describes body rest

/-- A formula that points into its piece of the text if it is malformed. -/
def Expr.PointsInto (body : Text) (start stop : Nat) (formula : Expr) : Prop :=
  ∀ source cause, formula = .invalid source cause ->
    cause.PointsInto body start stop

/-! ## Scanning -/

namespace Lexer

/-- A scan stops at a quote that does not occur again. -/
theorem Stops.exists_open_quote
    {offset : Nat}
    {text : Text}
    {cause : Error}
    (stops : Stops offset text cause) :
    ∃ before quote rest, text = before ++ quote :: rest ∧ IsQuote quote ∧
      quote ∉ rest ∧
      cause = .unterminatedText (offset + Text.byteLength before) := by
  induction stops with
  | @unclosed offset gap rest first _ absent =>
      obtain ⟨isQuote, notInRest⟩ := isQuote_of_piece?_eq_none absent
      exact ⟨gap, first, rest, rfl, isQuote, notInRest, rfl⟩
  | @token offset gap rest first piece cause _ _ found _ inductionHypothesis =>
      obtain ⟨before, quote, behind, restEq, isQuote, absent, rfl⟩ :=
        inductionHypothesis
      refine ⟨gap ++ piece.lexeme ++ before, quote, behind, ?_, isQuote,
        absent, ?_⟩
      · rw [← piece?_covers found, restEq]
        simp
      · simp only [Text.byteLength_append]
        congr 1
        omega

/-- A token stands in the text where it starts. -/
theorem Scans.exists_place
    {text : Text}
    {tokens : List Token}
    {token : Token}
    (scans : Scans 0 text tokens)
    (present : token ∈ tokens) :
    ∃ before rest, text = before ++ rest ∧ before.byteLength = token.start ∧
      token.lexeme <+: rest := by
  obtain ⟨earlier, later, rfl⟩ := List.append_of_mem present
  obtain ⟨trailing, textEq, _⟩ := scans.exists_trailing
  refine ⟨Token.written earlier ++ token.gap,
    token.lexeme ++ (Token.written later ++ trailing), ?_, ?_,
    List.prefix_append _ _⟩
  · rw [textEq]
    simp
  · rw [scans.start_eq, Text.byteLength_append]
    omega

end Lexer

/-- Every token is shown in messages as it is written. -/
theorem Token.isShownAs_shown
    {token : Token}
    (spelled : token.kind.Spelled token.lexeme) :
    token.IsShownAs token.kind.shown := by
  obtain ⟨kind, start, gap, lexeme⟩ := token
  dsimp only at spelled
  cases spelled with
  | text isQuote _ => exact ⟨rfl, _, isQuote, rfl⟩
  | _ => rfl

/-! ## Fragments -/

/-- The cause of a malformed fragment points into the piece of the text that
holds its tokens. -/
theorem pointsInto_of_explains
    {body : Text}
    {all run : List Token}
    {cause : Error}
    {start stop : Nat}
    (tokenized : tokenize body = .ok all)
    (among : run ⊆ all)
    (within : ∀ token ∈ run, body.IsWithin start stop token.start)
    (explains : Explains run cause) :
    cause.PointsInto body start stop := by
  have scans := Lexer.scan_eq_ok_iff.mp tokenized
  have place {token : Token} (present : token ∈ run)
      (describes : ∀ rest, token.lexeme <+: rest ->
        cause.Describes body rest) :
      body.IsWithin start stop token.start ∧
        ∃ before rest, body = before ++ rest ∧
          before.byteLength = token.start ∧ cause.Describes body rest := by
    obtain ⟨before, rest, bodyEq, length, stands⟩ :=
      scans.exists_place (among present)
    exact ⟨within token present, before, rest, bodyEq, length,
      describes rest stands⟩
  rintro offset pointsAt
  cases explains with
  | @misplaced token present =>
      cases pointsAt
      exact place present fun rest stands =>
        ⟨all, token, tokenized, among present, rfl, stands,
          token.isShownAs_shown (scans.spelled token (among present))⟩
  | @unclosed opening present isOpening _ =>
      cases pointsAt
      refine place present fun rest stands => ?_
      have spelled := scans.spelled opening (among present)
      rw [isOpening] at spelled
      generalize opening.lexeme = lexeme at spelled stands
      cases spelled
      exact stands
  | @unknownReference token name present isReference =>
      cases pointsAt
      refine place present fun rest stands => ?_
      have spelled := scans.spelled token (among present)
      rw [isReference] at spelled
      generalize token.lexeme = lexeme at spelled stands
      cases spelled
      exact stands
  | unexpectedEnd | empty | tooFewArguments | tooDeep => cases pointsAt

/-- The first character of a token lies in the trimmed text. -/
theorem isWithin_body
    {body : Text}
    {tokens : List Token}
    {token : Token}
    (tokenized : tokenize body = .ok tokens)
    (present : token ∈ tokens) :
    body.IsWithin 0 body.byteLength token.start := by
  have scans := Lexer.scan_eq_ok_iff.mp tokenized
  obtain ⟨before, rest, bodyEq, length, behind, rfl⟩ :=
    scans.exists_place present
  obtain ⟨char, others, lexeme, notBlank⟩ :=
    (scans.wellSpaced token present).starts
  have sliced : body.slice 0 body.byteLength =
      before ++ char :: (others ++ behind) := by
    rw [Text.slice_whole, bodyEq, lexeme, List.cons_append]
  have within := Text.isWithin_of_slice_eq sliced notBlank
  rwa [Nat.zero_add, length] at within

/-- The first character of a token between two others lies in the trimmed piece
between these. -/
theorem isWithin_between
    {body : Text}
    {before inside after : List Token}
    {opening closing token : Token}
    (tokenized :
      tokenize body = .ok (before ++ opening :: inside ++ closing :: after))
    (present : token ∈ inside) :
    body.IsWithin opening.stop closing.start token.start := by
  have scans := Lexer.scan_eq_ok_iff.mp tokenized
  obtain ⟨earlier, later, rfl⟩ := List.append_of_mem present
  obtain ⟨char, others, lexeme, notBlank⟩ :=
    (scans.wellSpaced token (by simp)).starts
  have sliced : body.slice opening.stop closing.start =
      (Token.written earlier ++ token.gap) ++
        char :: (others ++ (Token.written later ++ closing.gap)) := by
    rw [slice_eq_written tokenized, Token.written_append, Token.written_cons,
      lexeme]
    simp
  have openingStart := (show Lexer.Scans 0 body (before ++ opening ::
    (earlier ++ token :: (later ++ closing :: after))) by
      simpa using scans).start_eq
  have tokenStart := (show Lexer.Scans 0 body ((before ++ opening :: earlier) ++
    token :: (later ++ closing :: after)) by simpa using scans).start_eq
  have distance : token.start = opening.stop +
      Text.byteLength (Token.written earlier ++ token.gap) := by
    rw [tokenStart, Token.stop, openingStart]
    simp only [Token.written_append, Token.written_cons,
      Text.byteLength_append]
    omega
  rw [distance]
  exact Text.isWithin_of_slice_eq sliced notBlank

/-- An argument at a site points between its delimiters. -/
theorem CallSite.pointsInto
    {body : Text}
    {tokens run : List Token}
    {site : CallSite}
    {left right : Token}
    (tokenized : tokenize body = .ok tokens)
    (stands : site.tokens <:+: tokens)
    (isArgument : (left, run, right) ∈ site.arguments)
    (levels : Nat) :
    (fragment (operand levels) run).PointsInto body left.stop right.start := by
  have among : run ⊆ tokens :=
    ((CallSite.isInfix isArgument).trans stands).subset
  intro source cause isInvalid
  apply pointsInto_of_explains tokenized among _
    (explains_of_fragment_eq_invalid isInvalid)
  intro token present
  obtain ⟨before, after, rfl⟩ := stands
  obtain ⟨first, last, same⟩ := exists_tokens_eq isArgument
  have around : tokenize body = .ok
      ((before ++ first) ++ left :: run ++ right :: (last ++ after)) := by
    rw [tokenized, same]
    simp
  exact isWithin_between around present

/-- What is malformed as a whole points into the text. -/
theorem pointsInto_parse (body : Text) :
    (parse body).PointsInto body 0 body.byteLength := by
  intro source cause isInvalid
  cases tokenized : tokenize body with
  | ok tokens =>
      rw [parse_eq_fragment tokenized] at isInvalid
      exact pointsInto_of_explains tokenized (List.Subset.refl tokens)
        (fun token present => isWithin_body tokenized present)
        (explains_of_fragment_eq_invalid isInvalid)
  | error reason =>
      rw [parse_eq_invalid tokenized] at isInvalid
      cases isInvalid
      obtain ⟨before, quote, rest, bodyEq, isQuote, absent, rfl⟩ :=
        (Lexer.stops_of_scan tokenized).exists_open_quote
      rintro _ ⟨⟩
      have sliced := body.slice_whole.trans bodyEq
      exact ⟨Text.isWithin_of_slice_eq sliced isQuote.isBlank_eq_false,
        before, quote :: rest, bodyEq, (Nat.zero_add _).symm,
        quote, rest, isQuote, rfl, absent⟩

/-- Every offset in a parsed formula points at what is to blame, in the piece of
the text that is malformed. Malformed are the whole text or arguments of calls,
each of which stands between its delimiters. -/
theorem offsets_point_at_culprits (body : Text) :
    (parse body).PointsInto body 0 body.byteLength ∧
    (∀ node child, (parse body).Contains node -> child ∈ node.children ->
      child.isInvalid -> ∃ condition whenTrue otherwise,
        node = .choose condition whenTrue otherwise) ∧
    (∀ condition whenTrue otherwise,
      (parse body).Contains (.choose condition whenTrue otherwise) ->
      ∃ (tokens : List Token) (site : CallSite) (levels : Nat),
        tokenize body = .ok tokens ∧ site.tokens <:+: tokens ∧
        site.value levels = .choose condition whenTrue otherwise ∧
        condition.PointsInto body site.opening.stop site.firstComma.start ∧
        whenTrue.PointsInto body site.firstComma.stop
          site.secondComma.start ∧
        otherwise.PointsInto body site.secondComma.stop
          site.closing.start) := by
  refine ⟨pointsInto_parse body,
    fun node child => (isShaped_parse body).exists_choose, ?_⟩
  intro condition whenTrue otherwise contains
  obtain ⟨tokens, site, levels, tokenized, stands, value⟩ :=
    exists_site_of_contains contains
  refine ⟨tokens, site, levels, tokenized, stands, value, ?_⟩
  cases value
  refine ⟨?_, ?_, ?_⟩
  · exact CallSite.pointsInto tokenized stands (.head _) levels
  · exact CallSite.pointsInto tokenized stands (.tail _ (.head _)) levels
  · exact CallSite.pointsInto tokenized stands
      (.tail _ (.tail _ (.head _))) levels

/-- A literal that is shown in other quotes than it is written in, and a
reference, both behind a character of two bytes. -/
theorem offsets_point_at_culprits_call :
    let body : Text := "'é'+if(1,2 \"b\",@me)"
    let misplaced : Expr := .invalid ['2', ' ', '"', 'b', '"']
      (.unexpected ['\'', 'b', '\''] 12)
    let unknown : Expr := .invalid ['@', 'm', 'e']
      (.unknownReference ['m', 'e'] 16)
    (parse body).Contains (.choose (.number ['1']) misplaced unknown) ∧
    (∃ condition whenTrue otherwise,
      Expr.choose (.number ['1']) misplaced unknown =
        .choose condition whenTrue otherwise) ∧
    ∃ (tokens : List Token) (site : CallSite) (levels : Nat),
      tokenize body = .ok tokens ∧ site.tokens <:+: tokens ∧
      site.value levels = .choose (.number ['1']) misplaced unknown ∧
      (Expr.number ['1']).PointsInto body site.opening.stop
        site.firstComma.start ∧
      misplaced.PointsInto body site.firstComma.stop site.secondComma.start ∧
      unknown.PointsInto body site.secondComma.stop site.closing.start := by
  intro body misplaced unknown
  have tokenized : tokenize body = .ok
      [⟨.text ['é'], 0, [], ['\'', 'é', '\'']⟩, ⟨.plus, 4, [], ['+']⟩,
        ⟨.word ['i', 'f'], 5, [], ['i', 'f']⟩, ⟨.leftParen, 7, [], ['(']⟩,
        ⟨.number ['1'], 8, [], ['1']⟩, ⟨.comma, 9, [], [',']⟩,
        ⟨.number ['2'], 10, [], ['2']⟩,
        ⟨.text ['b'], 12, [' '], ['"', 'b', '"']⟩, ⟨.comma, 15, [], [',']⟩,
        ⟨.reference ['m', 'e'], 16, [], ['@', 'm', 'e']⟩,
        ⟨.rightParen, 19, [], [')']⟩] := by
    with_unfolding_all rfl
  have parsed : parse body =
      .concat [.text ['é'], .choose (.number ['1']) misplaced unknown] := by
    rw [parse_eq_fragment tokenized]
    rfl
  have contains : (parse body).Contains
      (.choose (.number ['1']) misplaced unknown) := by
    rw [parsed]
    exact .child (.tail _ (.head _)) (.self _)
  obtain ⟨_, underCalls, arguments⟩ := offsets_point_at_culprits body
  exact ⟨contains,
    underCalls _ misplaced contains (.tail _ (.head _)) rfl,
    arguments _ _ _ contains⟩

end Formula
end CellPreview
