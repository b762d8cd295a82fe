import CellPreview.Proofs.Formula.Correspondence
import CellPreview.Proofs.Formula.Exchange
import CellPreview.Proofs.Formula.RoundTrip
import CellPreview.Proofs.Formula.Source

/-!
# Filling in the references

The references of a formula may be filled in where they are written: the field
value as a text literal, and the instant as its numeral. The tokens stay the
same but for the references, and a literal plays the part of a reference in
every sum and comparison. So the filled formula has, in every context, the value
that the formula has in the context it was filled from, and what the field holds
is never read as a part of the formula.
-/

namespace CellPreview
namespace Formula
namespace Context

variable (context : Context)

/-- The kind of a token once the references are filled in. -/
def fillKind : Token.Kind -> Token.Kind
  | .field => .text context.field
  | .now => .number (Text.ofInt context.now)
  | kind => kind

/-- The literal for a reference, if a token is one. -/
def literal? (quote : Char) : Token.Kind -> Option Text
  | .field => some (quote :: context.field ++ [quote])
  | .now => some (Text.ofInt context.now)
  | _ => none

/-- The spans of the references among some tokens, each with its literal between
blanks. -/
def replacements (quote : Char) (tokens : List Token) :
    List Text.Replacement :=
  tokens.filterMap fun token =>
    (context.literal? quote token.kind).map fun literal =>
      ⟨token.start, token.stop, ' ' :: literal ++ [' ']⟩

/-- A formula body with its references filled in. -/
def fill (quote : Char) (body : Text) : Text :=
  match tokenize body with
  | .ok tokens => Text.replaceSpans 0 body (context.replacements quote tokens)
  | .error _ => body

variable {context}

theorem fillKind_of_literal?_eq_none
    {quote : Char}
    {kind : Token.Kind}
    (absent : context.literal? quote kind = none) :
    context.fillKind kind = kind := by
  cases kind <;> first | rfl | cases absent

/-- A literal is read as one token, with blanks around it. -/
theorem lexes_literal
    {quote : Char}
    {kind : Token.Kind}
    {literal text : Text}
    {run : List Token.Kind}
    (isQuote : IsQuote quote)
    (absent : quote ∉ context.field)
    (isLiteral : context.literal? quote kind = some literal)
    (lexes : Lexes text run) :
    Lexes (' ' :: literal ++ ' ' :: text) (context.fillKind kind :: run) := by
  cases kind with
  | field =>
      cases isLiteral
      have found := Lexer.piece?_text isQuote absent (' ' :: text)
      have read := (lexes.blank.piece isQuote.isBlank_eq_false found).blank
      simpa only [List.cons_append, List.append_assoc, List.nil_append]
  | now =>
      cases isLiteral
      have delimits : Lexer.Delimits (' ' :: text) :=
        Lexer.delimits_cons (by decide) text
      obtain ⟨first, others, same, notBlank, found⟩ :=
        Lexer.exists_piece?_number (isNumeral_ofInt context.now) delimits
      have read := (lexes.blank.piece notBlank found).blank
      rwa [← List.cons_append, ← same] at read
  | _ => cases isLiteral

/-- A token with a literal is spelled as a reference. -/
theorem exists_reference
    {quote : Char}
    {kind : Token.Kind}
    {literal lexeme : Text}
    (isLiteral : context.literal? quote kind = some literal)
    (spelled : kind.Spelled lexeme) :
    ∃ name, lexeme = '@' :: name := by
  cases spelled with
  | field | now => exact ⟨_, rfl⟩
  | _ => cases isLiteral

/-- A span that is replaced is that of a token. -/
theorem exists_token_of_mem_replacements
    {quote : Char}
    {tokens : List Token}
    {span : Text.Replacement}
    (present : span ∈ context.replacements quote tokens) :
    ∃ token ∈ tokens, span.start = token.start ∧ span.stop = token.stop := by
  obtain ⟨token, isToken, replaced⟩ := List.mem_filterMap.mp present
  obtain ⟨literal, _, rfl⟩ := Option.map_eq_some_iff.mp replaced
  exact ⟨token, isToken, rfl, rfl⟩

end Context

namespace Lexer

theorem Scans.offset_le_start
    {offset : Nat}
    {text : Text}
    {tokens : List Token}
    (scans : Scans offset text tokens) :
    ∀ token ∈ tokens, offset ≤ token.start := by
  intro token present
  obtain ⟨before, after, rfl⟩ := List.append_of_mem present
  have start := scans.start_eq
  omega

section

variable {context : Context} {quote : Char} {offset : Nat}
  {gap lexeme rest : Text} {kind : Token.Kind} {tokens : List Token}

/-- A token that is no reference is kept, with the blanks before it. -/
theorem Scans.replaceSpans_other
    (isOther : context.literal? quote kind = none)
    (following :
      Scans (offset + gap.byteLength + lexeme.byteLength) rest tokens) :
    Text.replaceSpans offset (gap ++ (lexeme ++ rest))
        (context.replacements quote
          (⟨kind, offset + gap.byteLength, gap, lexeme⟩ :: tokens)) =
      gap ++ (lexeme ++
        Text.replaceSpans (offset + gap.byteLength + lexeme.byteLength) rest
          (context.replacements quote tokens)) := by
  have same : context.replacements quote
      (⟨kind, offset + gap.byteLength, gap, lexeme⟩ :: tokens) =
        context.replacements quote tokens := by
    simp [Context.replacements, isOther]
  rw [Nat.add_assoc, ← Text.byteLength_append] at following ⊢
  rw [same, ← List.append_assoc, Text.replaceSpans_append,
    List.append_assoc]
  intro span isFirst
  obtain ⟨token, present, start, stop⟩ :=
    Context.exists_token_of_mem_replacements (List.mem_of_mem_head? isFirst)
  rw [start, stop]
  exact ⟨following.offset_le_start token present, Nat.le_add_right _ _⟩

/-- A reference is replaced by its literal. -/
theorem replaceSpans_reference
    {literal : Text}
    (isLiteral : context.literal? quote kind = some literal) :
    Text.replaceSpans offset (gap ++ (lexeme ++ rest))
        (context.replacements quote
          (⟨kind, offset + gap.byteLength, gap, lexeme⟩ :: tokens)) =
      gap ++ (' ' :: literal ++ ' ' ::
        Text.replaceSpans (offset + gap.byteLength + lexeme.byteLength) rest
          (context.replacements quote tokens)) := by
  have first : context.replacements quote
      (⟨kind, offset + gap.byteLength, gap, lexeme⟩ :: tokens) =
        ⟨offset + gap.byteLength, offset + gap.byteLength + lexeme.byteLength,
          ' ' :: literal ++ [' ']⟩ :: context.replacements quote tokens := by
    simp [Context.replacements, isLiteral, Token.stop]
  rw [first, Text.replaceSpans_append, Text.replaceSpans_cons rfl,
    List.append_assoc, List.singleton_append]
  rintro _ ⟨⟩
  exact ⟨Nat.le_refl _, Nat.le_add_right _ _⟩

end

/-- A filled text starts like the text and has its tokens, with the references
filled in. -/
theorem Scans.filled
    {context : Context}
    {quote : Char}
    (isQuote : IsQuote quote)
    (absent : quote ∉ context.field)
    {offset : Nat}
    {text : Text}
    {tokens : List Token}
    (scans : Scans offset text tokens) :
    Alike text
        (Text.replaceSpans offset text (context.replacements quote tokens)) ∧
      Lexes (Text.replaceSpans offset text (context.replacements quote tokens))
        ((kinds tokens).map context.fillKind) := by
  induction scans with
  | @blank offset gap allBlank =>
      have blanks := Lexes.nil.gap allBlank
      rw [List.append_nil] at blanks
      exact ⟨.refl gap, blanks⟩
  | @token offset gap rest first piece tokens gapBlank notBlank found following
      inductionHypothesis =>
      obtain ⟨alike, lexes⟩ := inductionHypothesis
      have spelled := spelled_piece? notBlank found
      rw [← piece?_covers found, kinds_cons, List.map_cons]
      cases isLiteral : context.literal? quote piece.kind with
      | none =>
          rw [following.replaceSpans_other isLiteral,
            Context.fillKind_of_literal?_eq_none isLiteral]
          refine ⟨(alike.append _).append gap, Lexes.gap ?_ gapBlank⟩
          -- what follows the token starts as before, so it ends as before
          obtain ⟨used, lexemeEq, rfl⟩ := exists_lexeme_eq found
          rw [lexemeEq]
          apply lexes.piece notBlank
          rw [← lexemeEq]
          exact piece?_congr (by rw [found, ← lexemeEq]) alike
      | some literal =>
          rw [replaceSpans_reference isLiteral]
          obtain ⟨name, reference⟩ := Context.exists_reference isLiteral spelled
          refine ⟨Alike.append ?_ gap, Lexes.gap ?_ gapBlank⟩
          · rw [reference]
            exact .reference _ _
          · exact Context.lexes_literal isQuote absent isLiteral lexes

end Lexer

/-! ## Filled formulas -/

/-- What may stand in the place of a leaf of a formula: the leaf itself if it is
a literal, and the literal of its value if it is a reference. -/
inductive Context.Fills (context : Context) : Expr -> Expr -> Prop
  | text (content : Text) : Fills context (.text content) (.text content)
  | number (numeral : Text) : Fills context (.number numeral) (.number numeral)
  | field : Fills context .field (.text context.field)
  | now : Fills context .now (.number (Text.ofInt context.now))

/-- A literal has in every context the value of its reference. -/
theorem Context.Fills.agreeUnless
    {context : Context}
    {formula other : Expr}
    (fills : context.Fills formula other)
    (reports : Anomaly -> Prop)
    (changed : Context) :
    AgreeUnless reports context changed formula other := by
  cases fills <;> exact ⟨fun _ => rfl, fun _ => rfl⟩

/-- A formula and the same formula with its references filled in, which takes
part in integer addition alike. -/
structure Context.Filled
    (context : Context)
    (formula other : Expr) : Prop where
  isInteger : formula.isInteger = other.isInteger
  exchanged : Exchanged context.Fills formula other

/-- The numeral of an integer is one that takes part in integer addition. -/
theorem Expr.isIntegerNumeral_ofInt (number : Int) :
    isIntegerNumeral (Text.ofInt number) = true := by
  obtain ⟨sign, digits, same, signCases, nonempty, areDigits⟩ :=
    exists_digits_ofInt number
  obtain ⟨digit, others, rfl⟩ := List.exists_cons_of_ne_nil nonempty
  have areAll : (digit :: others).all Char.isDigit :=
    List.all_eq_true.mpr areDigits
  rw [same]
  obtain rfl | rfl := signCases
  · have notMinus : digit ≠ '-' := by
      rintro rfl
      exact absurd (areDigits '-' List.mem_cons_self) (by decide)
    unfold isIntegerNumeral
    split
    · rename_i starts
      exact absurd (List.cons.inj starts).1 notMinus
    · exact areAll
  · exact areAll

namespace Context.Filled

variable {context : Context}

theorem of_fills
    {formula other : Expr}
    (fills : context.Fills formula other) :
    context.Filled formula other := by
  refine ⟨?_, .part fills⟩
  cases fills with
  | text | number | field => rfl
  | now => exact (Expr.isIntegerNumeral_ofInt context.now).symm

theorem concat
    {parts others : List Expr}
    (filled : List.Forall₂ context.Filled parts others) :
    Exchanged context.Fills (.concat parts) (.concat others) := by
  obtain ⟨sameLength, areFilled⟩ := List.forall₂_iff_zip.mp filled
  exact .concat sameLength fun isPair => (areFilled isPair).exchanged

theorem sum
    {first first' : Expr}
    {values others : List Expr}
    (filled : context.Filled first first')
    (areFilled : List.Forall₂ context.Filled values others) :
    context.Filled (first.sum values) (first'.sum others) := by
  have all := List.Forall₂.cons filled areFilled
  cases areFilled with
  | nil => exact filled
  | cons second areFilled =>
      cases areFilled with
      | nil =>
          rw [Expr.sum, Expr.sum, ← filled.isInteger, ← second.isInteger]
          split
          · exact ⟨rfl, .add filled.exchanged second.exchanged⟩
          · exact ⟨rfl, concat all⟩
      | cons third areFilled => exact ⟨rfl, concat all⟩

end Context.Filled

/-- A token corresponds to one of the kind that it is filled to, and an intact
formula to the filled formula. -/
def Correspondence.fill (context : Context) : Correspondence where
  token first second := second.kind = context.fillKind first.kind
  cause _ _ := True
  value formula other := formula.IsIntact -> context.Filled formula other
  playsAs := by
    intro first second same
    rw [same]
    cases first.kind with
    | field | now => exact .inr ⟨rfl, rfl⟩
    | _ => exact .inl rfl
  misplaced _ := trivial
  unclosed _ := trivial
  unknownReference _ _ := trivial
  cause_refl _ := trivial
  atom := by
    intro first second left right same isLeft isRight _
    rw [same] at isRight
    apply Context.Filled.of_fills
    cases kind : first.kind <;> rw [kind] at isLeft isRight <;>
      cases isLeft <;> cases isRight <;> constructor
  sum := by
    intro first first' values others filled areFilled isIntact
    apply Context.Filled.sum (filled (isIntact.operand List.mem_cons_self))
    obtain ⟨sameLength, areFilled⟩ := List.forall₂_iff_zip.mp areFilled
    refine List.forall₂_iff_zip.mpr ⟨sameLength, fun isPair => ?_⟩
    exact areFilled isPair (isIntact.operand
      (List.mem_cons_of_mem _ (List.of_mem_zip isPair).1))
  compare := by
    intro left left' right right' operator leftFilled rightFilled isIntact
    exact ⟨rfl, .compare
      (leftFilled (isIntact.child (.head _))).exchanged
      (rightFilled (isIntact.child (.tail _ (.head _)))).exchanged⟩
  choose := by
    intro condition condition' whenTrue whenTrue' otherwise otherwise'
      conditionFilled whenTrueFilled otherwiseFilled isIntact
    exact ⟨rfl, .choose
      (conditionFilled (isIntact.child (.head _))).exchanged
      (whenTrueFilled (isIntact.child (.tail _ (.head _)))).exchanged
      (otherwiseFilled
        (isIntact.child (.tail _ (.tail _ (.head _))))).exchanged⟩
  invalid := by
    intro tokens others reason other _ _ isIntact
    exact absurd (.self _) (isIntact _ _)

/-- Field values and instants are data: a formula without malformed parts has
in its context the value, and the anomalies, that it has in every context once
its references are filled in. -/
theorem evaluate_fill
    {context : Context}
    {quote : Char}
    {body : Text}
    (isQuote : IsQuote quote)
    (absent : quote ∉ context.field)
    (isIntact : (parse body).IsIntact)
    (other : Context) :
    evaluate other ('=' :: context.fill quote body) =
      evaluate context ('=' :: body) := by
  rw [evaluate, evaluate, Context.fill]
  cases tokenized : tokenize body with
  | error cause =>
      rw [parse, parseWithin, tokenized] at isIntact
      exact absurd (.self _) (isIntact _ _)
  | ok tokens =>
      obtain ⟨_, lexes⟩ := (Lexer.scan_eq_ok_iff.mp tokenized).filled isQuote
        absent
      obtain ⟨others, same, scans⟩ := lexes 0
      have filledTokenized : tokenize (Text.replaceSpans 0 body
          (context.replacements quote tokens)) = .ok others :=
        Lexer.scan_eq_ok_iff.mpr scans
      have sameTokens : (Correspondence.fill context).Tokens tokens others := by
        have mapped : List.Forall₂ (fun kind filled =>
            filled = context.fillKind kind) (kinds tokens) (kinds others) := by
          rw [same, List.forall₂_map_right_iff]
          exact List.forall₂_same.mpr fun _ _ => rfl
        rwa [kinds, kinds, List.forall₂_map_left_iff,
          List.forall₂_map_right_iff] at mapped
      have filled := (Correspondence.fill context).value_parsed nestingLimit
        sameTokens
      rw [parse, parseWithin, tokenized] at isIntact
      rw [parse, parse, parseWithin, parseWithin, tokenized, filledTokenized]
      have agree := (filled isIntact).exchanged.agreeUnless fun _ _ fills =>
        fills.agreeUnless (fun _ => False) other
      exact agree.eval fun _ _ isReported => isReported

/-- A field value that would end a literal and refer to the instant, and an
instant before the first one of 1970 that is added. -/
theorem evaluate_fill_sums :
    let context : Context := ⟨"' + @now", -5⟩
    let body : Text := "@currentField+'@now'==@now+1"
    IsQuote '"' ∧ '"' ∉ context.field ∧ (parse body).IsIntact ∧
    context.fill '"' body = " \"' + @now\" +'@now'== -5 +1".toList ∧
    ∀ other, evaluate other ('=' :: context.fill '"' body) =
      evaluate context ('=' :: body) := by
  intro context body
  have tokenized : tokenize body = .ok
      [⟨.field, 0, [], '@' :: fieldName⟩, ⟨.plus, 13, [], ['+']⟩,
        ⟨.text ('@' :: nowName), 14, [], '\'' :: '@' :: nowName ++ ['\'']⟩,
        ⟨.equals, 20, [], ['=', '=']⟩, ⟨.now, 22, [], '@' :: nowName⟩,
        ⟨.plus, 26, [], ['+']⟩, ⟨.number ['1'], 27, [], ['1']⟩] := by
    with_unfolding_all rfl
  have parsed : parse body = .compare .equal
      (.concat [.field, .text ('@' :: nowName)])
      (.add .now (.number ['1'])) := by
    rw [parse_eq_fragment tokenized]
    rfl
  have isIntact : (parse body).IsIntact := by
    have leaf {formula : Expr} (isValid : formula.isInvalid = false)
        (isLeaf : formula.children = []) : formula.IsIntact :=
      Expr.isIntact_of_children isValid (by simp [isLeaf])
    have pair {left right : Expr} (first : left.IsIntact)
        (second : right.IsIntact) : ∀ child ∈ [left, right], child.IsIntact := by
      simp [first, second]
    rw [parsed]
    exact Expr.isIntact_of_children rfl (pair
      (Expr.isIntact_of_children rfl (pair (leaf rfl rfl) (leaf rfl rfl)))
      (Expr.isIntact_of_children rfl (pair (leaf rfl rfl) (leaf rfl rfl))))
  have absent : '"' ∉ context.field := by decide
  exact ⟨.inr rfl, absent, isIntact, by decide +kernel,
    evaluate_fill (.inr rfl) absent isIntact⟩

end Formula
end CellPreview
