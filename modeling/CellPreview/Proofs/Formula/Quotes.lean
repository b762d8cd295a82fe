import CellPreview.Proofs.Formula.Lexeme
import Mathlib.Data.List.Forall2

/-!
# Quotes

Where text literals begin and end is decided by the quotes alone. A scan that is
either outside of literals or in one, and reads one character at a time, finds
the literals that are among the tokens. It ends in a literal exactly where a
text is not divided into tokens.
-/

namespace CellPreview
namespace Formula

instance (char : Char) : Decidable (IsQuote char) :=
  inferInstanceAs (Decidable (_ ∨ _))

/-- What a scan for quotes has read of a text literal. -/
structure QuotedRun where
  quote : Char
  /-- Byte offset of the opening quote. -/
  start : Nat
  content : Text
  deriving DecidableEq

/-- A scan for quotes at some byte offset: the literal that it is in, if it is
in one, and the literals before that. -/
structure QuoteScan where
  offset : Nat
  unfinished : Option QuotedRun
  finished : List QuotedRun
  deriving DecidableEq

namespace QuoteScan

/-- The scan behind one more character. Outside of literals either quote opens
one, and inside of a literal nothing but its own quote closes it. -/
def step (scan : QuoteScan) (char : Char) : QuoteScan :=
  let offset := scan.offset + char.utf8Size
  match scan.unfinished with
  | none =>
      if IsQuote char then
        ⟨offset, some ⟨char, scan.offset, []⟩, scan.finished⟩
      else
        ⟨offset, none, scan.finished⟩
  | some run =>
      if char = run.quote then
        ⟨offset, none, scan.finished ++ [run]⟩
      else
        ⟨offset, some { run with content := run.content ++ [char] },
          scan.finished⟩

/-- The scan behind a text. -/
def through (scan : QuoteScan) (text : Text) : QuoteScan :=
  text.foldl step scan

/-- The scan of a whole text. -/
def ofText (text : Text) : QuoteScan :=
  through ⟨0, none, []⟩ text

theorem through_append (scan : QuoteScan) (first second : Text) :
    scan.through (first ++ second) = (scan.through first).through second :=
  List.foldl_append

theorem through_cons (scan : QuoteScan) (char : Char) (text : Text) :
    scan.through (char :: text) = (scan.step char).through text := rfl

variable {offset : Nat} {finished : List QuotedRun}

/-- Outside of literals nothing happens up to the next quote. -/
theorem through_of_forall_not_isQuote
    {text : Text}
    (noQuotes : ∀ char ∈ text, ¬IsQuote char) :
    through ⟨offset, none, finished⟩ text =
      ⟨offset + text.byteLength, none, finished⟩ := by
  induction text generalizing offset with
  | nil => rfl
  | cons char text inductionHypothesis =>
      obtain ⟨notQuote, noQuotes⟩ := List.forall_mem_cons.mp noQuotes
      have stays : step ⟨offset, none, finished⟩ char =
          ⟨offset + char.utf8Size, none, finished⟩ := by
        simp only [step, if_neg notQuote]
      rw [through_cons, stays, inductionHypothesis noQuotes,
        Text.byteLength_cons, Nat.add_assoc]

theorem through_of_forall_isBlank
    {gap : Text}
    (gapBlank : ∀ char ∈ gap, Text.isBlank char) :
    through ⟨offset, none, finished⟩ gap =
      ⟨offset + gap.byteLength, none, finished⟩ := by
  apply through_of_forall_not_isQuote
  intro char present isQuote
  have isBlank := gapBlank char present
  rw [isQuote.isBlank_eq_false] at isBlank
  cases isBlank

/-- A literal grows up to the next quote that is its own. -/
theorem through_of_notMem
    {quote : Char}
    {start : Nat}
    {content text : Text}
    (absent : quote ∉ text) :
    through ⟨offset, some ⟨quote, start, content⟩, finished⟩ text =
      ⟨offset + text.byteLength, some ⟨quote, start, content ++ text⟩,
        finished⟩ := by
  induction text generalizing offset content with
  | nil => rw [List.append_nil]; rfl
  | cons char text inductionHypothesis =>
      obtain ⟨differs, absent⟩ := not_or.mp (mt List.mem_cons.mpr absent)
      have grows : step ⟨offset, some ⟨quote, start, content⟩, finished⟩ char =
          ⟨offset + char.utf8Size, some ⟨quote, start, content ++ [char]⟩,
            finished⟩ := by
        simp only [step, if_neg (Ne.symm differs)]
      rw [through_cons, grows, inductionHypothesis absent,
        Text.byteLength_cons, Nat.add_assoc, List.append_assoc,
        List.singleton_append]

/-- A literal that is never closed. -/
theorem through_unclosed
    {quote : Char}
    {content : Text}
    (isQuote : IsQuote quote)
    (absent : quote ∉ content) :
    through ⟨offset, none, finished⟩ (quote :: content) =
      ⟨offset + Text.byteLength (quote :: content),
        some ⟨quote, offset, content⟩, finished⟩ := by
  have opens : step ⟨offset, none, finished⟩ quote =
      ⟨offset + quote.utf8Size, some ⟨quote, offset, []⟩, finished⟩ := by
    simp only [step, if_pos isQuote]
  rw [through_cons, opens, through_of_notMem absent, List.nil_append,
    Text.byteLength_cons, Nat.add_assoc]

/-- A literal as a whole. -/
theorem through_literal
    {quote : Char}
    {content : Text}
    (isQuote : IsQuote quote)
    (absent : quote ∉ content) :
    through ⟨offset, none, finished⟩ (quote :: content ++ [quote]) =
      ⟨offset + Text.byteLength (quote :: content ++ [quote]), none,
        finished ++ [⟨quote, offset, content⟩]⟩ := by
  rw [through_append, through_unclosed isQuote absent, through_cons,
    Text.byteLength_append, Text.byteLength_cons quote [],
    Text.byteLength_nil, Nat.add_zero, ← Nat.add_assoc]
  simp [step, through]

end QuoteScan

/-- Kinds of text literals. -/
def Token.Kind.isText : Kind -> Bool
  | .text _ => true
  | _ => false

/-- A token that is read from a literal with its quotes. -/
structure Token.IsReadFrom (token : Token) (run : QuotedRun) : Prop where
  kind_eq : token.kind = .text run.content
  start_eq : token.start = run.start
  lexeme_eq : token.lexeme = run.quote :: run.content ++ [run.quote]

theorem IsNumeral.not_isQuote {numeral : Text} (isNumeral : IsNumeral numeral) :
    ∀ char ∈ numeral, ¬IsQuote char := by
  have ofDigit {char : Char} (isDigit : char.isDigit) : ¬IsQuote char := by
    rintro (rfl | rfl) <;> cases isDigit
  cases isNumeral with
  | @numeral sign whole fraction signCases _ areDigits fractionCases =>
      intro char present
      simp only [List.mem_append] at present
      obtain (inSign | inWhole) | inFraction := present
      · obtain rfl | rfl := signCases
        · cases inSign
        · rw [List.mem_singleton] at inSign
          subst inSign
          decide
      · exact ofDigit (areDigits char inWhole)
      · obtain rfl | ⟨digits, rfl, _, fractionDigits⟩ := fractionCases
        · cases inFraction
        · obtain rfl | inDigits := List.mem_cons.mp inFraction
          · decide
          · exact ofDigit (fractionDigits char inDigits)

theorem not_isQuote_of_isWordPart
    {char : Char}
    (isWordPart : Text.isWordPart char) :
    ¬IsQuote char := by
  rintro (rfl | rfl) <;> revert isWordPart <;> decide

theorem not_isQuote_of_notMem
    {text : Text}
    (noApostrophe : '\'' ∉ text)
    (noDoubleQuote : '"' ∉ text) :
    ∀ char ∈ text, ¬IsQuote char := by
  rintro char present (rfl | rfl)
  · exact noApostrophe present
  · exact noDoubleQuote present

/-- What a token other than a text literal is read from has no quote, unless it
is a stray quote. -/
theorem Token.Kind.Spelled.not_isQuote
    {kind : Kind}
    {first : Char}
    {used : Text}
    (spelled : kind.Spelled (first :: used))
    (notText : kind.isText = false)
    (notQuote : ¬IsQuote first) :
    ∀ char ∈ first :: used, ¬IsQuote char := by
  generalize whole : first :: used = lexeme at spelled
  cases spelled with
  | text => cases notText
  | number isNumeral => exact isNumeral.not_isQuote
  | field | now | leftParen | rightParen | comma | plus | equals | atMost |
    atLeast => exact not_isQuote_of_notMem (by decide) (by decide)
  | reference areWordParts =>
      exact List.forall_mem_cons.mpr ⟨by decide, fun char present =>
        not_isQuote_of_isWordPart (areWordParts char present)⟩
  | word isWordStart areWordParts =>
      exact List.forall_mem_cons.mpr
        ⟨not_isQuote_of_isWordPart (Text.isWordPart_of_isWordStart isWordStart),
          fun char present =>
            not_isQuote_of_isWordPart (areWordParts char present)⟩
  | stray =>
      cases whole
      simpa using notQuote

namespace Lexer

/-- A quote is the first character of a text literal and of nothing else. -/
theorem isText_of_isQuote
    {first : Char}
    {rest : Text}
    {piece : Piece}
    (isQuote : IsQuote first)
    (found : piece? first rest = some piece) :
    piece.kind.isText := by
  unfold piece? at found
  rw [if_pos (by simpa [IsQuote] using isQuote), textPiece?] at found
  split at found
  · cases found
  · cases found
    rfl

/-- No token holds a quote but a text literal. -/
theorem not_isQuote_of_mem_lexeme
    {first : Char}
    {rest : Text}
    {piece : Piece}
    (notBlank : Text.isBlank first = false)
    (found : piece? first rest = some piece)
    (notText : piece.kind.isText = false) :
    ∀ char ∈ piece.lexeme, ¬IsQuote char := by
  have spelled := spelled_piece? notBlank found
  obtain ⟨used, lexeme, _⟩ := exists_lexeme_eq found
  rw [lexeme] at spelled ⊢
  refine spelled.not_isQuote notText fun isQuote => ?_
  rw [isText_of_isQuote isQuote found] at notText
  cases notText

/-- The scan for quotes finds in a token what the token is read from. -/
theorem exists_through_lexeme
    {first : Char}
    {rest : Text}
    {piece : Piece}
    (notBlank : Text.isBlank first = false)
    (found : piece? first rest = some piece)
    (offset : Nat)
    (gap : Text) :
    ∃ runs, List.Forall₂ Token.IsReadFrom
        ([⟨piece.kind, offset, gap, piece.lexeme⟩].filter (·.kind.isText))
        runs ∧
      ∀ finished, QuoteScan.through ⟨offset, none, finished⟩ piece.lexeme =
        ⟨offset + piece.lexeme.byteLength, none, finished ++ runs⟩ := by
  have spelled := spelled_piece? notBlank found
  cases isText : piece.kind.isText with
  | true =>
      obtain ⟨kind, lexeme, others⟩ := piece
      dsimp only at spelled isText ⊢
      cases spelled with
      | @text quote content isQuote absent =>
          exact ⟨[⟨quote, offset, content⟩],
            .cons ⟨rfl, rfl, rfl⟩ .nil,
            fun _ => QuoteScan.through_literal isQuote absent⟩
      | _ => cases isText
  | false =>
      refine ⟨[], by simp [isText], fun finished => ?_⟩
      rw [List.append_nil]
      exact QuoteScan.through_of_forall_not_isQuote
        (not_isQuote_of_mem_lexeme notBlank found isText)

/-- The scan for quotes passes a token and the blanks before it. -/
theorem exists_through_token
    {gap rest : Text}
    {first : Char}
    {piece : Piece}
    (gapBlank : ∀ char ∈ gap, Text.isBlank char)
    (notBlank : Text.isBlank first = false)
    (found : piece? first rest = some piece)
    (offset : Nat) :
    ∃ runs, List.Forall₂ Token.IsReadFrom
        ([⟨piece.kind, offset + gap.byteLength, gap, piece.lexeme⟩].filter
          (·.kind.isText)) runs ∧
      ∀ finished,
        QuoteScan.through ⟨offset, none, finished⟩ (gap ++ first :: rest) =
          QuoteScan.through
            ⟨offset + gap.byteLength + piece.lexeme.byteLength, none,
              finished ++ runs⟩ piece.rest := by
  obtain ⟨runs, areRuns, throughLexeme⟩ :=
    exists_through_lexeme notBlank found (offset + gap.byteLength) gap
  refine ⟨runs, areRuns, fun finished => ?_⟩
  rw [← piece?_covers found, QuoteScan.through_append,
    QuoteScan.through_append, QuoteScan.through_of_forall_isBlank gapBlank,
    throughLexeme]

/-- Where a text is divided into tokens, the scan for quotes finds the text
literals among them, and ends outside of literals. -/
theorem Scans.exists_through
    {offset : Nat}
    {text : Text}
    {tokens : List Token}
    (scans : Scans offset text tokens) :
    ∃ runs, List.Forall₂ Token.IsReadFrom (tokens.filter (·.kind.isText))
        runs ∧
      ∀ finished, ∃ stop,
        QuoteScan.through ⟨offset, none, finished⟩ text =
          ⟨stop, none, finished ++ runs⟩ := by
  induction scans with
  | @blank offset gap gapBlank =>
      refine ⟨[], .nil, fun finished => ⟨offset + gap.byteLength, ?_⟩⟩
      rw [QuoteScan.through_of_forall_isBlank gapBlank, List.append_nil]
  | @token offset gap rest first piece tokens gapBlank notBlank found _
      inductionHypothesis =>
      obtain ⟨runs, areRuns, throughToken⟩ :=
        exists_through_token gapBlank notBlank found offset
      obtain ⟨others, areOthers, throughRest⟩ := inductionHypothesis
      refine ⟨runs ++ others, ?_, fun finished => ?_⟩
      · rw [← List.singleton_append, List.filter_append]
        exact List.rel_append areRuns areOthers
      · rw [throughToken, ← List.append_assoc]
        exact throughRest (finished ++ runs)

theorem Scans.not_isQuote
    {offset : Nat}
    {text : Text}
    {tokens : List Token}
    (scans : Scans offset text tokens) :
    ∀ token ∈ tokens, token.kind.isText = false ->
      ∀ char ∈ token.lexeme, ¬IsQuote char := by
  induction scans with
  | blank => exact nofun
  | token _ notBlank found _ inductionHypothesis =>
      exact List.forall_mem_cons.mpr
        ⟨not_isQuote_of_mem_lexeme notBlank found, inductionHypothesis⟩

/-- Where a text is not divided into tokens, the scan for quotes ends in the
literal that is to blame. -/
theorem Stops.exists_unfinished
    {offset : Nat}
    {text : Text}
    {cause : Error}
    (stops : Stops offset text cause)
    (finished : List QuotedRun) :
    ∃ run, (QuoteScan.through ⟨offset, none, finished⟩ text).unfinished =
        some run ∧
      cause = .unterminatedText run.start := by
  induction stops generalizing finished with
  | @unclosed offset gap rest first gapBlank absent =>
      obtain ⟨isQuote, notInRest⟩ := isQuote_of_piece?_eq_none absent
      refine ⟨⟨first, offset + gap.byteLength, rest⟩, ?_, rfl⟩
      rw [QuoteScan.through_append,
        QuoteScan.through_of_forall_isBlank gapBlank,
        QuoteScan.through_unclosed isQuote notInRest]
  | @token offset gap rest first piece cause gapBlank notBlank found _
      inductionHypothesis =>
      obtain ⟨runs, _, throughToken⟩ :=
        exists_through_token gapBlank notBlank found offset
      rw [throughToken]
      exact inductionHypothesis _

end Lexer

/-- Where text literals begin and end is decided by the quotes alone. The
division into tokens fails if and only if the scan for quotes ends in a literal,
and names the offset of its opening quote. Otherwise the text literals among the
tokens are those of the scan, and no other token holds a quote. -/
theorem literals_agree_with_quotes (body : Text) :
    (∀ cause, tokenize body = .error cause ↔
        ∃ run, (QuoteScan.ofText body).unfinished = some run ∧
          cause = .unterminatedText run.start) ∧
      ∀ tokens, tokenize body = .ok tokens ->
        List.Forall₂ Token.IsReadFrom (tokens.filter (·.kind.isText))
          (QuoteScan.ofText body).finished ∧
        ∀ token ∈ tokens, token.kind.isText = false ->
          ∀ char ∈ token.lexeme, ¬IsQuote char := by
  have ofTokens {tokens : List Token} (tokenized : tokenize body = .ok tokens) :
      (QuoteScan.ofText body).unfinished = none ∧
        List.Forall₂ Token.IsReadFrom (tokens.filter (·.kind.isText))
          (QuoteScan.ofText body).finished := by
    obtain ⟨runs, areRuns, through⟩ :=
      (Lexer.scan_eq_ok_iff.mp tokenized).exists_through
    obtain ⟨stop, ends⟩ := through []
    rw [QuoteScan.ofText, ends]
    exact ⟨rfl, areRuns⟩
  refine ⟨fun cause => ⟨fun failed =>
      (Lexer.stops_of_scan failed).exists_unfinished [], ?_⟩,
    fun tokens tokenized => ⟨(ofTokens tokenized).2,
      (Lexer.scan_eq_ok_iff.mp tokenized).not_isQuote⟩⟩
  rintro ⟨run, unfinished, rfl⟩
  cases divided : tokenize body with
  | ok tokens =>
      rw [(ofTokens divided).1] at unfinished
      cases unfinished
  | error cause =>
      obtain ⟨other, same, rfl⟩ :=
        (Lexer.stops_of_scan divided).exists_unfinished []
      rw [QuoteScan.ofText] at unfinished
      rw [unfinished] at same
      cases same
      rfl

/-- An apostrophe in a literal between double quotes, and a literal behind it
that is not closed by them. -/
theorem literals_agree_with_quotes_apostrophe :
    let closed : Text := "\"it's\" + x"
    let tokens : List Token :=
      [⟨.text ['i', 't', '\'', 's'], 0, [], "\"it's\""⟩,
        ⟨.plus, 7, [' '], ['+']⟩, ⟨.word ['x'], 9, [' '], ['x']⟩]
    let unclosed : Text := "\"it's\" + 'é\""
    tokenize closed = .ok tokens ∧
      List.Forall₂ Token.IsReadFrom (tokens.filter (·.kind.isText))
        [⟨'"', 0, ['i', 't', '\'', 's']⟩] ∧
      (∀ char ∈ ['x'], ¬IsQuote char) ∧
      tokenize unclosed = .error (.unterminatedText 9) := by
  intro closed tokens unclosed
  have tokenized : tokenize closed = .ok tokens := by decide +kernel
  obtain ⟨literals, others⟩ :=
    (literals_agree_with_quotes closed).2 tokens tokenized
  exact ⟨tokenized, literals,
    others ⟨.word ['x'], 9, [' '], ['x']⟩ (by decide) rfl,
    ((literals_agree_with_quotes unclosed).1 _).mpr
      ⟨⟨'\'', 9, ['é', '"']⟩, by decide +kernel, rfl⟩⟩

end Formula
end CellPreview
