import CellPreview.Proofs.Formula.Exchange
import CellPreview.Proofs.Formula.Tracing
import CellPreview.Proofs.Text.Substitution

/-!
# What a text depends on

The value of a text depends on the field only if the text names the field, and
on the instant only if it names the instant. There are two ways from a name in
the text to the value: the tokens of a formula, and the substitution in the
source of a malformed piece. The tokens of a part of a formula are written in
the text, and so is the source of a malformed part. The numeral that is
substituted for the instant has no character of the other name, so it brings in
no name that the text does not have.
-/

namespace CellPreview
namespace Formula

open CellPreview.Formula.Parser

/-- Two contexts agree on the inputs that a text names. -/
structure AgreeOn (context changed : Context) (text : Text) : Prop where
  field : fieldToken <:+: text -> changed.field = context.field
  now : nowToken <:+: text -> changed.now = context.now

namespace AgreeOn

variable {context changed : Context} {text piece : Text}

/-- A piece of a text names nothing that the text does not name. -/
theorem of_isInfix
    (agree : AgreeOn context changed text)
    (within : piece <:+: text) :
    AgreeOn context changed piece :=
  ⟨fun named => agree.field (named.trans within),
    fun named => agree.now (named.trans within)⟩

/-- The numeral of an instant has no character of the name of the field. -/
theorem notMem_fieldToken_of_mem_ofInt
    {number : Int}
    {char : Char}
    (present : char ∈ Text.ofInt number) :
    char ∉ fieldToken := by
  have noNumeral : (fieldToken.all fun char =>
      !char.isDigit && char != '-') = true := by
    decide +kernel
  intro named
  have foreign := List.all_eq_true.mp noNumeral char named
  rw [Bool.and_eq_true, Bool.not_eq_true', bne_iff_ne] at foreign
  obtain ⟨notDigit, notMinus⟩ := foreign
  obtain ⟨sign, digits, same, signCases, _, areDigits⟩ :=
    exists_digits_ofInt number
  rw [same, List.mem_append] at present
  obtain isSign | isDigit := present
  · obtain rfl | rfl := signCases
    · cases isSign
    · exact notMinus (List.mem_singleton.mp isSign)
  · rw [areDigits char isDigit] at notDigit
    cases notDigit

theorem ofInt_ne_nil (number : Int) : Text.ofInt number ≠ [] := by
  obtain ⟨sign, digits, same, _, nonempty, _⟩ := exists_digits_ofInt number
  rw [same]
  exact List.append_ne_nil_of_right_ne_nil sign nonempty

theorem substituteTokens_eq (agree : AgreeOn context changed text) :
    substituteTokens changed text = substituteTokens context text := by
  have sameInstant : Text.replaceAll nowToken (Text.ofInt changed.now) text =
      Text.replaceAll nowToken (Text.ofInt context.now) text :=
    Text.replaceAll_congr fun named => by rw [agree.now named]
  rw [substituteTokens, substituteTokens, sameInstant]
  -- what names the field after the instant is put in named it before
  exact Text.replaceAll_congr fun named => agree.field
    (Text.isInfix_of_replaceAll (ofInt_ne_nil context.now)
      (fun _ => notMem_fieldToken_of_mem_ofInt) named)

end AgreeOn

/-! ## Formulas -/

theorem isInfix_written_of_isInfix
    {used more : List Token}
    (within : used <:+: more) :
    Token.written used <:+: Token.written more := by
  obtain ⟨before, after, rfl⟩ := within
  exact ⟨Token.written before, Token.written after, by simp⟩

theorem source_isInfix_written (tokens : List Token) :
    Token.source tokens <:+: Token.written tokens := by
  cases tokens with
  | nil => exact List.infix_refl _
  | cons first others =>
      rw [Token.source_cons, Token.written_cons, List.append_assoc]
      exact (List.suffix_append _ _).isInfix

/-- A formula is evaluated alike in two contexts that agree on what its tokens
write. -/
def DependsOnWritten (context changed : Context) : Reading Expr :=
  fun tokens formula =>
    AllSpelled tokens -> AgreeOn context changed (Token.written tokens) ->
    AgreeUnless (fun _ => False) context changed formula formula

namespace DependsOnWritten

variable {context changed : Context}

theorem of_spelled
    {kind : Token.Kind}
    {lexeme : Text}
    {value : Expr}
    (spelled : kind.Spelled lexeme)
    (isAtom : kind.atom? = some value)
    (agree : AgreeOn context changed lexeme) :
    AgreeUnless (fun _ => False) context changed value value := by
  cases spelled with
  | text | number =>
      cases isAtom
      exact ⟨fun _ => rfl, fun _ => rfl⟩
  | field =>
      cases isAtom
      refine ⟨fun _ => ?_, fun _ => rfl⟩
      rw [Expr.eval, Expr.eval, agree.field (List.infix_refl _)]
  | now =>
      cases isAtom
      refine ⟨fun _ => ?_, fun _ => rfl⟩
      rw [Expr.eval, Expr.eval, agree.now (List.infix_refl _)]
  | _ => cases isAtom

theorem isAtom
    {used : List Token}
    {value : Expr}
    (isAtom : IsAtom used value) :
    DependsOnWritten context changed used value := by
  intro spelled agree
  cases isAtom with
  | @token token _ isAtom =>
      have within : token.lexeme <:+: Token.written [token] := by
        simpa using (List.suffix_append token.gap token.lexeme).isInfix
      exact of_spelled (spelled token List.mem_cons_self) isAtom
        (agree.of_isInfix within)

theorem invalid (tokens : List Token) (cause : Error) :
    DependsOnWritten context changed tokens
      (.invalid (Token.source tokens) cause) := by
  intro _ agree
  have agree := agree.of_isInfix (source_isInfix_written tokens)
  refine ⟨fun _ => ?_, fun _ => rfl⟩
  rw [Expr.eval, Expr.eval, Evaluation.malformed, agree.substituteTokens_eq]
  rfl

theorem traces (context changed : Context) :
    Traces (DependsOnWritten context changed) where
  mono depends within spelled agree :=
    depends (fun token present => spelled token (within.subset present))
      (agree.of_isInfix (isInfix_written_of_isInfix within))
  atom := isAtom
  sum depends spelled agree :=
    .sum fun operand present => depends operand present spelled agree
  compare operator left right spelled agree :=
    (left spelled agree).compare (right spelled agree) operator
  call site levels arguments spelled agree := by
    have argument {run : Token × List Token × Token}
        (isArgument : run ∈ site.arguments) :=
      arguments run isArgument spelled agree
    exact (argument (.head _)).choose
      (fun _ => argument (.tail _ (.head _)))
      (fun _ => argument (.tail _ (.tail _ (.head _))))
  invalid := invalid

end DependsOnWritten

theorem eval_parse_congr
    {context changed : Context}
    {body : Text}
    (agree : AgreeOn context changed body) :
    (parse body).eval changed = (parse body).eval context := by
  cases tokenized : tokenize body with
  | error cause =>
      have agree := agree.of_isInfix body.trim_isInfix
      rw [parse_eq_invalid tokenized, Expr.eval, Expr.eval,
        Evaluation.malformed, agree.substituteTokens_eq]
      rfl
  | ok tokens =>
      have scans := Lexer.scan_eq_ok_iff.mp tokenized
      obtain ⟨trailing, same, _⟩ := scans.exists_trailing
      have written : Token.written tokens <:+: body := by
        rw [same]
        exact (List.prefix_append _ _).isInfix
      have depends := (DependsOnWritten.traces context changed).fragment
        nestingLimit tokens scans.spelled (agree.of_isInfix written)
      rw [parse_eq_fragment tokenized]
      exact depends.eval fun _ _ isReported => isReported

/-- A text has the same value, with the same anomalies, in two contexts that
agree on the inputs it names. -/
theorem evaluate_congr
    {context changed : Context}
    {text : Text}
    (agree : AgreeOn context changed text) :
    evaluate changed text = evaluate context text := by
  unfold evaluate
  split
  · exact eval_parse_congr (agree.of_isInfix (List.suffix_cons _ _).isInfix)
  · rw [substituteField, substituteField, Text.replaceAll_congr agree.field]

end Formula
end CellPreview
