import CellPreview.Formula.Evaluation
import CellPreview.Proofs.Formula.Tracing

/-!
# Malformed formulas

A formula that cannot be parsed has its trimmed source as its value, with one
anomaly, whether the scan failed or the parser. An argument that cannot be
parsed keeps the trimmed source between the two delimiters around it. For the
latter every call in a parsed formula is traced back to the tokens that it was
read from.
-/

namespace CellPreview
namespace Formula

open CellPreview.Formula.Parser

/-- Every call in a formula stands at a site among some tokens. -/
def HasSites (tokens : List Token) (formula : Expr) : Prop :=
  ∀ condition whenTrue otherwise,
    formula.Contains (.choose condition whenTrue otherwise) ->
    ∃ (site : CallSite) (levels : Nat), site.tokens <:+: tokens ∧
      site.value levels = .choose condition whenTrue otherwise

namespace HasSites

theorem mono
    {tokens more : List Token}
    {formula : Expr}
    (hasSites : HasSites tokens formula)
    (within : tokens <:+: more) :
    HasSites more formula := by
  intro condition whenTrue otherwise contains
  obtain ⟨site, levels, stands, value⟩ :=
    hasSites condition whenTrue otherwise contains
  exact ⟨site, levels, stands.trans within, value⟩

/-- A formula without parts other than itself has no call in it unless it is
one. -/
theorem of_leaf
    {formula : Expr}
    (leaf : formula.children = [])
    (tokens : List Token) :
    HasSites tokens formula := by
  intro condition whenTrue otherwise contains
  rw [← contains.eq_of_children_eq_nil leaf] at leaf
  cases leaf

theorem sum
    {tokens : List Token}
    {first : Expr}
    {others : List Expr}
    (hasSites : ∀ operand ∈ first :: others, HasSites tokens operand) :
    HasSites tokens (first.sum others) := by
  intro condition whenTrue otherwise contains
  cases others with
  | nil => exact hasSites first (by simp) _ _ _ contains
  | cons second others =>
      obtain same | ⟨operand, isOperand, inside⟩ := contains.of_sum
      · obtain ⟨_, _, added⟩ | ⟨_, concatenated⟩ :=
          Expr.sum_cons_cases first second others
        · rw [added] at same
          cases same
        · rw [concatenated] at same
          cases same
      · exact hasSites operand isOperand _ _ _ inside

theorem compare
    {tokens : List Token}
    {left right : Expr}
    (leftSites : HasSites tokens left)
    (rightSites : HasSites tokens right)
    (operator : Comparison) :
    HasSites tokens (.compare operator left right) := by
  intro condition whenTrue otherwise contains
  obtain same | ⟨child, isChild, inside⟩ := Expr.contains_iff.mp contains
  · cases same
  · rw [Expr.children, List.mem_cons, List.mem_singleton] at isChild
    obtain rfl | rfl := isChild
    · exact leftSites _ _ _ inside
    · exact rightSites _ _ _ inside

theorem isAtom
    {used : List Token}
    {value : Expr}
    (isAtom : IsAtom used value) :
    HasSites used value := by
  cases isAtom with
  | @token token _ isAtom =>
      apply HasSites.of_leaf
      unfold Token.Kind.atom? at isAtom
      split at isAtom <;> cases isAtom <;> rfl

theorem call
    (site : CallSite)
    (levels : Nat)
    (arguments : ∀ argument ∈ site.arguments,
      HasSites site.tokens (fragment (operand levels) argument.2.1)) :
    HasSites site.tokens (site.value levels) := by
  intro condition whenTrue otherwise contains
  obtain same | ⟨child, isChild, inside⟩ := Expr.contains_iff.mp contains
  · exact ⟨site, levels, List.infix_refl _, same.symm⟩
  · -- a call inside an argument stands at a site among the argument's tokens
    simp only [CallSite.value, Expr.children, List.mem_cons,
      List.not_mem_nil, or_false] at isChild
    obtain rfl | rfl | rfl := isChild
    · exact arguments _ (.head _) _ _ _ inside
    · exact arguments _ (.tail _ (.head _)) _ _ _ inside
    · exact arguments _ (.tail _ (.tail _ (.head _))) _ _ _ inside

theorem traces : Traces HasSites where
  mono hasSites within := hasSites.mono within
  atom := isAtom
  sum := sum
  compare operator leftSites rightSites := leftSites.compare rightSites operator
  call := call
  invalid tokens _ := of_leaf rfl tokens

end HasSites

/-- Every call in a parsed text stands at a site among its tokens. -/
theorem exists_site_of_contains
    {body : Text}
    {condition whenTrue otherwise : Expr}
    (contains : (parse body).Contains (.choose condition whenTrue otherwise)) :
    ∃ (tokens : List Token) (site : CallSite) (levels : Nat),
      tokenize body = .ok tokens ∧ site.tokens <:+: tokens ∧
      site.value levels = .choose condition whenTrue otherwise := by
  cases tokenized : tokenize body with
  | error cause =>
      rw [parse_eq_invalid tokenized] at contains
      cases contains.eq_of_children_eq_nil rfl
  | ok tokens =>
      rw [parse_eq_fragment tokenized] at contains
      obtain ⟨site, levels, stands, value⟩ :=
        HasSites.traces.fragment nestingLimit tokens _ _ _ contains
      exact ⟨tokens, site, levels, rfl, stands, value⟩

/-- What is invalid as a whole keeps the trimmed text. -/
theorem source_of_parse_eq_invalid
    {body source : Text}
    {cause : Error}
    (isInvalid : parse body = .invalid source cause) :
    source = body.trim := by
  cases tokenized : tokenize body with
  | error cause =>
      rw [parse_eq_invalid tokenized] at isInvalid
      cases isInvalid
      rfl
  | ok tokens =>
      rw [parse_eq_fragment tokenized] at isInvalid
      rw [← source_eq_trim tokenized]
      exact Parser.source_of_fragment_eq_invalid isInvalid

/-- A formula that is invalid has the trimmed form of a text as its source. -/
def Expr.KeepsSource (piece : Text) (formula : Expr) : Prop :=
  ∀ source cause, formula = .invalid source cause -> source = piece.trim

/-- An argument at a site keeps the text between its delimiters. -/
theorem CallSite.keepsSource
    {body : Text}
    {tokens run : List Token}
    {site : CallSite}
    {left right : Token}
    (tokenized : tokenize body = .ok tokens)
    (stands : site.tokens <:+: tokens)
    (isArgument : (left, run, right) ∈ site.arguments)
    (levels : Nat) :
    (fragment (operand levels) run).KeepsSource
      (body.slice left.stop right.start) := by
  obtain ⟨before, after, rfl⟩ := stands
  obtain ⟨first, last, same⟩ := exists_tokens_eq isArgument
  have around : tokenize body = .ok
      ((before ++ first) ++ left :: run ++ right :: (last ++ after)) := by
    rw [tokenized, same]
    simp
  intro source cause isInvalid
  rw [← source_eq_trim_slice around]
  exact Parser.source_of_fragment_eq_invalid isInvalid

/-- A malformed text has its trimmed source as its value, with one anomaly, and
so does an argument of a call for the text between its delimiters. -/
theorem malformed_keeps_trimmed_source (body : Text) :
    (∀ context source cause, parse body = .invalid source cause ->
      evaluate context ('=' :: body) =
        ⟨substituteTokens context body.trim,
          [.malformed body.trim cause]⟩) ∧
    (∀ condition whenTrue otherwise,
      (parse body).Contains (.choose condition whenTrue otherwise) ->
      ∃ (tokens : List Token) (site : CallSite) (levels : Nat),
        tokenize body = .ok tokens ∧ site.tokens <:+: tokens ∧
        site.value levels = .choose condition whenTrue otherwise ∧
        condition.KeepsSource
          (body.slice site.opening.stop site.firstComma.start) ∧
        whenTrue.KeepsSource
          (body.slice site.firstComma.stop site.secondComma.start) ∧
        otherwise.KeepsSource
          (body.slice site.secondComma.stop site.closing.start)) := by
  constructor
  · intro context source cause isInvalid
    have sourceEq := source_of_parse_eq_invalid isInvalid
    rw [evaluate, isInvalid, sourceEq]
    rfl
  · intro condition whenTrue otherwise contains
    obtain ⟨tokens, site, levels, tokenized, stands, value⟩ :=
      exists_site_of_contains contains
    refine ⟨tokens, site, levels, tokenized, stands, value, ?_⟩
    cases value
    refine ⟨?_, ?_, ?_⟩
    · exact CallSite.keepsSource tokenized stands (.head _) levels
    · exact CallSite.keepsSource tokenized stands (.tail _ (.head _)) levels
    · exact CallSite.keepsSource tokenized stands
        (.tail _ (.tail _ (.head _))) levels

/-- A literal that is never closed, and a call in which only the condition is
malformed. -/
theorem malformed_keeps_trimmed_source_call :
    evaluate ⟨['x'], 0⟩ ('=' :: " 2 + 'a ") =
      ⟨substituteTokens ⟨['x'], 0⟩ (Text.trim " 2 + 'a "),
        [.malformed (Text.trim " 2 + 'a ") (.unterminatedText 5)]⟩ ∧
    ∃ (tokens : List Token) (site : CallSite) (levels : Nat),
      tokenize "if( 1 + ,'a',2)" = .ok tokens ∧
      site.tokens <:+: tokens ∧
      site.value levels =
        .choose (.invalid ['1', ' ', '+'] .unexpectedEnd) (.text ['a'])
          (.number ['2']) ∧
      (Expr.invalid ['1', ' ', '+'] .unexpectedEnd).KeepsSource
        (Text.slice site.opening.stop site.firstComma.start
          "if( 1 + ,'a',2)") ∧
      (Expr.text ['a']).KeepsSource
        (Text.slice site.firstComma.stop site.secondComma.start
          "if( 1 + ,'a',2)") ∧
      (Expr.number ['2']).KeepsSource
        (Text.slice site.secondComma.stop site.closing.start
          "if( 1 + ,'a',2)") := by
  constructor
  · exact (malformed_keeps_trimmed_source " 2 + 'a ").1 ⟨['x'], 0⟩
      ['2', ' ', '+', ' ', '\'', 'a'] (.unterminatedText 5) (by with_unfolding_all rfl)
  · refine (malformed_keeps_trimmed_source "if( 1 + ,'a',2)").2
      (.invalid ['1', ' ', '+'] .unexpectedEnd) (.text ['a']) (.number ['2']) ?_
    have tokenized : tokenize "if( 1 + ,'a',2)" = .ok
        [⟨.word ['i', 'f'], 0, [], ['i', 'f']⟩, ⟨.leftParen, 2, [], ['(']⟩,
          ⟨.number ['1'], 4, [' '], ['1']⟩, ⟨.plus, 6, [' '], ['+']⟩,
          ⟨.comma, 8, [' '], [',']⟩, ⟨.text ['a'], 9, [], ['\'', 'a', '\'']⟩,
          ⟨.comma, 12, [], [',']⟩, ⟨.number ['2'], 13, [], ['2']⟩,
          ⟨.rightParen, 14, [], [')']⟩] := by
      with_unfolding_all rfl
    have parsed : parse "if( 1 + ,'a',2)" =
        .choose (.invalid ['1', ' ', '+'] .unexpectedEnd) (.text ['a'])
          (.number ['2']) := by
      rw [parse_eq_fragment tokenized]
      rfl
    rw [parsed]
    exact .self _

end Formula
end CellPreview
