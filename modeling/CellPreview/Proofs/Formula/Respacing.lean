import CellPreview.Formula.Evaluation
import CellPreview.Proofs.Formula.RoundTrip
import CellPreview.Proofs.Formula.Translation

/-!
# Blanks between tokens

A token that is read in a text is also read by itself, and then in front of any
blank. So the tokens of a formula may be written with other blanks between them
and keep their kinds. The parsers look at nothing but the kinds: formulas with
the same kinds of tokens are the same tree, except for the sources and offsets
that their malformed parts carry.
-/

namespace CellPreview
namespace Formula

/-! ## Tokens by themselves -/

namespace Lexer

section

variable {first : Char} {used rest : Text} {kind : Token.Kind}

theorem textPiece?_alone
    (found : textPiece? first (used ++ rest) =
      some ⟨kind, first :: used, rest⟩) :
    textPiece? first used = some ⟨kind, first :: used, []⟩ := by
  have alone := @textPiece?_congr first used rest [] kind found
  rwa [List.append_nil] at alone

theorem numberPiece_alone
    (found : numberPiece first (used ++ rest) = ⟨kind, first :: used, rest⟩) :
    numberPiece first used = ⟨kind, first :: used, []⟩ := by
  simp only [numberPiece, Piece.mk.injEq, List.cons_append, List.cons.injEq,
    true_and] at found
  obtain ⟨sameKind, sameUsed, _⟩ := found
  have areDigits : ∀ char ∈ (used ++ rest).takeWhile Char.isDigit,
      char.isDigit := fun _ present => List.mem_takeWhile_imp present
  have alone := numberPiece_of_digits areDigits
    (fraction_cases ((used ++ rest).dropWhile Char.isDigit)) first
  rw [List.cons_append, sameUsed] at alone
  rw [alone, ← sameKind, sameUsed]

/-- A run that was taken from a longer text is taken as a whole by itself. -/
theorem takeWhile_alone
    {predicate : Char -> Bool}
    (taken : (used ++ rest).takeWhile predicate = used) :
    used.takeWhile predicate = used ∧ used.dropWhile predicate = [] := by
  have holds : ∀ char ∈ used, predicate char := by
    intro char present
    rw [← taken] at present
    exact List.mem_takeWhile_imp present
  exact ⟨List.takeWhile_eq_self_iff.mpr holds,
    List.dropWhile_eq_nil_iff.mpr holds⟩

theorem referencePiece_alone
    (found : referencePiece (used ++ rest) = ⟨kind, '@' :: used, rest⟩) :
    referencePiece used = ⟨kind, '@' :: used, []⟩ := by
  simp only [referencePiece, Piece.mk.injEq, List.cons.injEq, true_and] at found
  obtain ⟨sameKind, taken, _⟩ := found
  obtain ⟨takenAlone, nothingLeft⟩ := takeWhile_alone taken
  rw [referencePiece, takenAlone, nothingLeft, ← sameKind, taken]

theorem wordPiece_alone
    (found : wordPiece first (used ++ rest) = ⟨kind, first :: used, rest⟩) :
    wordPiece first used = ⟨kind, first :: used, []⟩ := by
  simp only [wordPiece, Piece.mk.injEq, List.cons.injEq, true_and] at found
  obtain ⟨sameKind, taken, _⟩ := found
  obtain ⟨takenAlone, nothingLeft⟩ := takeWhile_alone taken
  rw [wordPiece, takenAlone, nothingLeft, ← sameKind, taken]

theorem singlePiece_alone
    {single : Token.Kind}
    (found : singlePiece single first (used ++ rest) =
      ⟨kind, first :: used, rest⟩) :
    singlePiece single first used = ⟨kind, first :: used, []⟩ := by
  have alone := singlePiece_congr found []
  rwa [List.append_nil] at alone

theorem comparisonPiece_alone
    {operator : Token.Kind}
    (found : comparisonPiece operator first (used ++ rest) =
      ⟨kind, first :: used, rest⟩) :
    comparisonPiece operator first used = ⟨kind, first :: used, []⟩ := by
  unfold comparisonPiece at found
  split at found
  · simp only [Piece.mk.injEq, List.cons.injEq, true_and] at found
    obtain ⟨rfl, rfl, _⟩ := found
    rfl
  · have alone := singlePiece_alone found
    simp only [singlePiece, Piece.mk.injEq, List.cons.injEq, true_and] at found
    obtain ⟨_, rfl, _⟩ := found
    exact alone

/-- A number starts by itself as it starts in a text. -/
theorem startsNumber_alone
    (found : first.isDigit || (first = '-' && startsWithDigit (used ++ rest)))
    (sameUsed : (numberPiece first (used ++ rest)).lexeme = first :: used) :
    first.isDigit || (first = '-' && startsWithDigit used) := by
  by_cases isDigit : first.isDigit
  · rw [isDigit, Bool.true_or]
  · simp only [isDigit, Bool.false_or, Bool.and_eq_true,
      decide_eq_true_eq] at found ⊢
    refine ⟨found.1, ?_⟩
    cases used with
    | cons => exact found.2
    | nil =>
        -- the digit after the sign is a part of the number
        have taken := isDigit_of_startsWithDigit found.2
        rw [numberPiece, List.cons_append] at sameUsed
        exact absurd (List.append_eq_nil_iff.mp (List.cons.inj sameUsed).2).1
          taken

/-- A token that is read in a text is also read by itself. -/
theorem piece?_alone
    (found : piece? first (used ++ rest) = some ⟨kind, first :: used, rest⟩) :
    piece? first used = some ⟨kind, first :: used, []⟩ := by
  unfold piece? at found ⊢
  split at found
  · rw [if_pos ‹_›]
    exact textPiece?_alone found
  · rw [if_neg ‹_›]
    split at found
    · have found := Option.some.inj found
      rw [if_pos (startsNumber_alone ‹_› (congrArg Piece.lexeme found)),
        numberPiece_alone found]
    · rename_i startsNoNumber
      have startsNone :
          ¬(first.isDigit || (first = '-' && startsWithDigit used)) := by
        intro starts
        apply startsNoNumber
        cases used with
        | cons => exact starts
        | nil => simp_all [startsWithDigit]
      rw [if_neg startsNone]
      split at found
      · rename_i isReference
        subst isReference
        rw [if_pos rfl, referencePiece_alone (Option.some.inj found)]
      · rw [if_neg ‹_›]
        split at found
        · rw [if_pos ‹_›, wordPiece_alone (Option.some.inj found)]
        · rw [if_neg ‹_›]
          have found := Option.some.inj found
          congr 1
          split at found
          all_goals first
            | exact comparisonPiece_alone found
            | exact singlePiece_alone found

end

end Lexer

/-- A token that is read from its own characters when a text ends with it. -/
def Token.StandsAlone (token : Token) : Prop :=
  ∃ first used, token.lexeme = first :: used ∧ Text.isBlank first = false ∧
    Lexer.piece? first used = some ⟨token.kind, token.lexeme, []⟩

theorem Lexer.Scans.standsAlone
    {offset : Nat}
    {text : Text}
    {tokens : List Token}
    (scans : Scans offset text tokens) :
    ∀ token ∈ tokens, token.StandsAlone := by
  induction scans with
  | blank _ => simp
  | @token offset gap rest first piece tokens _ notBlank found _
      inductionHypothesis =>
      refine List.forall_mem_cons.mpr ⟨?_, inductionHypothesis⟩
      obtain ⟨used, lexeme, rfl⟩ := exists_lexeme_eq found
      refine ⟨first, used, lexeme, notBlank, ?_⟩
      dsimp only
      rw [lexeme]
      apply @piece?_alone first used piece.rest
      rw [found, ← lexeme]

/-! ## Other blanks -/

/-- Texts without a character that is not blank. -/
def AreBlank (gap : Text) : Prop :=
  ∀ char ∈ gap, Text.isBlank char

/-- Texts in which the characters of some tokens stand in their order, with
blanks between any two of them and perhaps at the ends. -/
inductive Respaced : List Token -> Text -> Prop
  | none {gap : Text} : AreBlank gap -> Respaced [] gap
  | last {token : Token} {before behind : Text} :
      AreBlank before -> AreBlank behind ->
      Respaced [token] (before ++ token.lexeme ++ behind)
  | more {token next : Token} {others : List Token}
      {before between rest : Text} :
      AreBlank before -> AreBlank between -> between ≠ [] ->
      Respaced (next :: others) rest ->
      Respaced (token :: next :: others)
        (before ++ token.lexeme ++ (between ++ rest))

/-- A blank lengthens no token. -/
theorem Lexer.delimits_of_isBlank
    {char : Char}
    (isBlank : Text.isBlank char)
    (rest : Text) :
    Delimits (char :: rest) := by
  refine delimits_cons
    ⟨Text.isWordPart_eq_false_of_isBlank isBlank, ?_, ?_, ?_⟩ rest
  · rw [Bool.eq_false_iff]
    intro isDigit
    rw [Text.isBlank_eq_false_of_isDigit isDigit] at isBlank
    cases isBlank
  · rintro rfl
    cases isBlank
  · rintro rfl
    cases isBlank

/-- A token by itself may be written in front of a delimiter. -/
theorem Token.StandsAlone.lexes
    {token : Token}
    (standsAlone : token.StandsAlone)
    {text : Text}
    {run : List Token.Kind}
    (delimits : Lexer.Delimits text)
    (lexes : Lexes text run) :
    Lexes (token.lexeme ++ text) (token.kind :: run) := by
  obtain ⟨first, used, lexeme, notBlank, found⟩ := standsAlone
  have read := Lexer.piece?_append found delimits
  rw [List.nil_append] at read
  rw [lexeme]
  exact lexes.piece notBlank read

theorem AreBlank.delimits
    {gap : Text}
    (areBlank : AreBlank gap)
    (nonempty : gap ≠ [])
    (rest : Text) :
    Lexer.Delimits (gap ++ rest) := by
  obtain ⟨char, others, rfl⟩ := List.exists_cons_of_ne_nil nonempty
  exact Lexer.delimits_of_isBlank (areBlank char List.mem_cons_self) _

theorem AreBlank.lexes {gap : Text} (areBlank : AreBlank gap) :
    Lexes gap [] := by
  have blanks := Lexes.nil.gap areBlank
  rwa [List.append_nil] at blanks

/-- Tokens keep their kinds with other blanks between them. -/
theorem Respaced.lexes
    {tokens : List Token}
    {text : Text}
    (respaced : Respaced tokens text)
    (standAlone : ∀ token ∈ tokens, token.StandsAlone) :
    Lexes text (kinds tokens) := by
  induction respaced with
  | none areBlank => exact areBlank.lexes
  | @last token before behind beforeBlank behindBlank =>
      have isAlone := standAlone token List.mem_cons_self
      rw [List.append_assoc]
      refine Lexes.gap (isAlone.lexes ?_ behindBlank.lexes) beforeBlank
      cases behind with
      | nil => exact Lexer.delimits_nil
      | cons char others =>
          exact Lexer.delimits_of_isBlank
            (behindBlank char List.mem_cons_self) others
  | @more token next others before between rest beforeBlank betweenBlank
      nonempty _ inductionHypothesis =>
      obtain ⟨isAlone, othersAlone⟩ := List.forall_mem_cons.mp standAlone
      rw [List.append_assoc]
      exact Lexes.gap (isAlone.lexes (betweenBlank.delimits nonempty rest)
        ((inductionHypothesis othersAlone).gap betweenBlank)) beforeBlank

/-! ## Trees without places -/

/-- A cause without the offset that it points at. -/
def Error.erased : Error -> Error
  | .unterminatedText _ => .unterminatedText 0
  | .unexpected found _ => .unexpected found 0
  | .unclosed _ => .unclosed 0
  | .unknownReference name _ => .unknownReference name 0
  | cause => cause

namespace Expr

mutual

/-- A formula whose malformed parts are left without source and offset. -/
def erased : Expr -> Expr
  | .concat parts => .concat (erasedAll parts)
  | .add left right => .add left.erased right.erased
  | .compare operator left right => .compare operator left.erased right.erased
  | .choose condition whenTrue otherwise =>
      .choose condition.erased whenTrue.erased otherwise.erased
  | .invalid _ cause => .invalid [] cause.erased
  | leaf => leaf

/-- Formulas whose malformed parts are left without source and offset. -/
def erasedAll : List Expr -> List Expr
  | [] => []
  | formula :: others => formula.erased :: erasedAll others

end

theorem erasedAll_eq_map (formulas : List Expr) :
    erasedAll formulas = formulas.map erased := by
  induction formulas with
  | nil => rfl
  | cons formula others inductionHypothesis =>
      rw [erasedAll, inductionHypothesis, List.map_cons]

@[simp] theorem isInteger_erased (formula : Expr) :
    formula.erased.isInteger = formula.isInteger := by
  cases formula <;> rfl

@[simp] theorem children_erased (formula : Expr) :
    formula.erased.children = formula.children.map erased := by
  cases formula with
  | concat parts => exact erasedAll_eq_map parts
  | _ => rfl

theorem erased_sum (first : Expr) (others : List Expr) :
    (first.sum others).erased = first.erased.sum (others.map erased) := by
  match others with
  | [] => rfl
  | [second] =>
      simp only [sum, List.map_cons, List.map_nil, isInteger_erased]
      split <;> rfl
  | second :: third :: others =>
      simp only [sum, erased, erasedAll_eq_map, List.map_cons]

/-- Nothing is left out of a formula without malformed parts. -/
theorem erased_of_isIntact
    {formula : Expr}
    (isIntact : formula.IsIntact) :
    formula.erased = formula := by
  induction formula using induction_children with
  | step formula inductionHypothesis =>
      have same (child : Expr) (isChild : child ∈ formula.children) :
          child.erased = child :=
        inductionHypothesis child isChild (isIntact.child isChild)
      cases formula with
      | concat parts =>
          have sameParts : parts.map erased = parts.map fun part => part :=
            List.map_congr_left same
          rw [erased, erasedAll_eq_map, sameParts, List.map_id']
      | add left right =>
          rw [erased, same left (.head _), same right (.tail _ (.head _))]
      | compare operator left right =>
          rw [erased, same left (.head _), same right (.tail _ (.head _))]
      | choose condition whenTrue otherwise =>
          rw [erased, same condition (.head _), same whenTrue (.tail _ (.head _)),
            same otherwise (.tail _ (.tail _ (.head _)))]
      | invalid source cause => exact absurd (.self _) (isIntact source cause)
      | text | number | field | now => rfl

theorem isIntact_of_erased
    {formula : Expr}
    (isIntact : formula.erased.IsIntact) :
    formula.IsIntact := by
  induction formula using induction_children with
  | step formula inductionHypothesis =>
      apply isIntact_of_children
      · cases formula with
        | invalid source cause => exact absurd (.self _) (isIntact _ _)
        | _ => rfl
      · intro child isChild
        apply inductionHypothesis child isChild
        apply isIntact.child
        rw [children_erased]
        exact List.mem_map_of_mem isChild

/-- A formula without malformed parts is no other than the one that looks the
same without sources and offsets. -/
theorem IsIntact.eq_of_erased_eq
    {formula other : Expr}
    (isIntact : formula.IsIntact)
    (same : other.erased = formula.erased) :
    other = formula := by
  rw [erased_of_isIntact isIntact] at same
  have otherIntact : other.IsIntact := by
    apply isIntact_of_erased
    rwa [same]
  rw [← same, erased_of_isIntact otherIntact]

end Expr

/-- Tokens correspond when they are of the same kind, and everything else when it
is the same without sources and offsets. -/
def Correspondence.ofKinds : Correspondence where
  token first second := first.kind = second.kind
  cause reason other := reason.erased = other.erased
  value formula other := formula.erased = other.erased
  playsAs same := .inl same
  misplaced same := by rw [Token.misplaced, Token.misplaced, same]; rfl
  unclosed _ := rfl
  unknownReference _ _ := rfl
  cause_refl _ := rfl
  atom := by
    intro first second left right same isLeft isRight
    rw [← same] at isRight
    rw [Option.some.inj (isLeft.symm.trans isRight)]
  sum := by
    intro first second values others same areSame
    rw [Expr.erased_sum, Expr.erased_sum, same]
    congr 1
    induction areSame with
    | nil => rfl
    | cons same _ inductionHypothesis =>
        rw [List.map_cons, List.map_cons, same, inductionHypothesis]
  compare := by
    intro left left' right right' operator sameLeft sameRight
    rw [Expr.erased, Expr.erased, sameLeft, sameRight]
  choose := by
    intro condition condition' whenTrue whenTrue' otherwise otherwise'
      sameCondition sameWhenTrue sameOtherwise
    rw [Expr.erased, Expr.erased, sameCondition, sameWhenTrue, sameOtherwise]
  invalid := by
    intro tokens others reason other _ sameCause
    rw [Expr.erased, Expr.erased, sameCause]

/-- The kinds of its tokens decide what a formula is parsed to, but for sources
and offsets. -/
theorem erased_parse_congr
    {body other : Text}
    {tokens others : List Token}
    (tokenized : tokenize body = .ok tokens)
    (otherTokenized : tokenize other = .ok others)
    (sameKinds : kinds others = kinds tokens) :
    (parse other).erased = (parse body).erased := by
  have sameTokens : Correspondence.ofKinds.Tokens others tokens := by
    rw [kinds, kinds, ← List.forall₂_eq_eq_eq, List.forall₂_map_left_iff,
      List.forall₂_map_right_iff] at sameKinds
    exact sameKinds
  rw [parse_eq_fragment tokenized, parse_eq_fragment otherTokenized]
  exact Correspondence.ofKinds.value_parsed nestingLimit sameTokens

/-- Blanks between tokens have no meaning: other blanks leave the kinds of the
tokens, equal kinds are parsed to the same tree but for sources and offsets, and
so a formula without malformed parts stays what it is. -/
theorem respacing_keeps_formula
    {body : Text}
    {tokens : List Token}
    (tokenized : tokenize body = .ok tokens) :
    (∀ text, Respaced tokens text ->
      ∃ others, tokenize text = .ok others ∧ kinds others = kinds tokens) ∧
    (∀ text others, tokenize text = .ok others -> kinds others = kinds tokens ->
      (parse text).erased = (parse body).erased) ∧
    ((parse body).IsIntact -> ∀ text, Respaced tokens text ->
      parse text = parse body ∧
        ∀ context, evaluate context ('=' :: text) =
          evaluate context ('=' :: body)) := by
  have scans := Lexer.scan_eq_ok_iff.mp tokenized
  have respaced (text : Text) (isRespaced : Respaced tokens text) :
      ∃ others, tokenize text = .ok others ∧ kinds others = kinds tokens := by
    obtain ⟨others, sameKinds, otherScans⟩ :=
      isRespaced.lexes scans.standsAlone 0
    exact ⟨others, Lexer.scan_eq_ok_iff.mpr otherScans, sameKinds⟩
  refine ⟨respaced, fun text others => erased_parse_congr tokenized,
    fun isIntact text isRespaced => ?_⟩
  obtain ⟨others, otherTokenized, sameKinds⟩ := respaced text isRespaced
  have same : parse text = parse body := isIntact.eq_of_erased_eq
    (erased_parse_congr tokenized otherTokenized sameKinds)
  refine ⟨same, fun context => ?_⟩
  rw [evaluate, evaluate, same]

/-- A comparison with a negative number, first without any blanks and then with
blanks of several sorts. -/
theorem respacing_keeps_formula_comparison :
    let body : Text := "@now<=-5"
    let text : Text := "\t@now <=\n -5\u00a0"
    let tokens : List Token :=
      [⟨.now, 0, [], '@' :: nowName⟩, ⟨.atMost, 4, [], ['<', '=']⟩,
        ⟨.number ['-', '5'], 6, [], ['-', '5']⟩]
    tokenize body = .ok tokens ∧ Respaced tokens text ∧
      (parse body).IsIntact ∧ parse text = parse body ∧
      ∀ context, evaluate context ('=' :: text) =
        evaluate context ('=' :: body) := by
  intro body text tokens
  have tokenized : tokenize body = .ok tokens := by with_unfolding_all rfl
  have areBlank (gap : Text) (isBlank : gap.all Text.isBlank) : AreBlank gap :=
    List.all_eq_true.mp isBlank
  have respaced : Respaced tokens text := by
    have written : text = ['\t'] ++ '@' :: nowName ++ ([' '] ++
        ([] ++ ['<', '='] ++ (['\n', ' '] ++
          ([] ++ ['-', '5'] ++ ['\u00a0'])))) := by
      decide +kernel
    rw [written]
    exact .more (areBlank _ rfl) (areBlank _ rfl) (by simp) <|
      .more (areBlank _ rfl) (areBlank _ rfl) (by simp) <|
      .last (areBlank _ rfl) (areBlank _ rfl)
  have isIntact : (parse body).IsIntact := by
    have parsed : parse body = .compare .atMost .now (.number ['-', '5']) := by
      rw [parse_eq_fragment tokenized]
      rfl
    rw [parsed]
    refine Expr.isIntact_of_children rfl fun child isChild => ?_
    rw [Expr.children, List.mem_cons, List.mem_singleton] at isChild
    obtain rfl | rfl := isChild
    · exact Expr.isIntact_of_children rfl (by simp [Expr.children])
    · exact Expr.isIntact_of_children rfl (by simp [Expr.children])
  obtain ⟨_, _, keeps⟩ := respacing_keeps_formula tokenized
  exact ⟨tokenized, respaced, isIntact, keeps isIntact text respaced⟩

end Formula
end CellPreview
