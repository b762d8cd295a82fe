import CellPreview.Proofs.Formula.Independence

/-!
# Substitution in one pass

The references in the source of a malformed piece are replaced one name after
the other. The result is the same as that of one pass over the source which
replaces both names, because the numeral that is put in for the instant neither
holds nor completes a reference to the field, and what is put in for the field
is not looked at any more.
-/

namespace CellPreview
namespace Formula

/-- One pass over a text from left to right. A reference is replaced where it
stands, every other character is copied, and the pass goes on behind what it
has read, so that nothing it has put in is read again. -/
def substituteInOnePass (context : Context) : Text -> Text
  | [] => []
  | char :: rest =>
      if nowToken.isPrefixOf (char :: rest) then
        Text.ofInt context.now ++
          substituteInOnePass context (rest.drop nowName.length)
      else if fieldToken.isPrefixOf (char :: rest) then
        context.field ++
          substituteInOnePass context (rest.drop fieldName.length)
      else
        char :: substituteInOnePass context rest
termination_by text => text.length
decreasing_by all_goals simp only [List.length_drop, List.length_cons]; omega

/-- The numeral of an integer starts no reference. -/
theorem mark_notMem_ofInt (number : Int) : '@' ∉ Text.ofInt number :=
  fun present =>
    AgreeOn.notMem_fieldToken_of_mem_ofInt present List.mem_cons_self

/-- A reference to the instant at the front is replaced by the numeral, which
holds no reference to the field. -/
theorem substituteTokens_nowToken_append (context : Context) (rest : Text) :
    substituteTokens context (nowToken ++ rest) =
      Text.ofInt context.now ++ substituteTokens context rest := by
  rw [substituteTokens, nowToken, Text.replaceAll_cons_append, substituteField,
    fieldToken, Text.replaceAll_append_of_notMem (mark_notMem_ofInt context.now),
    substituteTokens, substituteField, fieldToken, nowToken]

/-- A reference to the field at the front holds no reference to the instant, so
it is replaced by the field. -/
theorem substituteTokens_fieldToken_append (context : Context) (rest : Text) :
    substituteTokens context (fieldToken ++ rest) =
      context.field ++ substituteTokens context rest := by
  have markAbsent : '@' ∉ fieldName := by decide +kernel
  have notNow : ¬('@' :: nowName).isPrefixOf ('@' :: (fieldName ++ rest)) := by
    have named : nowName.head? = some 'n' ∧ fieldName.head? = some 'c' := by
      decide +kernel
    intro starts
    obtain ⟨others, same⟩ := List.isPrefixOf_iff_prefix.mp starts
    have sameName := congrArg (·.tail.head?) same
    simp [named] at sameName
  rw [substituteTokens, fieldToken, nowToken, List.cons_append,
    Text.replaceAll_cons_of_not_isPrefixOf notNow,
    Text.replaceAll_append_of_notMem markAbsent, substituteField, fieldToken,
    ← List.cons_append, Text.replaceAll_cons_append, substituteTokens,
    substituteField, fieldToken, nowToken]

/-- A character that starts no reference is copied: the substitution of the
instant behind it completes no reference to the field. -/
theorem substituteTokens_cons
    {char : Char}
    {rest : Text}
    (notNow : ¬nowToken.isPrefixOf (char :: rest))
    (notField : ¬fieldToken.isPrefixOf (char :: rest))
    (context : Context) :
    substituteTokens context (char :: rest) =
      char :: substituteTokens context rest := by
  have stillNotField : ¬fieldToken.isPrefixOf
      (char :: Text.replaceAll nowToken (Text.ofInt context.now) rest) := by
    intro starts
    rw [← Text.replaceAll_cons_of_not_isPrefixOf notNow] at starts
    exact notField (List.isPrefixOf_iff_prefix.mpr
      (Text.isPrefix_of_replaceAll (AgreeOn.ofInt_ne_nil context.now)
        (fun _ => AgreeOn.notMem_fieldToken_of_mem_ofInt)
        (List.isPrefixOf_iff_prefix.mp starts)))
  rw [substituteTokens, Text.replaceAll_cons_of_not_isPrefixOf notNow,
    substituteField, Text.replaceAll_cons_of_not_isPrefixOf stillNotField,
    substituteTokens, substituteField]

theorem cons_eq_append_drop
    {mark char : Char}
    {name rest : Text}
    (starts : (mark :: name).isPrefixOf (char :: rest)) :
    char :: rest = mark :: name ++ rest.drop name.length := by
  obtain ⟨others, same⟩ := List.isPrefixOf_iff_prefix.mp starts
  obtain ⟨rfl, rfl⟩ := List.cons.inj same
  simp

/-- The references in the source of a malformed piece are replaced
simultaneously: the substitution of one name after the other is one pass over
the source. -/
theorem substituteTokens_eq_inOnePass (context : Context) (text : Text) :
    substituteTokens context text = substituteInOnePass context text := by
  fun_induction substituteInOnePass context text with
  | case1 => rfl
  | case2 char rest isNow inductionHypothesis =>
      calc substituteTokens context (char :: rest)
        _ = substituteTokens context (nowToken ++ rest.drop nowName.length) :=
            congrArg _ (cons_eq_append_drop isNow)
        _ = Text.ofInt context.now ++
              substituteTokens context (rest.drop nowName.length) :=
            substituteTokens_nowToken_append context _
        _ = _ := congrArg _ inductionHypothesis
  | case3 char rest _ isField inductionHypothesis =>
      calc substituteTokens context (char :: rest)
        _ = substituteTokens context (fieldToken ++ rest.drop fieldName.length) :=
            congrArg _ (cons_eq_append_drop isField)
        _ = context.field ++
              substituteTokens context (rest.drop fieldName.length) :=
            substituteTokens_fieldToken_append context _
        _ = _ := congrArg _ inductionHypothesis
  | case4 char rest notNow notField inductionHypothesis =>
      rw [substituteTokens_cons notNow notField, inductionHypothesis]

/-- A field that holds references does not have them replaced, and a numeral
does not complete one. -/
example :
    substituteTokens ⟨['@', 'n', 'o', 'w'], -5⟩ "@current@now@currentField@now" =
      "@current-5@now-5" := by
  decide +kernel

end Formula
end CellPreview
