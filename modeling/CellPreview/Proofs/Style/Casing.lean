import CellPreview.Style
import Mathlib.Data.List.Chain
import Mathlib.Data.Set.Function

/-!
# Names of style properties

A property has two names, one with hyphens and one with capital letters. Each
way of writing is undone by the other where its own marks are absent to begin
with: the names without capital letters are in bijection with those in which no
hyphen stands right before a lowercase letter, whatever else is in them.
-/

namespace CellPreview
namespace Style

/-- Names without capital letters. -/
def hyphenatedNames : Set Text :=
  {name | ∀ char ∈ name, char.isUpper = false}

/-- A hyphen right before a lowercase letter, which stands for a capital
letter. -/
def MarksCapital (char next : Char) : Prop :=
  char = '-' ∧ next.isLower

/-- Names in which no hyphen is right before a lowercase letter. -/
def capitalizedNames : Set Text :=
  {name | name.IsChain fun char next => ¬MarksCapital char next}

section

variable {char next : Char}
variable {name rest : Text}

/-! ## Letters -/

/-- What holds of every lowercase letter, by the order of their code points. -/
theorem of_isLower
    {motive : Char -> Prop}
    (letters : ∀ offset < 26, motive (Char.ofNat (97 + offset)))
    (isLower : char.isLower) :
    motive char := by
  obtain ⟨isAbove, isBelow⟩ := Bool.and_eq_true_iff.mp isLower
  have first_le : 97 ≤ char.toNat :=
    UInt32.le_iff_toNat_le.mp (of_decide_eq_true isAbove)
  have le_last : char.toNat ≤ 122 :=
    UInt32.le_iff_toNat_le.mp (of_decide_eq_true isBelow)
  have letter := letters (char.toNat - 97) (by omega)
  rwa [Nat.add_sub_cancel' first_le, Char.ofNat_toNat] at letter

/-- What holds of every capital letter, by the order of their code points. -/
theorem of_isUpper
    {motive : Char -> Prop}
    (letters : ∀ offset < 26, motive (Char.ofNat (65 + offset)))
    (isUpper : char.isUpper) :
    motive char := by
  obtain ⟨isAbove, isBelow⟩ := of_decide_eq_true isUpper
  have first_le : 65 ≤ char.toNat := UInt32.le_iff_toNat_le.mp isAbove
  have le_last : char.toNat ≤ 90 := UInt32.le_iff_toNat_le.mp isBelow
  have letter := letters (char.toNat - 65) (by omega)
  rwa [Nat.add_sub_cancel' first_le, Char.ofNat_toNat] at letter

theorem isUpper_eq_false_of_isLower
    (isLower : char.isLower) :
    char.isUpper = false :=
  of_isLower (motive := fun letter => letter.isUpper = false) (by decide)
    isLower

theorem isUpper_toUpper_of_isLower
    (isLower : char.isLower) :
    char.toUpper.isUpper :=
  of_isLower (motive := fun letter => letter.toUpper.isUpper) (by decide)
    isLower

theorem isLower_toLower_of_isUpper
    (isUpper : char.isUpper) :
    char.toLower.isLower :=
  of_isUpper (motive := fun letter => letter.toLower.isLower) (by decide)
    isUpper

theorem toLower_toUpper_of_isLower
    (isLower : char.isLower) :
    char.toUpper.toLower = char :=
  of_isLower (motive := fun letter => letter.toUpper.toLower = letter)
    (by decide) isLower

theorem toUpper_toLower_of_isUpper
    (isUpper : char.isUpper) :
    char.toLower.toUpper = char :=
  of_isUpper (motive := fun letter => letter.toLower.toUpper = letter)
    (by decide) isUpper

/-! ## One character after the other -/

theorem camelCase_of_marksCapital
    (marks : MarksCapital char next)
    (rest : Text) :
    camelCase (char :: next :: rest) = next.toUpper :: camelCase rest := by
  rw [camelCase, if_pos (by simpa [MarksCapital] using marks)]

/-- A character is kept if it does not mark a capital letter. -/
theorem camelCase_cons
    (apart : ∀ next ∈ rest.head?, ¬MarksCapital char next) :
    camelCase (char :: rest) = char :: camelCase rest := by
  cases rest with
  | nil => rfl
  | cons next rest =>
      have noMark : ¬MarksCapital char next := apart next rfl
      rw [camelCase, if_neg (by simpa [MarksCapital] using noMark)]

theorem kebabCase_cons_of_isUpper
    (isUpper : char.isUpper)
    (rest : Text) :
    kebabCase (char :: rest) = '-' :: char.toLower :: kebabCase rest := by
  simp [kebabCase, isUpper]

theorem kebabCase_cons
    (notUpper : char.isUpper = false)
    (rest : Text) :
    kebabCase (char :: rest) = char :: kebabCase rest := by
  simp [kebabCase, notUpper]

/-- With capital letters, a name starts as it did before or with one of them. -/
theorem eq_or_isUpper_of_mem_head?_camelCase
    (isFirst : char ∈ (camelCase (next :: rest)).head?) :
    char = next ∨ char.isUpper := by
  cases rest with
  | nil =>
      left
      simpa [camelCase, eq_comm] using isFirst
  | cons after rest =>
      rw [camelCase] at isFirst
      split at isFirst
      next marks =>
        right
        have isLower : after.isLower := (Bool.and_eq_true_iff.mp marks).2
        obtain rfl : after.toUpper = char := Option.some.inj isFirst
        exact isUpper_toUpper_of_isLower isLower
      next =>
        left
        exact (Option.some.inj isFirst).symm

/-- With hyphens, a name starts as it did before or with a hyphen. -/
theorem eq_or_eq_hyphen_of_mem_head?_kebabCase
    (isFirst : char ∈ (kebabCase name).head?) :
    char = '-' ∨ char ∈ name.head? := by
  cases name with
  | nil => cases isFirst
  | cons first rest =>
      cases isUpper : first.isUpper with
      | true =>
          rw [kebabCase_cons_of_isUpper isUpper] at isFirst
          left
          exact (Option.some.inj isFirst).symm
      | false =>
          rw [kebabCase_cons isUpper] at isFirst
          right
          exact isFirst

/-! ## Both ways of writing -/

/-- No marks are left when capital letters are written for them. -/
theorem camelCase_mem_capitalizedNames (name : Text) :
    camelCase name ∈ capitalizedNames := by
  change (camelCase name).IsChain _
  fun_induction camelCase name with
  | case1 => exact .nil
  | case2 char => exact .singleton char
  | case3 char next rest marks inductionHypothesis =>
      have isLower : next.isLower := (Bool.and_eq_true_iff.mp marks).2
      refine List.isChain_cons.mpr ⟨fun after _ isMark => ?_,
        inductionHypothesis⟩
      -- a capital letter is no hyphen
      have isUpper := isUpper_toUpper_of_isLower isLower
      rw [isMark.1] at isUpper
      cases isUpper
  | case4 char next rest noMark inductionHypothesis =>
      refine List.isChain_cons.mpr ⟨fun after isFirst isMark => ?_,
        inductionHypothesis⟩
      obtain rfl | isUpper := eq_or_isUpper_of_mem_head?_camelCase isFirst
      · exact noMark (by simpa [MarksCapital] using isMark)
      · rw [isUpper_eq_false_of_isLower isMark.2] at isUpper
        cases isUpper

theorem kebabCase_mem_hyphenatedNames (name : Text) :
    kebabCase name ∈ hyphenatedNames := by
  intro char present
  obtain ⟨original, _, written⟩ := List.mem_flatMap.mp present
  split at written
  next isUpper =>
    obtain rfl | isLetter := List.mem_cons.mp written
    · rfl
    · rw [List.mem_singleton.mp isLetter]
      exact isUpper_eq_false_of_isLower (isLower_toLower_of_isUpper isUpper)
  next notUpper =>
    rw [List.mem_singleton.mp written]
    exact Bool.eq_false_iff.mpr notUpper

/-- Writing capital letters is undone if there were none before. -/
theorem kebabCase_camelCase
    (hyphenated : name ∈ hyphenatedNames) :
    kebabCase (camelCase name) = name := by
  fun_induction camelCase name with
  | case1 => rfl
  | case2 char =>
      exact kebabCase_cons (hyphenated char List.mem_cons_self) []
  | case3 char next rest marks inductionHypothesis =>
      obtain ⟨isHyphen, isLower⟩ : char = '-' ∧ next.isLower := by
        simpa using marks
      rw [kebabCase_cons_of_isUpper (isUpper_toUpper_of_isLower isLower),
        toLower_toUpper_of_isLower isLower, isHyphen,
        inductionHypothesis fun other present =>
          hyphenated other (by simp [present])]
  | case4 char next rest noMark inductionHypothesis =>
      rw [kebabCase_cons (hyphenated char List.mem_cons_self),
        inductionHypothesis fun other present =>
          hyphenated other (List.mem_cons_of_mem char present)]

/-- A name without marks has nothing that could be written as a capital
letter. -/
theorem camelCase_eq_self
    (capitalized : name ∈ capitalizedNames) :
    camelCase name = name := by
  change name.IsChain _ at capitalized
  induction name with
  | nil => rfl
  | cons char rest inductionHypothesis =>
      obtain ⟨apart, restApart⟩ := List.isChain_cons.mp capitalized
      rw [camelCase_cons apart, inductionHypothesis restApart]

/-- Writing hyphens is undone if no hyphen marked a capital letter before. -/
theorem camelCase_kebabCase
    (capitalized : name ∈ capitalizedNames) :
    camelCase (kebabCase name) = name := by
  change name.IsChain _ at capitalized
  induction name with
  | nil => rfl
  | cons char rest inductionHypothesis =>
      obtain ⟨apart, restApart⟩ := List.isChain_cons.mp capitalized
      have restEq := inductionHypothesis restApart
      cases isUpper : char.isUpper with
      | true =>
          have isMark : MarksCapital '-' char.toLower :=
            ⟨rfl, isLower_toLower_of_isUpper isUpper⟩
          rw [kebabCase_cons_of_isUpper isUpper,
            camelCase_of_marksCapital isMark,
            toUpper_toLower_of_isUpper isUpper, restEq]
      | false =>
          rw [kebabCase_cons isUpper, camelCase_cons, restEq]
          intro next isFirst isMark
          obtain rfl | unchanged :=
            eq_or_eq_hyphen_of_mem_head?_kebabCase isFirst
          · cases isMark.2
          · exact apart next unchanged isMark

end

/-- The two ways of writing names are inverse bijections between the names
without capital letters and those in which no hyphen is right before a lowercase
letter. Writing capital letters once is enough for any name. -/
theorem casing_is_bijective :
    Set.BijOn camelCase hyphenatedNames capitalizedNames ∧
      Set.BijOn kebabCase capitalizedNames hyphenatedNames ∧
      Set.InvOn kebabCase camelCase hyphenatedNames capitalizedNames ∧
      ∀ name, camelCase (camelCase name) = camelCase name := by
  have inverse :
      Set.InvOn kebabCase camelCase hyphenatedNames capitalizedNames :=
    ⟨fun _ => kebabCase_camelCase, fun _ => camelCase_kebabCase⟩
  have toCapitals : Set.MapsTo camelCase hyphenatedNames capitalizedNames :=
    fun name _ => camelCase_mem_capitalizedNames name
  have toHyphens : Set.MapsTo kebabCase capitalizedNames hyphenatedNames :=
    fun name _ => kebabCase_mem_hyphenatedNames name
  exact ⟨inverse.bijOn toCapitals toHyphens,
    inverse.symm.bijOn toHyphens toCapitals, inverse,
    fun name => camelCase_eq_self (camelCase_mem_capitalizedNames name)⟩

/-- A custom property with doubled and trailing hyphens, and a name in which
hyphens stand before a capital letter and before a digit. -/
theorem casing_is_bijective_custom_property :
    let hyphenated : Text := ['-', '-', 'a', '-', '-', 'b', '-', 'é', 'z', '-']
    let capitalized : Text := ['-', 'A', '-', '1', '-']
    (hyphenated ∈ hyphenatedNames ∧
      camelCase hyphenated = ['-', 'A', '-', 'B', '-', 'é', 'z', '-'] ∧
      kebabCase (camelCase hyphenated) = hyphenated) ∧
    capitalized ∈ capitalizedNames ∧
      kebabCase capitalized = ['-', '-', 'a', '-', '1', '-'] ∧
      camelCase (kebabCase capitalized) = capitalized := by
  intro hyphenated capitalized
  obtain ⟨_, _, ⟨left, right⟩, _⟩ := casing_is_bijective
  have noCapital : (hyphenated.all fun char => !char.isUpper) = true := rfl
  have isHyphenated : hyphenated ∈ hyphenatedNames := fun char present => by
    simpa using List.all_eq_true.mp noCapital char present
  have isCapitalized : capitalized ∈ capitalizedNames := by
    have same : camelCase ['-', '-', 'a', '-', '1', '-'] = capitalized := by
      decide
    rw [← same]
    exact camelCase_mem_capitalizedNames _
  exact ⟨⟨isHyphenated, by decide, left isHyphenated⟩, isCapitalized,
    by decide, right isCapitalized⟩

end Style
end CellPreview
