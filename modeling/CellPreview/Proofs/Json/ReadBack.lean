import CellPreview.Json.Document
import CellPreview.Proofs.Json.Layout

/-!
# JSON texts read back

A value that can be read at all is read from its text, in whatever layout it is
written and whatever spaces stand around it.
-/

namespace CellPreview
namespace Json

/-! ## Spaces -/

theorem isSpacing_nil : IsSpacing [] := by
  simp [IsSpacing]

/-- Spaces are skipped up to the first character that is none. -/
theorem skipSpaces_append
    {spacing rest : Text}
    (isSpacing : IsSpacing spacing)
    (starts : ∀ char ∈ rest.head?, isSpace char = false) :
    skipSpaces (spacing ++ rest) = rest :=
  (Text.span_of_forall isSpacing starts).2

theorem skipSpaces_eq_self
    {text : Text}
    (starts : ∀ char ∈ text.head?, isSpace char = false) :
    skipSpaces text = text :=
  skipSpaces_append isSpacing_nil starts

theorem isSpace_eq_false_of_isDigit
    {char : Char}
    (isDigit : char.isDigit) :
    isSpace char = false := by
  rw [Bool.eq_false_iff]
  intro space
  simp only [isSpace, Bool.or_eq_true, beq_iff_eq] at space
  obtain ((rfl | rfl) | rfl) | rfl := space <;> cases isDigit

namespace Numeral

theorem endsNumeral_nil : EndsNumeral [] := by
  simp [EndsNumeral]

theorem endsNumeral_cons
    {char : Char}
    (ends : char.isDigit = false ∧ char ≠ '.' ∧ char ≠ 'e' ∧ char ≠ 'E')
    (rest : Text) :
    EndsNumeral (char :: rest) := by
  rintro _ ⟨⟩
  exact ends

/-- Spaces end a numeral. -/
theorem EndsNumeral.spacing
    {spacing rest : Text}
    (ends : EndsNumeral rest)
    (isSpacing : IsSpacing spacing) :
    EndsNumeral (spacing ++ rest) := by
  cases spacing with
  | nil => exact ends
  | cons char others =>
      have space := isSpacing char List.mem_cons_self
      simp only [isSpace, Bool.or_eq_true, beq_iff_eq] at space
      refine endsNumeral_cons ?_ _
      obtain ((rfl | rfl) | rfl) | rfl := space <;> decide

end Numeral

open Numeral

/-! ## Starts of values -/

namespace Value

variable {layout : Layout} {level levels count : Nat}

/-- A written value starts with a character that is neither a space nor the
end of a list. -/
theorem exists_cons_laidOut
    {value : Value}
    (readable : value.isReadable levels)
    (layout : Layout)
    (level : Nat) :
    ∃ first others, value.laidOut layout level = first :: others ∧
      isSpace first = false ∧ first ≠ ']' := by
  cases value with
  | null => exact ⟨_, _, rfl, by decide⟩
  | bool truth => cases truth <;> exact ⟨_, _, rfl, by decide⟩
  | number numeral =>
      obtain ⟨first, others, isText, starts⟩ :=
        Number.exists_cons_toText readable
      refine ⟨first, others, isText, ?_⟩
      obtain rfl | isDigit := starts
      · decide
      · refine ⟨isSpace_eq_false_of_isDigit isDigit, ?_⟩
        rintro rfl
        cases isDigit
  | text content => exact ⟨_, _, rfl, by decide⟩
  | list items => exact ⟨_, _, rfl, by decide⟩
  | object fields => exact ⟨_, _, rfl, by decide⟩

/-- What follows an item of a list ends a numeral. -/
theorem endsNumeral_laidOutMoreItems
    (layout : Layout)
    (level : Nat)
    (items : List Value)
    (rest : Text) :
    EndsNumeral (laidOutMoreItems layout level items ++ rest) := by
  cases items with
  | nil =>
      rw [laidOutMoreItems, List.append_assoc]
      exact (endsNumeral_cons (by decide) _).spacing (layout.isSpacing_gap level)
  | cons item others => exact endsNumeral_cons (by decide) _

theorem endsNumeral_laidOutMoreFields
    (layout : Layout)
    (level : Nat)
    (fields : List (Text × Value))
    (rest : Text) :
    EndsNumeral (laidOutMoreFields layout level fields ++ rest) := by
  cases fields with
  | nil =>
      rw [laidOutMoreFields, List.append_assoc]
      exact (endsNumeral_cons (by decide) _).spacing (layout.isSpacing_gap level)
  | cons field others => exact endsNumeral_cons (by decide) _

/-! ## Lengths -/

theorem length_lt_length_laidOutMoreItems
    (layout : Layout)
    (level : Nat)
    (items : List Value) :
    items.length < (laidOutMoreItems layout level items).length ∧
      ∀ item ∈ items, (item.laidOut layout (level + 1)).length <
        (laidOutMoreItems layout level items).length := by
  induction items with
  | nil => simp [laidOutMoreItems]
  | cons item others inductionHypothesis =>
      obtain ⟨longer, each⟩ := inductionHypothesis
      simp only [laidOutMoreItems, List.length_cons, List.length_append,
        List.forall_mem_cons]
      refine ⟨by omega, by omega, fun other present => ?_⟩
      have := each other present
      omega

theorem length_lt_length_laidOutMoreFields
    (layout : Layout)
    (level : Nat)
    (fields : List (Text × Value)) :
    fields.length < (laidOutMoreFields layout level fields).length ∧
      ∀ field ∈ fields,
        field.1.length + 1 < (laidOutMoreFields layout level fields).length ∧
        (field.2.laidOut layout (level + 1)).length <
          (laidOutMoreFields layout level fields).length := by
  induction fields with
  | nil => simp [laidOutMoreFields]
  | cons field others inductionHypothesis =>
      obtain ⟨longer, each⟩ := inductionHypothesis
      have name := length_lt_length_quotedText field.1
      simp only [laidOutMoreFields, List.length_cons, List.length_append,
        List.forall_mem_cons]
      refine ⟨by omega, ⟨by omega, by omega⟩, fun other present => ?_⟩
      have := each other present
      omega

/-- All items are shorter than those after a first one by a comma. -/
theorem length_le_length_laidOutItems
    (layout : Layout)
    (level : Nat)
    (items : List Value) :
    items.length ≤ (laidOutItems layout level items).length ∧
      ∀ item ∈ items, (item.laidOut layout (level + 1)).length ≤
        (laidOutItems layout level items).length := by
  cases items with
  | nil => simp
  | cons item others =>
      obtain ⟨longer, each⟩ :=
        length_lt_length_laidOutMoreItems layout level (item :: others)
      exact ⟨Nat.le_of_lt_succ longer, fun other present =>
        Nat.le_of_lt_succ (each other present)⟩

theorem length_le_length_laidOutFields
    (layout : Layout)
    (level : Nat)
    (fields : List (Text × Value)) :
    fields.length ≤ (laidOutFields layout level fields).length ∧
      ∀ field ∈ fields,
        field.1.length < (laidOutFields layout level fields).length ∧
        (field.2.laidOut layout (level + 1)).length ≤
          (laidOutFields layout level fields).length := by
  cases fields with
  | nil => simp
  | cons field others =>
      obtain ⟨longer, each⟩ :=
        length_lt_length_laidOutMoreFields layout level (field :: others)
      exact ⟨Nat.le_of_lt_succ longer, fun other present =>
        ⟨Nat.lt_of_succ_lt_succ (each other present).1,
          Nat.le_of_lt_succ (each other present).2⟩⟩

end Value

/-! ## Reading lists -/

/-- A reading gives a value for a text, wherever the text stands. -/
def ReadsBack (reading : Reading Value) (value : Value) (text : Text) : Prop :=
  ∀ spacing rest, IsSpacing spacing -> EndsNumeral rest ->
    reading (spacing ++ (text ++ rest)) = .ok (value, rest)

section Lists

variable {reading : Reading Value} {spacing : Text} {layout : Layout}
variable {level levels count : Nat}

theorem itemStart_end
    (isSpacing : IsSpacing spacing)
    (isFirst : Bool)
    (rest : Text) :
    itemStart isFirst (spacing ++ ']' :: rest) = .ok (false, rest) := by
  rw [itemStart, skipSpaces_append isSpacing (by simp [isSpace])]
  rfl

theorem itemStart_first
    {item : Value}
    (isSpacing : IsSpacing spacing)
    (readable : item.isReadable levels)
    (rest : Text) :
    itemStart true (spacing ++ (item.laidOut layout level ++ rest)) =
      .ok (true, item.laidOut layout level ++ rest) := by
  obtain ⟨first, others, isText, notSpace, notEnd⟩ :=
    Value.exists_cons_laidOut readable layout level
  rw [isText, List.cons_append, itemStart,
    skipSpaces_append isSpacing (by simpa using notSpace)]
  simp

theorem itemStart_more
    {item : Value}
    (isSpacing : IsSpacing spacing)
    (readable : item.isReadable levels)
    (rest : Text) :
    itemStart false (',' :: (spacing ++ (item.laidOut layout level ++ rest))) =
      .ok (true, item.laidOut layout level ++ rest) := by
  obtain ⟨first, others, isText, notSpace, notEnd⟩ :=
    Value.exists_cons_laidOut readable layout level
  have skipped : skipSpaces (spacing ++ first :: (others ++ rest)) =
      first :: (others ++ rest) :=
    skipSpaces_append isSpacing (by simpa using notSpace)
  rw [isText, List.cons_append, itemStart,
    skipSpaces_eq_self (by simp [isSpace])]
  simp [skipped, notEnd]

/-- An item and those after it. -/
theorem items_cons
    {isFirst : Bool}
    {text rest : Text}
    {item : Value}
    {others : List Value}
    (starts : itemStart isFirst text =
      .ok (true, item.laidOut layout (level + 1) ++
        (Value.laidOutMoreItems layout level others ++ rest)))
    (readsBack : ReadsBack reading item (item.laidOut layout (level + 1)))
    (othersRead : items reading count false
      (Value.laidOutMoreItems layout level others ++ rest) =
        .ok (others, rest)) :
    items reading (count + 1) isFirst text = .ok (item :: others, rest) := by
  have itemRead := readsBack [] _ isSpacing_nil
    (Value.endsNumeral_laidOutMoreItems layout level others rest)
  rw [List.nil_append] at itemRead
  simp [items, starts, itemRead, othersRead]

/-- The items after the first are read up to the end of the list. -/
theorem items_laidOutMoreItems
    {results : List Value}
    (each : ∀ item ∈ results,
      ReadsBack reading item (item.laidOut layout (level + 1)))
    (readable : ∀ item ∈ results, item.isReadable levels)
    (enough : results.length < count)
    (rest : Text) :
    items reading count false
      (Value.laidOutMoreItems layout level results ++ rest) =
        .ok (results, rest) := by
  induction results generalizing count with
  | nil =>
      obtain ⟨count, rfl⟩ := Nat.exists_eq_add_one.mpr enough
      have ended := itemStart_end (layout.isSpacing_gap level) false rest
      simp [Value.laidOutMoreItems, items, ended]
  | cons item others inductionHypothesis =>
      obtain ⟨count, rfl⟩ := Nat.exists_eq_add_one.mpr (Nat.zero_lt_of_lt enough)
      rw [List.forall_mem_cons] at each readable
      have othersRead := inductionHypothesis each.2 readable.2
        (Nat.lt_of_succ_lt_succ enough)
      rw [Value.laidOutMoreItems]
      simp only [List.cons_append, List.append_assoc]
      exact items_cons (itemStart_more (layout.isSpacing_gap (level + 1))
        readable.1 _) each.1 othersRead

/-- The items of a list are read up to its end. -/
theorem items_laidOutItems
    {results : List Value}
    (each : ∀ item ∈ results,
      ReadsBack reading item (item.laidOut layout (level + 1)))
    (readable : ∀ item ∈ results, item.isReadable levels)
    (enough : results.length < count)
    (rest : Text) :
    items reading count true
      (Value.laidOutItems layout level results ++ rest) =
        .ok (results, rest) := by
  obtain ⟨count, rfl⟩ := Nat.exists_eq_add_one.mpr (Nat.zero_lt_of_lt enough)
  cases results with
  | nil =>
      have ended : itemStart true (']' :: rest) = .ok (false, rest) :=
        itemStart_end isSpacing_nil true rest
      simp [Value.laidOutItems, items, ended]
  | cons item others =>
      rw [List.forall_mem_cons] at each readable
      have othersRead := items_laidOutMoreItems each.2 readable.2
        (Nat.lt_of_succ_lt_succ enough) rest
      rw [Value.laidOutItems]
      simp only [List.append_assoc]
      exact items_cons (itemStart_first (layout.isSpacing_gap (level + 1))
        readable.1 _) each.1 othersRead

end Lists

/-! ## Reading objects -/

section Objects

variable {reading : Reading Value} {spacing name : Text} {layout : Layout}
variable {length level count : Nat}

theorem quotedText_append (content rest : Text) :
    quotedText content ++ rest =
      '"' :: (content.flatMap escapedChar ++ '"' :: rest) := by
  simp [quotedText]

theorem fieldName_quotedText
    (enough : name.length < length)
    (rest : Text) :
    fieldName length (quotedText name ++ rest) = .ok (name, rest) := by
  rw [quotedText_append]
  exact textLiteral_append enough rest

theorem fieldStart_end
    (isSpacing : IsSpacing spacing)
    (isFirst : Bool)
    (rest : Text) :
    fieldStart length isFirst (spacing ++ '}' :: rest) = .ok (none, rest) := by
  rw [fieldStart, skipSpaces_append isSpacing (by simp [isSpace])]
  rfl

theorem fieldStart_first
    (isSpacing : IsSpacing spacing)
    (enough : name.length < length)
    (rest : Text) :
    fieldStart length true (spacing ++ (quotedText name ++ rest)) =
      .ok (some name, rest) := by
  have nameRead := fieldName_quotedText enough rest
  rw [quotedText_append] at nameRead ⊢
  rw [fieldStart, skipSpaces_append isSpacing (by simp [isSpace])]
  simp [nameRead]

theorem fieldStart_more
    (isSpacing : IsSpacing spacing)
    (enough : name.length < length)
    (rest : Text) :
    fieldStart length false (',' :: (spacing ++ (quotedText name ++ rest))) =
      .ok (some name, rest) := by
  have nameRead := fieldName_quotedText enough rest
  rw [quotedText_append] at nameRead ⊢
  generalize name.flatMap escapedChar ++ '"' :: rest = text at nameRead ⊢
  have skipped : skipSpaces (spacing ++ '"' :: text) = '"' :: text :=
    skipSpaces_append isSpacing (by simp [isSpace])
  rw [fieldStart, skipSpaces_eq_self (by simp [isSpace])]
  simp [skipped, nameRead]

theorem colon_cons (rest : Text) : colon (':' :: rest) = .ok ((), rest) := by
  rw [colon, skipSpaces_eq_self (by simp [isSpace])]
  rfl

/-- A field and those after it. -/
theorem fields_cons
    {isFirst : Bool}
    {text rest : Text}
    {value : Value}
    {others : List (Text × Value)}
    (starts : fieldStart length isFirst text =
      .ok (some name, ':' :: (layout.afterColon ++
        (value.laidOut layout (level + 1) ++
          (Value.laidOutMoreFields layout level others ++ rest)))))
    (readsBack : ReadsBack reading value (value.laidOut layout (level + 1)))
    (othersRead : fields reading length count false
      (Value.laidOutMoreFields layout level others ++ rest) =
        .ok (others, rest)) :
    fields reading length (count + 1) isFirst text =
      .ok ((name, value) :: others, rest) := by
  have valueRead := readsBack layout.afterColon _ layout.isSpacing_afterColon
    (Value.endsNumeral_laidOutMoreFields layout level others rest)
  simp [fields, starts, colon_cons, valueRead, othersRead]

/-- The fields after the first are read up to the end of the object. -/
theorem fields_laidOutMoreFields
    {results : List (Text × Value)}
    (each : ∀ field ∈ results,
      ReadsBack reading field.2 (field.2.laidOut layout (level + 1)))
    (named : ∀ field ∈ results, field.1.length < length)
    (enough : results.length < count)
    (rest : Text) :
    fields reading length count false
      (Value.laidOutMoreFields layout level results ++ rest) =
        .ok (results, rest) := by
  induction results generalizing count with
  | nil =>
      obtain ⟨count, rfl⟩ := Nat.exists_eq_add_one.mpr enough
      have ended : fieldStart length false (layout.gap level ++ '}' :: rest) =
          .ok (none, rest) :=
        fieldStart_end (layout.isSpacing_gap level) false rest
      simp [Value.laidOutMoreFields, fields, ended]
  | cons field others inductionHypothesis =>
      obtain ⟨name, value⟩ := field
      obtain ⟨count, rfl⟩ := Nat.exists_eq_add_one.mpr (Nat.zero_lt_of_lt enough)
      rw [List.forall_mem_cons] at each named
      have othersRead := inductionHypothesis each.2 named.2
        (Nat.lt_of_succ_lt_succ enough)
      rw [Value.laidOutMoreFields]
      simp only [List.cons_append, List.append_assoc]
      exact fields_cons (fieldStart_more (layout.isSpacing_gap (level + 1))
        named.1 _) each.1 othersRead

/-- The fields of an object are read up to its end. -/
theorem fields_laidOutFields
    {results : List (Text × Value)}
    (each : ∀ field ∈ results,
      ReadsBack reading field.2 (field.2.laidOut layout (level + 1)))
    (named : ∀ field ∈ results, field.1.length < length)
    (enough : results.length < count)
    (rest : Text) :
    fields reading length count true
      (Value.laidOutFields layout level results ++ rest) =
        .ok (results, rest) := by
  obtain ⟨count, rfl⟩ := Nat.exists_eq_add_one.mpr (Nat.zero_lt_of_lt enough)
  cases results with
  | nil =>
      have ended : fieldStart length true ('}' :: rest) = .ok (none, rest) :=
        fieldStart_end isSpacing_nil true rest
      simp [Value.laidOutFields, fields, ended]
  | cons field others =>
      obtain ⟨name, value⟩ := field
      rw [List.forall_mem_cons] at each named
      have othersRead := fields_laidOutMoreFields each.2 named.2
        (Nat.lt_of_succ_lt_succ enough) rest
      rw [Value.laidOutFields]
      simp only [List.cons_append, List.append_assoc]
      exact fields_cons (fieldStart_first (layout.isSpacing_gap (level + 1))
        named.1 _) each.1 othersRead

end Objects

/-! ## Reading values -/

section Values

variable {layout : Layout} {level levels count : Nat}

theorem valueHere_number
    {number : Number}
    {inner : Option (Reading Value)}
    {rest : Text}
    (inRange : number.fits)
    (ends : EndsNumeral rest) :
    valueHere inner count (number.toText ++ rest) =
      .ok (.number number, rest) := by
  have isRead := Number.number_toText_append inRange ends
  obtain ⟨first, others, isText, starts⟩ := Number.exists_cons_toText inRange
  rw [isText, List.cons_append] at isRead ⊢
  have numeral : (first = '-' || first.isDigit) = true := by
    simpa using starts
  unfold valueHere
  split
  case h_1 found => cases found
  case h_8 found =>
    obtain ⟨rfl, rfl⟩ := List.cons.inj found
    simp only [numeral, isRead, if_true, Outcome.ok_bind, Outcome.pure_eq_ok]
  all_goals
    next found =>
      obtain ⟨rfl, _⟩ := List.cons.inj found
      exact absurd numeral (by decide)

theorem valueHere_text
    {content : Text}
    {inner : Option (Reading Value)}
    (enough : content.length < count)
    (rest : Text) :
    valueHere inner count (quotedText content ++ rest) =
      .ok (.text content, rest) := by
  rw [quotedText_append]
  simp [valueHere, textLiteral_append enough rest]

/-- The reading of what is inside of a list or an object, where these nest at
most `levels` deep. -/
def innerReading (count : Nat) : Nat -> Option (Reading Value)
  | 0 => none
  | levels + 1 => some (value count levels)

theorem value_eq (count levels : Nat) (text : Text) :
    value count levels text =
      valueHere (innerReading count levels) count (skipSpaces text) := by
  cases levels <;> rfl

theorem readsBack_of_valueHere
    {result : Value}
    (readable : result.isReadable levels)
    (here : ∀ rest, EndsNumeral rest ->
      valueHere (innerReading count levels) count
        (result.laidOut layout level ++ rest) = .ok (result, rest)) :
    ReadsBack (value count levels) result (result.laidOut layout level) := by
  intro spacing rest isSpacing ends
  obtain ⟨first, others, isText, notSpace, _⟩ :=
    Value.exists_cons_laidOut readable layout level
  rw [value_eq, skipSpaces_append isSpacing (by simpa [isText] using notSpace),
    here rest ends]

/-- A value that can be read is read from the start of its text, whatever comes
after it. -/
theorem valueHere_laidOut
    {result : Value}
    {rest : Text}
    (readable : result.isReadable levels)
    (short : (result.laidOut layout level).length ≤ count)
    (ends : EndsNumeral rest) :
    valueHere (innerReading count levels) count
      (result.laidOut layout level ++ rest) = .ok (result, rest) := by
  -- What is inside of a list or an object is read one level further in; its
  -- texts are parts of the whole text, so `count` is enough for them too.
  induction result using Value.induction generalizing level levels rest with
  | null => rfl
  | bool truth => cases truth <;> rfl
  | number numeral => exact valueHere_number readable ends
  | text content =>
      exact valueHere_text ((length_lt_length_quotedText content).trans_le short)
        rest
  | list items inductionHypothesis =>
      cases levels with
      | zero => cases readable
      | succ levels =>
          rw [Value.isReadable_list] at readable
          obtain ⟨longer, each⟩ :=
            Value.length_le_length_laidOutItems layout level items
          rw [Value.laidOut, List.length_cons] at short
          have inside : ∀ item ∈ items, ReadsBack (value count levels) item
              (item.laidOut layout (level + 1)) := fun item present =>
            readsBack_of_valueHere (readable item present) fun rest ends =>
              inductionHypothesis item present (readable item present)
                ((each item present).trans (Nat.le_of_succ_le short)) ends
          have itemsRead :=
            items_laidOutItems inside readable (longer.trans_lt short) rest
          simp [Value.laidOut, valueHere, innerReading, itemsRead]
  | object fields inductionHypothesis =>
      cases levels with
      | zero => cases readable
      | succ levels =>
          rw [Value.isReadable_object] at readable
          obtain ⟨distinct, readable⟩ := readable
          obtain ⟨longer, each⟩ :=
            Value.length_le_length_laidOutFields layout level fields
          rw [Value.laidOut, List.length_cons] at short
          have inside : ∀ field ∈ fields, ReadsBack (value count levels) field.2
              (field.2.laidOut layout (level + 1)) := fun field present =>
            readsBack_of_valueHere (readable field present) fun rest ends =>
              inductionHypothesis field present (readable field present)
                ((each field present).2.trans (Nat.le_of_succ_le short)) ends
          have named : ∀ field ∈ fields, field.1.length < count :=
            fun field present =>
              (each field present).1.trans_le (Nat.le_of_succ_le short)
          have fieldsRead :=
            fields_laidOutFields inside named (longer.trans_lt short) rest
          simp [Value.laidOut, valueHere, innerReading, fieldsRead,
            Entries.ofPairs_of_nodup distinct]

end Values

/-! ## Whole texts -/

/-- A value that can be read is the value of its text in every layout, whatever
spaces stand around it. -/
theorem read_laidOut
    {value : Value}
    {leading trailing : Text}
    (readable : value.isReadable nestingLimit)
    (isLeading : IsSpacing leading)
    (isTrailing : IsSpacing trailing)
    (layout : Layout)
    (level : Nat) :
    read (leading ++ (value.laidOut layout level ++ trailing)) = .ok value := by
  have ends : EndsNumeral trailing := by
    simpa using endsNumeral_nil.spacing isTrailing
  have skipped : skipSpaces trailing = [] := by
    simpa using @skipSpaces_append trailing [] isTrailing (by simp)
  have short : (value.laidOut layout level).length ≤
      (leading ++ (value.laidOut layout level ++ trailing)).length := by
    simp only [List.length_append]
    omega
  have valueRead := readsBack_of_valueHere readable
    (fun _ => valueHere_laidOut readable short) leading trailing isLeading ends
  simp only [read, whole, valueRead, Outcome.ok_bind, skipped]
  rfl

theorem read_compact
    {value : Value}
    (readable : value.isReadable nestingLimit) :
    read value.compact = .ok value := by
  have isRead := read_laidOut readable isSpacing_nil isSpacing_nil .tight 0
  rwa [List.nil_append, List.append_nil, ← Value.compact_eq_laidOut] at isRead

theorem read_pretty
    {value : Value}
    (readable : value.isReadable nestingLimit) :
    read value.pretty = .ok value := by
  have isRead := read_laidOut readable isSpacing_nil isSpacing_nil .indented 0
  rwa [List.nil_append, List.append_nil, ← Value.pretty_eq_laidOut] at isRead

end Json
end CellPreview
