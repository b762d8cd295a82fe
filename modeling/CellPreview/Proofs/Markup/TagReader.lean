import CellPreview.Entries
import CellPreview.Proofs.Markup.Fragment
import CellPreview.Text.Blank

/-!
# A plain reader of tags

The reader knows start tags, end tags and tags that close themselves, with
attributes in double quotes. Everything else is text, so reading a text into
marks cannot fail. The marks make a forest when every end tag has the name of
the last start tag that is still open, and none is open at the end.
-/

namespace CellPreview
namespace Markup

/-- A tag, or the characters between two tags as they are written. -/
inductive Mark
  | text (raw : Text)
  | start (name : Text) (attributes : List (Text × Text))
  | stop (name : Text)
  | empty (name : Text) (attributes : List (Text × Text))

/-- The characters of a text between tags; none for a tag. -/
def Mark.raw : Mark -> Text
  | .text raw => raw
  | _ => []

namespace TagReader

/-- A text with its entities replaced by the characters they stand for. -/
def unescaped : Text -> Text
  | '&' :: 'a' :: 'm' :: 'p' :: ';' :: rest => '&' :: unescaped rest
  | '&' :: 'l' :: 't' :: ';' :: rest => '<' :: unescaped rest
  | '&' :: 'g' :: 't' :: ';' :: rest => '>' :: unescaped rest
  | '&' :: 'q' :: 'u' :: 'o' :: 't' :: ';' :: rest => '"' :: unescaped rest
  | char :: rest => char :: unescaped rest
  | [] => []

/-- Characters that a name may be made of. -/
def isNameChar (char : Char) : Bool :=
  !Text.isBlank char && char != '<' && char != '>' && char != '/' &&
    char != '=' && char != '"' && char != '\''

/-- A name, and the text after it. -/
def name? (text : Text) : Option (Text × Text) :=
  let name := text.takeWhile isNameChar
  if name.isEmpty then none else some (name, text.dropWhile isNameChar)

/-- A value in double quotes, and the text after it. -/
def value? : Text -> Option (Text × Text)
  | '"' :: quoted =>
      match quoted.dropWhile (· != '"') with
      | [] => none
      | _ :: rest => some (unescaped (quoted.takeWhile (· != '"')), rest)
  | _ => none

/-- A name with its value, and the text after it. -/
def attribute? (text : Text) : Option ((Text × Text) × Text) :=
  match name? text with
  | some (name, '=' :: rest) =>
      (value? rest).map fun (value, rest) => ((name, value), rest)
  | _ => none

theorem length_name?_lt
    {text name rest : Text}
    (found : name? text = some (name, rest)) :
    rest.length < text.length := by
  unfold name? at found
  dsimp only at found
  split at found
  · cases found
  · rename_i nonempty
    cases found
    have whole := congrArg List.length
      (@List.takeWhile_append_dropWhile _ isNameChar text)
    rw [List.length_append] at whole
    rw [List.isEmpty_iff, ← List.length_eq_zero_iff] at nonempty
    omega

theorem length_value?_le
    {text value rest : Text}
    (found : value? text = some (value, rest)) :
    rest.length ≤ text.length := by
  unfold value? at found
  split at found
  · rename_i quoted
    split at found
    · cases found
    · rename_i closing others dropped
      cases found
      have kept := (List.dropWhile_suffix (· != '"') (l := quoted)).length_le
      rw [dropped] at kept
      simp only [List.length_cons] at kept ⊢
      omega
  · cases found

theorem length_attribute?_lt
    {text rest : Text}
    {entry : Text × Text}
    (found : attribute? text = some (entry, rest)) :
    rest.length < text.length := by
  unfold attribute? at found
  split at found
  · rename_i name after named
    obtain ⟨⟨value, others⟩, valued, same⟩ := Option.map_eq_some_iff.mp found
    cases same
    have nameLength := length_name?_lt named
    have valueLength := length_value?_le valued
    rw [List.length_cons] at nameLength
    omega
  · cases found

/-- The end of a start tag: whether the tag closes itself, and the text after
it. -/
def tagEnd? : Text -> Option (Bool × Text)
  | '>' :: rest => some (false, rest)
  | '/' :: '>' :: rest => some (true, rest)
  | _ => none

/-- The attributes of a start tag and its end. -/
def attributes? (text : Text) : Option (List (Text × Text) × Bool × Text) :=
  match tagEnd? text.trimStart with
  | some (closed, rest) => some ([], closed, rest)
  | none =>
      match _ : attribute? text.trimStart with
      | none => none
      | some (entry, rest) =>
          (attributes? rest).map fun (entries, ending) =>
            (entry :: entries, ending)
termination_by text.length
decreasing_by
  have shorter := length_attribute?_lt ‹attribute? _ = some (entry, rest)›
  exact Nat.lt_of_lt_of_le shorter (List.dropWhile_suffix _).length_le

theorem attributes?_of_tagEnd?
    {text rest : Text}
    {closed : Bool}
    (ends : tagEnd? text.trimStart = some (closed, rest)) :
    attributes? text = some ([], closed, rest) := by
  rw [attributes?, ends]

theorem attributes?_of_attribute?
    {text rest : Text}
    {entry : Text × Text}
    (goesOn : tagEnd? text.trimStart = none)
    (found : attribute? text.trimStart = some (entry, rest)) :
    attributes? text = (attributes? rest).map fun (entries, ending) =>
      (entry :: entries, ending) := by
  rw [attributes?, goesOn]
  dsimp only
  split
  · rename_i absent
    rw [found] at absent
    cases absent
  · rename_i same
    rw [found] at same
    cases same
    rfl

/-- The tag after its opening bracket, and the text after it. -/
def tag? : Text -> Option (Mark × Text)
  | '/' :: rest =>
      match name? rest with
      | some (name, '>' :: after) => some (.stop name, after)
      | _ => none
  | text =>
      match name? text with
      | none => none
      | some (name, rest) =>
          (attributes? rest).map fun (attributes, closed, after) =>
            (if closed then .empty name attributes else .start name attributes,
              after)

theorem length_tagEnd?_lt
    {text rest : Text}
    {closed : Bool}
    (found : tagEnd? text = some (closed, rest)) :
    rest.length < text.length := by
  unfold tagEnd? at found
  split at found <;> cases found <;> simp only [List.length_cons] <;> omega

theorem length_attributes?_lt
    {text rest : Text}
    {attributes : List (Text × Text)}
    {closed : Bool}
    (found : attributes? text = some (attributes, closed, rest)) :
    rest.length < text.length := by
  have trimmed (text : Text) : text.trimStart.length ≤ text.length :=
    (List.dropWhile_suffix _).length_le
  fun_induction attributes? text generalizing attributes with
  | case1 text ending after isEnd =>
      cases found
      exact Nat.lt_of_lt_of_le (length_tagEnd?_lt isEnd) (trimmed text)
  | case2 => cases found
  | case3 text noEnd entry after isEntry inductionHypothesis =>
      obtain ⟨⟨entries, _, _⟩, others, same⟩ := Option.map_eq_some_iff.mp found
      cases same
      have shorter := inductionHypothesis others
      have entryLength := length_attribute?_lt isEntry
      have trimmedLength := trimmed text
      omega

theorem length_tag?_lt
    {text rest : Text}
    {mark : Mark}
    (found : tag? text = some (mark, rest)) :
    rest.length < text.length := by
  unfold tag? at found
  split at found
  · split at found
    · rename_i named
      cases found
      have nameLength := length_name?_lt named
      simp only [List.length_cons] at nameLength ⊢
      omega
    · cases found
  · split at found
    · cases found
    · rename_i named
      obtain ⟨⟨entries, closed, _⟩, read, same⟩ :=
        Option.map_eq_some_iff.mp found
      cases same
      have nameLength := length_name?_lt named
      have attributesLength := length_attributes?_lt read
      omega

/-- Put a character in front of some marks, into the text that stands first. -/
def consChar (char : Char) : List Mark -> List Mark
  | .text raw :: others => .text (char :: raw) :: others
  | others => .text [char] :: others

/-- The tags of a text with the texts between them. -/
def marks (text : Text) : List Mark :=
  match text with
  | [] => []
  | char :: rest =>
      if char = '<' then
        match _ : tag? rest with
        | some (mark, after) => mark :: marks after
        | none => consChar char (marks rest)
      else
        consChar char (marks rest)
termination_by text.length
decreasing_by
  · have shorter := length_tag?_lt ‹tag? rest = some (mark, after)›
    exact Nat.lt_succ_of_lt shorter
  · exact Nat.lt_succ_self _
  · exact Nat.lt_succ_self _

@[simp] theorem marks_nil : marks [] = [] := by
  rw [marks]

theorem marks_of_tag?
    {rest after : Text}
    {mark : Mark}
    (found : tag? rest = some (mark, after)) :
    marks ('<' :: rest) = mark :: marks after := by
  rw [marks, if_pos rfl]
  split
  · rename_i same
    rw [found] at same
    cases same
    rfl
  · rename_i absent
    rw [found] at absent
    cases absent

theorem marks_cons
    {char : Char}
    (noBracket : char ≠ '<')
    (rest : Text) :
    marks (char :: rest) = consChar char (marks rest) := by
  rw [marks, if_neg noBracket]

/-- An element whose end tag is still to come, with the fragments before it. -/
structure OpenElement where
  name : Text
  attributes : List (Text × Text)
  before : List Fragment

/-- The forest of some marks, within the elements that are open and behind the
fragments that the innermost of them already has. -/
def forest? :
    List OpenElement -> List Fragment -> List Mark -> Option (List Fragment)
  | [], done, [] => some done
  | _ :: _, _, [] => none
  | opened, done, .text raw :: others =>
      forest? opened (done ++ [.text (unescaped raw)]) others
  | opened, done, .empty name attributes :: others =>
      forest? opened (done ++ [.element name attributes []]) others
  | opened, done, .start name attributes :: others =>
      forest? (⟨name, attributes, done⟩ :: opened) [] others
  | ⟨name, attributes, before⟩ :: opened, done, .stop closed :: others =>
      if name = closed then
        forest? opened (before ++ [.element name attributes done]) others
      else
        none
  | [], _, .stop _ :: _ => none

/-- Read the forest that a text is written as. -/
def read? (text : Text) : Option (List Fragment) :=
  forest? [] [] (marks text)

/-- What is left of a text without its tags, with entities replaced. -/
def strippedText (text : Text) : Text :=
  unescaped ((marks text).flatMap Mark.raw)

end TagReader
end Markup
end CellPreview
