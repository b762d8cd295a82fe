import CellPreview.Entries

/-!
# Tables of TOML

A TOML document builds one table out of assignments and headers. How a table
came to be decides what may still be added to it: an inline table is closed, a
table stated by a header is not stated again, a table made by the dots of a
name is filled by dots only, and a table that was only implied by a longer
header may still be stated.

Of the values only those are kept that a setting can be made of.
-/

namespace CellPreview
namespace Toml

/-- How a table came to be. -/
inductive Origin
  | inline
  | dotted
  | implied
  | stated
  deriving DecidableEq

/-- A value of a document. -/
inductive Item
  | text (content : Text)
  | integer (number : Int)
  | emptyList
  | table (origin : Origin) (entries : List (Text × Item))

/-- Named items of a table. -/
abbrev Table := Entries Item

namespace Table

/-- Assign an item to a name, below the tables named by the dotted part of it.
Nothing is assigned twice. `isOpen` tells whether the table at hand may be added
to. -/
def assign? (name : Text) (item : Item) :
    List Text -> Bool -> Table -> Option Table
  | [], isOpen, table =>
      if isOpen && (Entries.find? name table).isNone then
        some (Entries.put name item table)
      else
        none
  | first :: others, _, table =>
      match Entries.find? first table with
      | none =>
          (assign? name item others true []).map fun inner =>
            Entries.put first (.table .dotted inner) table
      | some (.table .dotted inner) =>
          (assign? name item others true inner).map fun inner =>
            Entries.put first (.table .dotted inner) table
      | some (.table .implied inner) =>
          (assign? name item others false inner).map fun inner =>
            Entries.put first (.table .implied inner) table
      | some _ => none

/-- State the table that a header names. -/
def state? : List Text -> Table -> Option Table
  | [], _ => none
  | [name], table =>
      match Entries.find? name table with
      | none => some (Entries.put name (.table .stated []) table)
      | some (.table .implied inner) =>
          some (Entries.put name (.table .stated inner) table)
      | some _ => none
  | first :: others, table =>
      match Entries.find? first table with
      | none =>
          (state? others []).map fun inner =>
            Entries.put first (.table .implied inner) table
      | some (.table .inline _) => none
      | some (.table origin inner) =>
          (state? others inner).map fun inner =>
            Entries.put first (.table origin inner) table
      | some _ => none

/-- Change the table at a path. -/
def within? (change : Table -> Option Table) :
    List Text -> Table -> Option Table
  | [], table => change table
  | first :: others, table =>
      match Entries.find? first table with
      | some (.table origin inner) =>
          (within? change others inner).map fun inner =>
            Entries.put first (.table origin inner) table
      | _ => none

end Table
end Toml
end CellPreview
