import ClientGen.Toml.Statement

/-
  Documents of TOML, read into one table and written one
  section at a time.

  Key definitions include:
    * `Document.ofText`
    * `Section`
    * `Section.spell`
    * `spellSections`
-/

namespace ClientGen.Toml

------------------------------------------------------------
-- Reading
------------------------------------------------------------

/-
  The path of the table that is being filled, and all
  entries so far.
-/
structure Draft where
  path : List String
  entries : Entries
  deriving Repr

/- A draft after one more statement. -/
def Draft.take
    (d : Draft) :
    Statement → Option Draft
  | .assign path value =>
      (d.entries.within false (·.assign path value)
        d.path).map (⟨d.path, ·⟩)
  | .table path => (d.entries.declare path).map (⟨path, ·⟩)
  | .item path => (d.entries.declareItem path).map (⟨path, ·⟩)

/- A text without the mark of its byte order. -/
def withoutMark : List Char → List Char
  | '\ufeff' :: rest => rest
  | cs => cs

/- The entries of a document, if it is well-formed. -/
def Document.ofText
    (text : String) :
    Option Entries := do
  let cs := withoutMark text.toList
  let statements ← readStatements (cs.length + 1) cs
  let draft ← statements.foldlM Draft.take ⟨[], []⟩
  some draft.entries

------------------------------------------------------------
-- Writing
------------------------------------------------------------

/- What a key is given in a section. -/
inductive Setting where
  | text (s : String)
  | flag (b : Bool)
  deriving DecidableEq, Repr

/- What is given, as it is written. -/
def Setting.spell : Setting → String
  | .text s => Toml.spell s
  | .flag true => "true"
  | .flag false => "false"

/- A table with plain keys and values. -/
structure Section where
  name : String
  settings : List (String × Setting)
  deriving DecidableEq, Repr

/- The lines of a section. -/
def Section.spell
    (s : Section) :
    String :=
  "[" ++ s.name ++ "]\n" ++
    String.join (s.settings.map fun (key, setting) =>
      key ++ " = " ++ setting.spell ++ "\n")

/- Sections with an empty line between each two. -/
def spellSections : List Section → String
  | [] => ""
  | [s] => s.spell
  | s :: next :: more =>
      s.spell ++ "\n" ++ spellSections (next :: more)

end ClientGen.Toml
