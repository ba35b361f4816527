import ClientGen.Java.ClassName

/-
  Which classes a file imports, and how it spells the
  classes it mentions.

  Key definitions include:
    * `Scope`
    * `Scope.ofMentions`
    * `Scope.IsOnly`
    * `Scope.imports`
    * `Scope.spell`
    * `ImportTable`
    * `ImportTable.ofMentions`
    * `ImportTable.resolve`

  A simple name is used where it can only mean one of the
  top-level classes in sight.  Classes that share a simple
  name are all written in full and none is imported.  A
  scope says which names those are; the table of a file is
  built by grouping its classes by simple name.
-/

namespace ClientGen.Java

open ClientGen.Text

------------------------------------------------------------
-- Scopes
------------------------------------------------------------

/-
  A file's package, and the top-level classes in sight: the
  one it declares and those of the classes it mentions.
-/
structure Scope where
  package : String
  topLevels : List ClassName
  deriving DecidableEq, Repr

namespace Scope

/- The scope of a file from the classes it mentions. -/
def ofMentions
    (package : String)
    (declared : ClassName)
    (mentioned : List ClassName) :
    Scope :=
  ⟨package,
    ((declared :: mentioned).map ClassName.outermost).eraseDups⟩

/-
  A top-level class is the only one in sight with its simple
  name.
-/
def IsOnly
    (scope : Scope)
    (c : ClassName) :
    Prop :=
  c ∈ scope.topLevels ∧
    ∀ other ∈ scope.topLevels,
      other.topLevel = c.topLevel → other = c

instance
    (scope : Scope)
    (c : ClassName) :
    Decidable (scope.IsOnly c) := by
  unfold IsOnly
  infer_instance

/- A class of this package is seen without an import. -/
def Implicit
    (scope : Scope)
    (c : ClassName) :
    Prop :=
  c.package = "" ∨ c.package = "java.lang" ∨
    c.package = scope.package

instance
    (scope : Scope)
    (c : ClassName) :
    Decidable (scope.Implicit c) := by
  unfold Implicit
  infer_instance

------------------------------------------------------------
-- Imports
------------------------------------------------------------

/- Put a name into a list kept in order without repeats. -/
def insertName
    (name : String) :
    List String → List String
  | [] => [name]
  | first :: rest =>
      if name < first then name :: first :: rest
      else if name = first then first :: rest
      else first :: insertName name rest

/- The full names of the imported classes, in order. -/
def imports
    (scope : Scope) :
    List String :=
  (scope.topLevels.filter fun c =>
      decide (scope.IsOnly c ∧ ¬ scope.Implicit c)
    ).foldr (fun c names => insertName c.canonical names) []

------------------------------------------------------------
-- Spelling
------------------------------------------------------------

/-
  How the file writes a class: from the top-level class down
  if that one needs no package, and in full otherwise.
-/
def spell
    (scope : Scope)
    (c : ClassName) :
    String :=
  if scope.IsOnly c.outermost then c.relative
  else c.canonical

end Scope

------------------------------------------------------------
-- Tables
------------------------------------------------------------

/-
  Classes by simple name: every name once, with the distinct
  classes that have it.
-/
abbrev ClassGroups :=
  List (String × List ClassName)

/- Put a top-level class into the group of its name. -/
def ClassGroups.add
    (c : ClassName) :
    ClassGroups → ClassGroups
  | [] => [(c.topLevel, [c])]
  | (simple, classes) :: rest =>
      if simple = c.topLevel then
        (simple, classes.insert c) :: rest
      else (simple, classes) :: ClassGroups.add c rest

/- The groups of the classes of a list. -/
def ClassGroups.ofList
    (classes : List ClassName) :
    ClassGroups :=
  classes.foldl (fun groups c => groups.add c) []

/-
  The simple names that stand for one class, and the full
  names to import, in order.
-/
structure ImportTable where
  unique : List (String × ClassName)
  imports : List String
  deriving DecidableEq, Repr

namespace ImportTable

/- Take in a group.  One of several classes is left out. -/
def addGroup
    (package : String)
    (table : ImportTable) :
    String × List ClassName → ImportTable
  | (simple, [c]) =>
      { unique := (simple, c) :: table.unique
        imports :=
          if c.package = "" ∨ c.package = "java.lang" ∨
              c.package = package then
            table.imports
          else Scope.insertName c.canonical table.imports }
  | _ => table

/- The table of a file from the classes it mentions. -/
def ofMentions
    (package : String)
    (declared : ClassName)
    (mentioned : List ClassName) :
    ImportTable :=
  (ClassGroups.ofList
      ((declared :: mentioned).map ClassName.outermost)
    ).foldl (addGroup package) ⟨[], []⟩

/- How the file writes a class. -/
def resolve
    (table : ImportTable)
    (c : ClassName) :
    String :=
  let top := c.outermost
  c.nested.foldl
    (fun spelled name => spelled ++ "." ++ name)
    (if table.unique.lookup top.topLevel = some top then
      top.topLevel
      else top.canonical)

end ImportTable

end ClientGen.Java
