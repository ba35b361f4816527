import ClientGen.Toml.Scalar

/-
  Values of TOML, and how tables grow while a document is
  read.

  Key definitions include:
    * `Value`
    * `Value.isReadable`
    * `Entries`
    * `Entries.alter`
    * `Entries.within`
    * `Entries.assign`
    * `Entries.declare`
    * `Entries.declareItem`

  A table may be mentioned in several places of a document,
  but only in ways that keep every key in one of them.
-/

namespace ClientGen.Toml

------------------------------------------------------------
-- Values
------------------------------------------------------------

/-
  How a table came about: as part of a header for another
  table, as part of a dotted key, by a header of its own, or
  written out as a value.
-/
inductive TableOrigin where
  | implied
  | dotted
  | declared
  | written
  deriving DecidableEq, Repr

/- A value.  Numbers and moments keep their spelling. -/
inductive Value where
  | text (s : String)
  | flag (b : Bool)
  | number (spelling : String)
  | moment (spelling : String)
  | array (items : List Value)
  | table
      (origin : TableOrigin)
      (entries : List (String × Value))
  | tables (items : List (List (String × Value)))
  deriving Repr, Inhabited

/- The keys of a table with their values, in order. -/
abbrev Entries :=
  List (String × Value)

mutual

/- Whether all numbers in a value have values themselves. -/
def Value.isReadable : Value → Bool
  | .number spelling => hasValue spelling.toList
  | .array items => itemsAreReadable items
  | .table _ entries => entriesAreReadable entries
  | .tables items => tablesAreReadable items
  | _ => true

/- Whether that is so of all items of an array. -/
def itemsAreReadable : List Value → Bool
  | [] => true
  | v :: rest => v.isReadable && itemsAreReadable rest

/- Whether that is so of all entries of a table. -/
def entriesAreReadable : List (String × Value) → Bool
  | [] => true
  | (_, v) :: rest => v.isReadable && entriesAreReadable rest

/- Whether that is so of all tables of a list. -/
def tablesAreReadable :
    List (List (String × Value)) → Bool
  | [] => true
  | entries :: rest =>
      entriesAreReadable entries && tablesAreReadable rest

end

------------------------------------------------------------
-- Changes
------------------------------------------------------------

namespace Entries

/-
  Change the value of a key, or add the key at the end.  The
  change is given the value there is.
-/
def alter
    (key : String)
    (change : Option Value → Option Value) :
    Entries → Option Entries
  | [] => (change none).map fun v => [(key, v)]
  | (k, v) :: rest =>
      if k = key then
        (change (some v)).map fun v => (k, v) :: rest
      else (alter key change rest).map ((k, v) :: ·)

/-
  Whether a way may go on through a table.  No way leads
  through tables that are written out, and a dotted key does
  not lead through tables that are declared elsewhere.  Where
  a dotted key ends, the table is one of dotted keys only.
-/
def mayEnter
    (isDotted isEnd : Bool) :
    TableOrigin → Bool
  | .written => false
  | .declared => !isDotted
  | .implied => !(isDotted && isEnd)
  | .dotted => true

/-
  Change the table at the end of a path.  Tables that are
  missing on the way are added.  In a list of tables the way
  leads through the last.
-/
def within
    (isDotted : Bool)
    (change : Entries → Option Entries) :
    List String → Entries → Option Entries
  | [], entries => change entries
  | key :: path, entries =>
      entries.alter key fun
        | none =>
            (within isDotted change path []).map
              (.table (if isDotted then .dotted else .implied))
        | some (.table origin inner) =>
            if mayEnter isDotted path.isEmpty origin then
              (within isDotted change path inner).map
                (.table origin)
            else none
        | some (.tables items) =>
            match items.reverse with
            | [] => none
            | last :: before =>
                if isDotted && path.isEmpty then none
                else
                  (within isDotted change path last).map
                    fun last => .tables (last :: before).reverse
        | some _ => none

/- Give a key that is not there a value. -/
def add
    (key : String)
    (value : Value)
    (entries : Entries) :
    Option Entries :=
  entries.alter key fun
    | none => some value
    | some _ => none

/- Give the end of a dotted key a value. -/
def assign
    (path : List String)
    (value : Value)
    (entries : Entries) :
    Option Entries :=
  match path.reverse with
  | [] => none
  | key :: before =>
      within true (add key value) before.reverse entries

/- Declare a table, which may be implied but not declared. -/
def declare
    (path : List String)
    (entries : Entries) :
    Option Entries :=
  match path.reverse with
  | [] => none
  | key :: before =>
      entries.within false
        (alter key fun
          | none => some (.table .declared [])
          | some (.table .implied inner) =>
              some (.table .declared inner)
          | some _ => none)
        before.reverse

/- Declare one more table of a list of tables. -/
def declareItem
    (path : List String)
    (entries : Entries) :
    Option Entries :=
  match path.reverse with
  | [] => none
  | key :: before =>
      entries.within false
        (alter key fun
          | none => some (.tables [[]])
          | some (.tables items) =>
              some (.tables (items ++ [[]]))
          | some _ => none)
        before.reverse

end Entries

end ClientGen.Toml
