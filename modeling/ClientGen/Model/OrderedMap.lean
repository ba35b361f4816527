/-
  Maps from names that remember the order in which the names
  came first.

  Key definitions include:
    * `OrderedMap`
    * `OrderedMap.insert`
    * `OrderedMap.ofList`
    * `OrderedMap.get?`
    * `OrderedMap.keys`
    * `OrderedMap.values`

  Putting in a name again replaces its value and leaves it
  in its place.
-/

namespace ClientGen.Model

------------------------------------------------------------
-- Entries
------------------------------------------------------------

/- Replace the value of a name, or add the name at the end. -/
def putEntry
    {α : Type}
    (key : String)
    (value : α) :
    List (String × α) → List (String × α)
  | [] => [(key, value)]
  | (k, v) :: rest =>
      if k = key then (k, value) :: rest
      else (k, v) :: putEntry key value rest

/- A name that was there leaves the names as they were. -/
theorem map_fst_putEntry_of_mem
    {α : Type}
    {key : String}
    {value : α}
    {entries : List (String × α)}
    (h : key ∈ entries.map Prod.fst) :
    (putEntry key value entries).map Prod.fst =
      entries.map Prod.fst := by
  induction entries with
  | nil => simp at h
  | cons e rest ih =>
      obtain ⟨k, v⟩ := e
      by_cases hk : k = key
      · simp [putEntry, hk]
      · have hrest : key ∈ rest.map Prod.fst := by
          simpa [Ne.symm hk] using h
        simp [putEntry, hk, ih hrest]

/- A new name comes after all the others. -/
theorem map_fst_putEntry_of_not_mem
    {α : Type}
    {key : String}
    {value : α}
    {entries : List (String × α)}
    (h : key ∉ entries.map Prod.fst) :
    (putEntry key value entries).map Prod.fst =
      entries.map Prod.fst ++ [key] := by
  induction entries with
  | nil => simp [putEntry]
  | cons e rest ih =>
      obtain ⟨k, v⟩ := e
      have hk : k ≠ key := by
        rintro rfl
        simp at h
      have hrest : key ∉ rest.map Prod.fst := by
        intro hmem
        exact h (List.mem_cons_of_mem k hmem)
      simp [putEntry, hk, ih hrest]

/- Names stay distinct. -/
theorem nodup_putEntry
    {α : Type}
    {key : String}
    {value : α}
    {entries : List (String × α)}
    (h : (entries.map Prod.fst).Nodup) :
    ((putEntry key value entries).map Prod.fst).Nodup := by
  by_cases hmem : key ∈ entries.map Prod.fst
  · rw [map_fst_putEntry_of_mem hmem]
    exact h
  · rw [map_fst_putEntry_of_not_mem hmem]
    refine List.nodup_append.2 ⟨h, by simp, ?_⟩
    intro k hk l hl
    rintro rfl
    simp only [List.mem_singleton] at hl
    exact hmem (hl ▸ hk)

------------------------------------------------------------
-- Maps
------------------------------------------------------------

/- Entries with distinct names, in order. -/
structure OrderedMap (α : Type) where
  entries : List (String × α)
  nodup : (entries.map Prod.fst).Nodup
  deriving DecidableEq, Repr

namespace OrderedMap

variable {α : Type}

/- The map without entries. -/
def empty : OrderedMap α :=
  ⟨[], List.nodup_nil⟩

instance : Inhabited (OrderedMap α) :=
  ⟨empty⟩

/- Put in a name with its value. -/
def insert
    (m : OrderedMap α)
    (key : String)
    (value : α) :
    OrderedMap α :=
  ⟨putEntry key value m.entries, nodup_putEntry m.nodup⟩

/- The map into which the entries were put one by one. -/
def ofList
    (entries : List (String × α)) :
    OrderedMap α :=
  entries.foldl (fun m (k, v) => m.insert k v) empty

/- The value of a name. -/
def get?
    (m : OrderedMap α)
    (key : String) :
    Option α :=
  m.entries.lookup key

/- The names, in order. -/
def keys
    (m : OrderedMap α) :
    List String :=
  m.entries.map Prod.fst

/- The values, in the order of their names. -/
def values
    (m : OrderedMap α) :
    List α :=
  m.entries.map Prod.snd

end OrderedMap

end ClientGen.Model
