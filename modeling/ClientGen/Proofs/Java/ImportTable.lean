import ClientGen.Java.SourceFile

/-
  The table of a file's imports says what its scope says.

  Main declarations include:
    * `Scope.mem_insertName`
    * `Scope.pairwise_insertName`
    * `ClassGroups.ofList_spec`
    * `ClassGroups.singleton_mem_ofList_iff`
    * `ImportTable.imports_ofMentions`
    * `ImportTable.resolve_ofMentions`
    * `SourceFile.source_eq`

  A class is the only one with its simple name exactly if it
  is alone in its group, so walking through the groups finds
  the same classes as asking for each class in sight.
-/

namespace ClientGen.Java

open ClientGen.Text

------------------------------------------------------------
-- Names in Order
------------------------------------------------------------

namespace Scope

/- A name is put in and all others stay. -/
theorem mem_insertName
    {name other : String}
    {names : List String} :
    other ∈ insertName name names ↔
      other = name ∨ other ∈ names := by
  induction names with
  | nil => simp [insertName]
  | cons first rest ih =>
      unfold insertName
      by_cases hLess : name < first
      · simp [hLess]
      · by_cases hSame : name = first
        · simp [hSame]
        · rw [if_neg hLess, if_neg hSame, List.mem_cons,
            List.mem_cons, ih]
          exact or_left_comm

/- Names in strictly increasing order stay so. -/
theorem pairwise_insertName
    {name : String}
    {names : List String}
    (hOrder : names.Pairwise (· < ·)) :
    (insertName name names).Pairwise (· < ·) := by
  induction names with
  | nil => simp [insertName]
  | cons first rest ih =>
      rcases List.pairwise_cons.mp hOrder with
        ⟨hFirst, hRest⟩
      unfold insertName
      by_cases hLess : name < first
      · rw [if_pos hLess]
        refine List.pairwise_cons.mpr ⟨?_, hOrder⟩
        intro other hMem
        rcases List.mem_cons.mp hMem with rfl | hMem
        · exact hLess
        · exact String.lt_trans hLess (hFirst other hMem)
      · by_cases hSame : name = first
        · rw [if_neg hLess, if_pos hSame]
          exact hOrder
        · rw [if_neg hLess, if_neg hSame]
          refine List.pairwise_cons.mpr ⟨?_, ih hRest⟩
          intro other hMem
          rcases mem_insertName.mp hMem with rfl | hMem
          · rcases String.le_total first other with hLe | hLe
            · exact Std.lt_of_le_of_ne hLe (Ne.symm hSame)
            · exact absurd (Std.lt_of_le_of_ne hLe hSame)
                hLess
          · exact hFirst other hMem

/- Names in strict order are known by which they are. -/
theorem eq_of_pairwise_lt
    {names others : List String}
    (hNames : names.Pairwise (· < ·))
    (hOthers : others.Pairwise (· < ·))
    (hMem : ∀ name, name ∈ names ↔ name ∈ others) :
    names = others := by
  have hNodup :
      ∀ {list : List String},
        list.Pairwise (· < ·) → list.Nodup := by
    intro list hList
    exact hList.imp fun hLess => String.ne_of_lt hLess
  have hPerm :=
    (List.perm_ext_iff_of_nodup (hNodup hNames)
      (hNodup hOthers)).mpr hMem
  refine hPerm.eq_of_pairwise ?_ hNames hOthers
  intro a b _ _ hLess hGreater
  exact absurd hGreater (String.lt_asymm hLess)

end Scope

------------------------------------------------------------
-- Entries
------------------------------------------------------------

section

variable {α : Type}
variable {entries : List (String × α)}
variable {key : String}

/- A key that occurs once has one value. -/
theorem eq_of_mem_of_nodup
    {value other : α}
    (hKeys : (entries.map Prod.fst).Nodup)
    (hValue : (key, value) ∈ entries)
    (hOther : (key, other) ∈ entries) :
    value = other := by
  induction entries with
  | nil => cases hValue
  | cons entry rest ih =>
      rcases List.nodup_cons.mp hKeys with ⟨hFirst, hRest⟩
      have hAbsent : ∀ v, entry.1 = key → (key, v) ∉ rest := by
        rintro v rfl hMem
        exact hFirst (List.mem_map.mpr ⟨_, hMem, rfl⟩)
      rcases List.mem_cons.mp hValue with hEq | hValue
      · rcases List.mem_cons.mp hOther with hEq' | hOther
        · simpa using hEq.trans hEq'.symm
        · exact absurd hOther
            (hAbsent other (congrArg Prod.fst hEq).symm)
      · rcases List.mem_cons.mp hOther with hEq' | hOther
        · exact absurd hValue
            (hAbsent value (congrArg Prod.fst hEq').symm)
        · exact ih hRest hValue hOther

/- Such a key is found with its value. -/
theorem lookup_eq_some_iff_mem
    {value : α}
    (hKeys : (entries.map Prod.fst).Nodup) :
    entries.lookup key = some value ↔
      (key, value) ∈ entries := by
  constructor
  · intro hLookup
    rcases List.lookup_eq_some_iff.mp hLookup with
      ⟨before, after, rfl, _⟩
    simp
  · intro hMem
    cases hLookup : entries.lookup key with
    | none =>
        have hNone :=
          List.lookup_eq_none_iff.mp hLookup _ hMem
        simp at hNone
    | some found =>
        rcases List.lookup_eq_some_iff.mp hLookup with
          ⟨before, after, rfl, _⟩
        have hSame : value = found :=
          eq_of_mem_of_nodup hKeys hMem (by simp)
        rw [hSame]

end

------------------------------------------------------------
-- Groups
------------------------------------------------------------

namespace ClassGroups

/- A class is in the group of some name. -/
def Has
    (groups : ClassGroups)
    (simple : String)
    (c : ClassName) :
    Prop :=
  ∃ classes, (simple, classes) ∈ groups ∧ c ∈ classes

/-
  Every name has one group, and no class is in a group
  twice.
-/
structure Tidy
    (groups : ClassGroups) :
    Prop where
  names : (groups.map Prod.fst).Nodup
  classes : ∀ group ∈ groups, group.2.Nodup

/- Putting in a class puts it into the group of its name. -/
theorem has_add
    {groups : ClassGroups}
    {c d : ClassName}
    {simple : String} :
    (groups.add c).Has simple d ↔
      (d = c ∧ simple = c.topLevel) ∨
        groups.Has simple d := by
  induction groups with
  | nil =>
      constructor
      · rintro ⟨classes, hGroup, hMem⟩
        simp only [add, List.mem_singleton,
          Prod.mk.injEq] at hGroup
        rcases hGroup with ⟨rfl, rfl⟩
        exact .inl ⟨List.mem_singleton.mp hMem, rfl⟩
      · rintro (⟨rfl, rfl⟩ | ⟨classes, hGroup, _⟩)
        · exact ⟨[d], by simp [add], by simp⟩
        · cases hGroup
  | cons group rest ih =>
      rcases group with ⟨name, classes⟩
      unfold add
      by_cases hName : name = c.topLevel
      · rw [if_pos hName]
        subst hName
        unfold Has
        constructor
        · rintro ⟨found, hFound, hMem⟩
          rcases List.mem_cons.mp hFound with hEq | hFound
          · cases hEq
            rcases List.mem_insert_iff.mp hMem with rfl | hMem
            · exact .inl ⟨rfl, rfl⟩
            · exact .inr ⟨classes, by simp, hMem⟩
          · exact .inr ⟨found, by simp [hFound], hMem⟩
        · rintro (⟨rfl, rfl⟩ | ⟨found, hFound, hMem⟩)
          · exact ⟨classes.insert d, by simp, by simp⟩
          · rcases List.mem_cons.mp hFound with hEq | hFound
            · cases hEq
              exact ⟨classes.insert c, by simp, by simp [hMem]⟩
            · exact ⟨found, by simp [hFound], hMem⟩
      · rw [if_neg hName]
        have hCons :
            ∀ groups : ClassGroups,
              Has ((name, classes) :: groups) simple d ↔
                (simple = name ∧ d ∈ classes) ∨
                  groups.Has simple d := by
          intro groups
          simp [Has, or_and_right, exists_or, and_assoc]
        rw [hCons, hCons, ih]
        exact or_left_comm

/- Names stay as they are, or the new one is added last. -/
theorem map_fst_add
    (c : ClassName)
    (groups : ClassGroups) :
    (groups.add c).map Prod.fst =
      if c.topLevel ∈ groups.map Prod.fst then
        groups.map Prod.fst
      else groups.map Prod.fst ++ [c.topLevel] := by
  induction groups with
  | nil => simp [add]
  | cons group rest ih =>
      rcases group with ⟨name, classes⟩
      unfold add
      by_cases hName : name = c.topLevel
      · simp [hName]
      · rw [if_neg hName, List.map_cons, ih]
        by_cases hRest : c.topLevel ∈ rest.map Prod.fst
        · simp_all
        · simp_all [Ne.symm hName]

/- No class is put into a group twice. -/
theorem nodup_add
    {groups : ClassGroups}
    (hClasses : ∀ group ∈ groups, group.2.Nodup)
    (c : ClassName) :
    ∀ group ∈ groups.add c, group.2.Nodup := by
  induction groups with
  | nil => simp [add]
  | cons group rest ih =>
      rcases group with ⟨name, classes⟩
      rcases List.forall_mem_cons.mp hClasses with
        ⟨hFirst, hRest⟩
      unfold add
      by_cases hName : name = c.topLevel
      · rw [if_pos hName]
        refine List.forall_mem_cons.mpr ⟨?_, hRest⟩
        by_cases hMem : c ∈ classes
        · simpa [List.insert_of_mem hMem] using hFirst
        · simpa [List.insert_of_not_mem hMem] using
            ⟨hMem, hFirst⟩
      · rw [if_neg hName]
        exact List.forall_mem_cons.mpr ⟨hFirst, ih hRest⟩

/- Groups stay tidy. -/
theorem Tidy.add
    {groups : ClassGroups}
    (hTidy : groups.Tidy)
    (c : ClassName) :
    (groups.add c).Tidy := by
  refine ⟨?_, nodup_add hTidy.classes c⟩
  rw [map_fst_add]
  by_cases hMem : c.topLevel ∈ groups.map Prod.fst
  · rw [if_pos hMem]
    exact hTidy.names
  · rw [if_neg hMem]
    refine List.nodup_append.mpr
      ⟨hTidy.names, by simp, ?_⟩
    intro name hName other hOther
    rw [List.mem_singleton.mp hOther]
    rintro rfl
    exact hMem hName

/- The groups of a list are tidy and hold the list. -/
theorem ofList_spec
    (classes : List ClassName) :
    (ofList classes).Tidy ∧
      ∀ simple c, (ofList classes).Has simple c ↔
        c ∈ classes ∧ c.topLevel = simple := by
  suffices hFold :
      ∀ groups : ClassGroups, groups.Tidy →
        (classes.foldl (fun groups c => groups.add c)
            groups).Tidy ∧
          ∀ simple c,
            (classes.foldl (fun groups c => groups.add c)
                groups).Has simple c ↔
              groups.Has simple c ∨
                (c ∈ classes ∧ c.topLevel = simple) by
    have hEmpty : ClassGroups.Tidy [] := ⟨by simp, by simp⟩
    simpa [ofList, Has] using hFold [] hEmpty
  induction classes with
  | nil =>
      intro groups hTidy
      simpa using hTidy
  | cons first rest ih =>
      intro groups hTidy
      rcases ih _ (hTidy.add first) with ⟨hRest, hHas⟩
      refine ⟨hRest, fun simple c => ?_⟩
      rw [List.foldl_cons, hHas, has_add, List.mem_cons]
      constructor
      · rintro ((⟨rfl, rfl⟩ | hOld) | ⟨hMem, hName⟩)
        · exact .inr ⟨.inl rfl, rfl⟩
        · exact .inl hOld
        · exact .inr ⟨.inr hMem, hName⟩
      · rintro (hOld | ⟨rfl | hMem, rfl⟩)
        · exact .inl (.inr hOld)
        · exact .inl (.inl ⟨rfl, rfl⟩)
        · exact .inr ⟨hMem, rfl⟩

/-
  A class has a group to itself exactly if no other class
  has its name.
-/
theorem singleton_mem_ofList_iff
    {classes : List ClassName}
    {simple : String}
    {c : ClassName} :
    (simple, [c]) ∈ ofList classes ↔
      c.topLevel = simple ∧ c ∈ classes ∧
        ∀ d ∈ classes, d.topLevel = simple → d = c := by
  rcases ofList_spec classes with ⟨hTidy, hHas⟩
  constructor
  · intro hGroup
    obtain ⟨hMem, hName⟩ :=
      (hHas simple c).mp ⟨[c], hGroup, by simp⟩
    refine ⟨hName, hMem, fun d hD hDName => ?_⟩
    rcases (hHas simple d).mpr ⟨hD, hDName⟩ with
      ⟨others, hOthers, hIn⟩
    have hSame : others = [c] :=
      eq_of_mem_of_nodup hTidy.names hOthers hGroup
    simpa [hSame] using hIn
  · rintro ⟨hName, hMem, hOnly⟩
    rcases (hHas simple c).mpr ⟨hMem, hName⟩ with
      ⟨found, hGroup, hIn⟩
    have hAll : ∀ d ∈ found, d = c := by
      intro d hD
      rcases (hHas simple d).mp ⟨found, hGroup, hD⟩ with
        ⟨hDMem, hDName⟩
      exact hOnly d hDMem hDName
    have hFound : found = [c] := by
      apply List.perm_singleton.mp
      refine (List.perm_ext_iff_of_nodup
        (hTidy.classes _ hGroup) (by simp)).mpr ?_
      intro d
      rw [List.mem_singleton]
      refine ⟨hAll d, ?_⟩
      rintro rfl
      exact hIn
    rwa [← hFound]

end ClassGroups

------------------------------------------------------------
-- Tables
------------------------------------------------------------

/- The names are put in one after the other. -/
theorem foldl_insertName_spec
    (classes : List ClassName)
    (names : List String)
    (hOrder : names.Pairwise (· < ·)) :
    (classes.foldl
        (fun names c => Scope.insertName c.canonical names)
        names).Pairwise (· < ·) ∧
      ∀ name,
        name ∈ classes.foldl
            (fun names c => Scope.insertName c.canonical names)
            names ↔
          name ∈ names ∨
            ∃ c ∈ classes, name = c.canonical := by
  induction classes generalizing names with
  | nil => simpa using hOrder
  | cons c classes ih =>
      rcases ih _ (Scope.pairwise_insertName hOrder) with
        ⟨hSorted, hMem⟩
      refine ⟨hSorted, fun name => ?_⟩
      rw [List.foldl_cons, hMem, Scope.mem_insertName]
      simp only [List.mem_cons, exists_eq_or_imp]
      constructor
      · rintro ((hSame | hOld) | hLater)
        · exact .inr (.inl hSame)
        · exact .inl hOld
        · exact .inr (.inr hLater)
      · rintro (hOld | hSame | hLater)
        · exact .inl (.inr hOld)
        · exact .inl (.inl hSame)
        · exact .inr hLater

namespace ImportTable

/- The class of a group that has no other. -/
def alone :
    String × List ClassName → Option (String × ClassName)
  | (simple, [c]) => some (simple, c)
  | _ => none

theorem alone_eq_some_iff
    {group : String × List ClassName}
    {simple : String}
    {c : ClassName} :
    alone group = some (simple, c) ↔
      group = (simple, [c]) := by
  rcases group with ⟨name, _ | ⟨d, _ | ⟨e, more⟩⟩⟩ <;>
    simp [alone]

variable (package : String)
variable (groups : ClassGroups)
variable (table : ImportTable)

/- The names that become unique are those of lone classes. -/
theorem unique_foldl_addGroup :
    (groups.foldl (addGroup package) table).unique =
      (groups.filterMap alone).reverse ++ table.unique := by
  induction groups generalizing table with
  | nil => rfl
  | cons group rest ih =>
      rw [List.foldl_cons, ih]
      rcases group with ⟨name, _ | ⟨c, _ | ⟨d, more⟩⟩⟩ <;>
        simp [List.filterMap_cons, alone, addGroup]

/- Those lone classes that need it are imported. -/
theorem imports_foldl_addGroup :
    (groups.foldl (addGroup package) table).imports =
      (((groups.filterMap alone).map Prod.snd).filter fun c =>
          decide (¬ Scope.Implicit ⟨package, []⟩ c)).foldl
        (fun names c => Scope.insertName c.canonical names)
        table.imports := by
  induction groups generalizing table with
  | nil => rfl
  | cons group rest ih =>
      rw [List.foldl_cons, ih]
      rcases group with ⟨name, _ | ⟨c, _ | ⟨d, more⟩⟩⟩
      · simp [List.filterMap_cons, alone, addGroup]
      · by_cases hImplicit : Scope.Implicit ⟨package, []⟩ c
        · have hSeen := hImplicit
          unfold Scope.Implicit at hSeen
          simp [alone, addGroup, hImplicit, hSeen]
        · have hSeen := hImplicit
          unfold Scope.Implicit at hSeen
          simp [alone, addGroup, hImplicit, hSeen]
      · simp [List.filterMap_cons, alone, addGroup]

/- Lone classes have different names. -/
theorem nodup_filterMap_alone
    (hNames : (groups.map Prod.fst).Nodup) :
    ((groups.filterMap alone).map Prod.fst).Nodup := by
  have hSublist :
      ((groups.filterMap alone).map Prod.fst).Sublist
        (groups.map Prod.fst) := by
    induction groups with
    | nil => simp
    | cons group rest ih =>
        have hRest := ih (List.nodup_cons.mp hNames).2
        rcases group with ⟨name, _ | ⟨c, _ | ⟨d, more⟩⟩⟩
        · exact hRest.cons name
        · exact hRest.cons_cons name
        · exact hRest.cons name
  exact hNames.sublist hSublist

end ImportTable

------------------------------------------------------------
-- Spellings
------------------------------------------------------------

/- A text in front of the first is in front of them all. -/
theorem joinWith_append_cons
    (separator before first : String)
    (rest : List String) :
    joinWith separator ((before ++ first) :: rest) =
      before ++ joinWith separator (first :: rest) := by
  cases rest with
  | nil => rfl
  | cons second more =>
      simp only [joinWith, String.append_assoc]

/- Nested names come after the name they are nested in. -/
theorem foldl_nested_eq_joinWith
    (outer : String)
    (nested : List String) :
    nested.foldl (fun spelled name => spelled ++ "." ++ name)
        outer =
      joinWith "." (outer :: nested) := by
  induction nested generalizing outer with
  | nil => rfl
  | cons name nested ih =>
      rw [List.foldl_cons, ih, joinWith_append_cons]
      rfl

/- So they do after a full name. -/
theorem foldl_nested_outermost_canonical
    (c : ClassName) :
    c.nested.foldl (fun spelled name => spelled ++ "." ++ name)
        c.outermost.canonical =
      c.canonical := by
  rw [foldl_nested_eq_joinWith]
  unfold ClassName.canonical
  by_cases hPackage : c.package = ""
  · simp [hPackage, ClassName.outermost, ClassName.relative,
      ClassName.simpleNames, joinWith]
  · simp only [ClassName.outermost, hPackage, if_false]
    exact joinWith_append_cons "." _ c.topLevel c.nested

------------------------------------------------------------
-- Tables and Scopes
------------------------------------------------------------

section

variable (package : String)
variable (declared : ClassName)
variable (mentioned : List ClassName)

/- A class is alone in its group if it is the only one. -/
theorem singleton_mem_ofList_iff_isOnly
    (simple : String)
    (c : ClassName) :
    (simple, [c]) ∈ ClassGroups.ofList
        ((declared :: mentioned).map ClassName.outermost) ↔
      simple = c.topLevel ∧
        (Scope.ofMentions package declared mentioned).IsOnly
          c := by
  rw [ClassGroups.singleton_mem_ofList_iff]
  unfold Scope.IsOnly Scope.ofMentions
  simp only [List.mem_eraseDups]
  constructor
  · rintro ⟨rfl, hOnly⟩
    exact ⟨rfl, hOnly⟩
  · rintro ⟨rfl, hOnly⟩
    exact ⟨rfl, hOnly⟩

/- The scope imports in order what is not seen without. -/
theorem Scope.imports_spec
    (scope : Scope) :
    scope.imports.Pairwise (· < ·) ∧
      ∀ name, name ∈ scope.imports ↔
        ∃ c, scope.IsOnly c ∧ ¬ scope.Implicit c ∧
          name = c.canonical := by
  have hFold :
      scope.imports =
        ((scope.topLevels.filter fun c =>
            decide (scope.IsOnly c ∧ ¬ scope.Implicit c)
          ).reverse).foldl
          (fun names c => insertName c.canonical names) [] := by
    rw [List.foldl_reverse]
    rfl
  obtain ⟨hSorted, hMem⟩ :=
    foldl_insertName_spec
      (scope.topLevels.filter fun c =>
        decide (scope.IsOnly c ∧ ¬ scope.Implicit c)).reverse
      [] List.Pairwise.nil
  rw [hFold]
  refine ⟨hSorted, fun name => ?_⟩
  rw [hMem]
  constructor
  · rintro (hNone | ⟨c, hC, rfl⟩)
    · cases hNone
    · rw [List.mem_reverse, List.mem_filter,
        decide_eq_true_iff] at hC
      exact ⟨c, hC.2.1, hC.2.2, rfl⟩
  · rintro ⟨c, hOnly, hSeen, rfl⟩
    refine .inr ⟨c, ?_, rfl⟩
    rw [List.mem_reverse, List.mem_filter,
      decide_eq_true_iff]
    exact ⟨hOnly.1, hOnly, hSeen⟩

namespace ImportTable

/- The table imports what the scope does. -/
theorem imports_ofMentions :
    (ofMentions package declared mentioned).imports =
      (Scope.ofMentions package declared mentioned).imports := by
  rcases
      (Scope.ofMentions package declared mentioned
        ).imports_spec with
    ⟨hSorted, hMem⟩
  unfold ofMentions
  rw [imports_foldl_addGroup]
  obtain ⟨hTableSorted, hTableMem⟩ :=
    foldl_insertName_spec
      ((((ClassGroups.ofList
          ((declared :: mentioned).map ClassName.outermost)
        ).filterMap alone).map Prod.snd).filter fun c =>
          decide (¬ Scope.Implicit ⟨package, []⟩ c))
      [] List.Pairwise.nil
  refine Scope.eq_of_pairwise_lt hTableSorted hSorted ?_
  intro name
  rw [hTableMem, hMem]
  constructor
  · rintro (hNone | ⟨c, hC, rfl⟩)
    · cases hNone
    · rw [List.mem_filter, decide_eq_true_iff] at hC
      rcases List.mem_map.mp hC.1 with
        ⟨⟨simple, d⟩, hLone, rfl⟩
      rcases List.mem_filterMap.mp hLone with
        ⟨group, hGroup, hAlone⟩
      rw [alone_eq_some_iff.mp hAlone,
        singleton_mem_ofList_iff_isOnly] at hGroup
      exact ⟨d, hGroup.2, hC.2, rfl⟩
  · rintro ⟨c, hOnly, hSeen, rfl⟩
    refine .inr ⟨c, ?_, rfl⟩
    rw [List.mem_filter, decide_eq_true_iff]
    refine ⟨List.mem_map.mpr ⟨(c.topLevel, c), ?_, rfl⟩,
      hSeen⟩
    refine List.mem_filterMap.mpr
      ⟨(c.topLevel, [c]), ?_, rfl⟩
    exact (singleton_mem_ofList_iff_isOnly package declared
      mentioned c.topLevel c).mpr ⟨rfl, hOnly⟩

/- A name is unique if it is that of an only class. -/
theorem lookup_unique_ofMentions
    (c : ClassName) :
    (ofMentions package declared mentioned).unique.lookup
        c.topLevel = some c ↔
      (Scope.ofMentions package declared mentioned).IsOnly
        c := by
  rcases ClassGroups.ofList_spec
      ((declared :: mentioned).map ClassName.outermost) with
    ⟨hTidy, _⟩
  unfold ofMentions
  rw [unique_foldl_addGroup, List.append_nil]
  have hKeys := nodup_filterMap_alone _ hTidy.names
  have hReversed :
      (((ClassGroups.ofList
          ((declared :: mentioned).map ClassName.outermost)
        ).filterMap alone).reverse.map Prod.fst).Nodup := by
    rw [List.map_reverse]
    exact (List.reverse_perm _).nodup_iff.mpr hKeys
  rw [lookup_eq_some_iff_mem hReversed, List.mem_reverse,
    List.mem_filterMap]
  constructor
  · rintro ⟨group, hGroup, hAlone⟩
    rw [alone_eq_some_iff.mp hAlone,
      singleton_mem_ofList_iff_isOnly] at hGroup
    exact hGroup.2
  · intro hOnly
    refine ⟨(c.topLevel, [c]), ?_, rfl⟩
    exact (singleton_mem_ofList_iff_isOnly package declared
      mentioned c.topLevel c).mpr ⟨rfl, hOnly⟩

/- The table spells classes as the scope does. -/
theorem resolve_ofMentions
    (c : ClassName) :
    (ofMentions package declared mentioned).resolve c =
      (Scope.ofMentions package declared mentioned).spell
        c := by
  unfold resolve Scope.spell
  by_cases hOnly :
      (Scope.ofMentions package declared mentioned).IsOnly
        c.outermost
  · have hLookup :=
      (lookup_unique_ofMentions package declared mentioned
        c.outermost).mpr hOnly
    simp only [hLookup, hOnly, if_true]
    exact foldl_nested_eq_joinWith c.topLevel c.nested
  · have hLookup :=
      mt (lookup_unique_ofMentions package declared mentioned
        c.outermost).mp hOnly
    simp only [hLookup, hOnly, if_false]
    exact foldl_nested_outermost_canonical c

end ImportTable

end

------------------------------------------------------------
-- Files
------------------------------------------------------------

namespace SourceFile

/- The mark of generated code is written as described. -/
theorem marked_eq
    (f : SourceFile) :
    f.marked = .ok f.declaration := by
  unfold marked declaration generatedMarker
  cases f.marker with
  | none => rfl
  | some value => rfl

/- A file is written without an error, and as described. -/
theorem source_eq
    (f : SourceFile) :
    f.source = .ok f.render := by
  unfold source
  rw [marked_eq]
  simp only [bind, Except.bind]
  rw [ImportTable.imports_ofMentions,
    funext (ImportTable.resolve_ofMentions f.package
      f.className f.declaration.mentions)]
  rfl

end SourceFile

end ClientGen.Java
