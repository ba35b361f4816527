import ClientGen.Proofs.Java.ImportTable
import ClientGen.Proofs.Java.Mentions
import ClientGen.Proofs.Java.References
import ClientGen.Proofs.Text.Pieces

/-
  A file imports and spells its classes so that they can be
  told apart.

  Main declarations include:
    * `ClassName.pieces_canonical`
    * `Scope.eq_or_shades_of_spell_eq`
    * `SourceFile.stretches`
    * `SourceFile.OnlyInSight`
    * `SourceFile.Resolves`
    * `SourceFile.source_resolved`

  The spelling of a class is cut at its dots.  The pieces
  end with the simple names, and those before them tell
  whether a package was written.
-/

namespace ClientGen.Java

open ClientGen.Text

------------------------------------------------------------
-- Pieces of Names
------------------------------------------------------------

namespace ClassName

/- The simple names of the class hold no dots. -/
def Undotted
    (c : ClassName) :
    Prop :=
  ∀ name ∈ c.simpleNames, '.' ∉ name.toList

/- The names of the packages around the class. -/
def packageNames
    (c : ClassName) :
    List (List Char) :=
  if c.package = "" then []
  else pieces '.' c.package.toList

variable {c d : ClassName}

/- A dot between two texts is a place to cut. -/
theorem pieces_append_dot
    (before after : String) :
    pieces '.' (before ++ "." ++ after).toList =
      pieces '.' before.toList ++ pieces '.' after.toList := by
  have hDot : ".".toList = ['.'] := by decide
  rw [String.toList_append, String.toList_append, hDot,
    List.append_assoc, List.singleton_append,
    pieces_append_cons]

/- Names without dots are the pieces of their chain. -/
theorem pieces_joinWith_dot
    {names : List String}
    (hSome : names ≠ [])
    (hUndotted : ∀ name ∈ names, '.' ∉ name.toList) :
    pieces '.' (joinWith "." names).toList =
      names.map String.toList := by
  induction names with
  | nil => exact absurd rfl hSome
  | cons name rest ih =>
      rcases List.forall_mem_cons.mp hUndotted with
        ⟨hName, hRest⟩
      cases rest with
      | nil => exact pieces_eq_singleton hName
      | cons next more =>
          rw [joinWith, pieces_append_dot,
            pieces_eq_singleton hName,
            ih (List.cons_ne_nil _ _) hRest]
          rfl

/- A name in its package consists of the simple names. -/
theorem pieces_relative
    (hUndotted : c.Undotted) :
    pieces '.' c.relative.toList =
      c.simpleNames.map String.toList :=
  pieces_joinWith_dot (List.cons_ne_nil _ _) hUndotted

/- A full name begins with the names of the packages. -/
theorem pieces_canonical
    (hUndotted : c.Undotted) :
    pieces '.' c.canonical.toList =
      c.packageNames ++ c.simpleNames.map String.toList := by
  unfold canonical packageNames
  by_cases hPackage : c.package = ""
  · rw [if_pos hPackage, if_pos hPackage]
    exact pieces_relative hUndotted
  · rw [if_neg hPackage, if_neg hPackage, pieces_append_dot,
      pieces_relative hUndotted]

/- The names of the packages give the package. -/
theorem package_eq_of_packageNames_eq
    (hNames : c.packageNames = d.packageNames) :
    c.package = d.package := by
  unfold packageNames at hNames
  by_cases hC : c.package = ""
  · by_cases hD : d.package = ""
    · rw [hC, hD]
    · rw [if_pos hC, if_neg hD] at hNames
      exact absurd hNames.symm (pieces_ne_nil _)
  · by_cases hD : d.package = ""
    · rw [if_neg hC, if_pos hD] at hNames
      exact absurd hNames (pieces_ne_nil _)
    · rw [if_neg hC, if_neg hD] at hNames
      exact String.toList_injective (pieces_injective hNames)

/- A class is its top-level class and the nested names. -/
theorem eq_of_outermost_eq
    (hOutermost : c.outermost = d.outermost)
    (hNested : c.nested = d.nested) :
    c = d := by
  cases c
  cases d
  simp_all [outermost]

end ClassName

------------------------------------------------------------
-- Spellings in a Scope
------------------------------------------------------------

namespace Scope

variable {scope : Scope}
variable {c d : ClassName}

/- The names of packages that are written before a class. -/
def writtenPackages
    (scope : Scope)
    (c : ClassName) :
    List (List Char) :=
  if scope.IsOnly c.outermost then [] else c.packageNames

/- The pieces of a spelling end with the simple names. -/
theorem pieces_spell
    (hUndotted : c.Undotted) :
    pieces '.' (scope.spell c).toList =
      scope.writtenPackages c ++
        c.simpleNames.map String.toList := by
  unfold spell writtenPackages
  by_cases hOnly : scope.IsOnly c.outermost
  · rw [if_pos hOnly, if_pos hOnly]
    exact ClassName.pieces_relative hUndotted
  · rw [if_neg hOnly, if_neg hOnly]
    exact ClassName.pieces_canonical hUndotted

/- Top-level classes are written in different ways. -/
theorem outermost_eq_of_written_eq
    (hC : c.outermost ∈ scope.topLevels)
    (hD : d.outermost ∈ scope.topLevels)
    (hWritten :
      scope.writtenPackages c ++ [c.topLevel.toList] =
        scope.writtenPackages d ++ [d.topLevel.toList]) :
    c.outermost = d.outermost := by
  rcases List.append_inj' hWritten rfl with
    ⟨hPackages, hLast⟩
  have hTopLevel : c.topLevel = d.topLevel :=
    String.toList_injective (List.cons.inj hLast).1
  by_cases hOnlyC : scope.IsOnly c.outermost
  · exact (hOnlyC.2 d.outermost hD hTopLevel.symm).symm
  · by_cases hOnlyD : scope.IsOnly d.outermost
    · exact hOnlyD.2 c.outermost hC hTopLevel
    · unfold writtenPackages at hPackages
      rw [if_neg hOnlyC, if_neg hOnlyD] at hPackages
      have hPackage :=
        ClassName.package_eq_of_packageNames_eq hPackages
      simp [ClassName.outermost, hPackage, hTopLevel]

/-
  The top-level class of `c` is written like the package of
  `d`, or like one that this package is in.  A chain of
  names from there on can mean a class nested in the one or
  a class of the package.
-/
def Shades
    (scope : Scope)
    (c d : ClassName) :
    Prop :=
  c.nested ≠ [] ∧ ¬ scope.IsOnly d.outermost ∧
    d.package ≠ "" ∧
    pieces '.' (scope.spell c.outermost).toList <+:
      pieces '.' d.package.toList

/-
  The spelling of `d` goes on with `rest` after that of the
  top-level class of `c`.
-/
theorem eq_or_shades_of_written_eq
    {rest : List (List Char)}
    (hUndotted : c.Undotted)
    (hC : c.outermost ∈ scope.topLevels)
    (hD : d.outermost ∈ scope.topLevels)
    (hWritten :
      scope.writtenPackages d ++ [d.topLevel.toList] =
        scope.writtenPackages c ++ [c.topLevel.toList] ++ rest)
    (hNested :
      c.nested.map String.toList =
        rest ++ d.nested.map String.toList) :
    c = d ∨ scope.Shades c d := by
  by_cases hRest : rest = []
  · subst hRest
    rw [List.append_nil] at hWritten
    rw [List.nil_append] at hNested
    refine .inl (ClassName.eq_of_outermost_eq ?_ ?_)
    · exact outermost_eq_of_written_eq hC hD hWritten.symm
    · exact (List.map_inj_right
        fun _ _ hSame => String.toList_injective hSame).mp
        hNested
  · -- What `c` writes ends before the last name of `d` does.
    rcases
        (List.eq_nil_or_concat rest).resolve_left hRest with
      ⟨front, last, rfl⟩
    rw [List.concat_eq_append, ← List.append_assoc]
      at hWritten
    rcases List.append_inj' hWritten rfl with ⟨hPackages, -⟩
    have hWide : scope.writtenPackages d ≠ [] := by
      rw [hPackages]
      simp
    have hOnly : ¬ scope.IsOnly d.outermost := by
      intro hOnly
      exact hWide (if_pos hOnly)
    unfold writtenPackages at hPackages hWide
    rw [if_neg hOnly] at hPackages hWide
    have hPackage : d.package ≠ "" := by
      intro hPackage
      exact hWide (if_pos hPackage)
    refine .inr ⟨?_, hOnly, hPackage, front, ?_⟩
    · rintro hNone
      rw [hNone] at hNested
      simp at hNested
    · have hOutermost : c.outermost.Undotted := by
        intro name hName
        exact hUndotted name
          (List.mem_of_mem_take (i := 1) hName)
      rw [pieces_spell hOutermost]
      unfold ClassName.packageNames at hPackages
      rw [if_neg hPackage] at hPackages
      exact hPackages.symm

/- Classes that are written alike are one, or one is shaded. -/
theorem eq_or_shades_of_spell_eq
    (hUndottedC : c.Undotted)
    (hUndottedD : d.Undotted)
    (hC : c.outermost ∈ scope.topLevels)
    (hD : d.outermost ∈ scope.topLevels)
    (hSpell : scope.spell c = scope.spell d) :
    c = d ∨ scope.Shades c d ∨ scope.Shades d c := by
  have hPieces :
      (scope.writtenPackages c ++ [c.topLevel.toList]) ++
          c.nested.map String.toList =
        (scope.writtenPackages d ++ [d.topLevel.toList]) ++
          d.nested.map String.toList := by
    have hCut := congrArg (pieces '.' ·.toList) hSpell
    simp only [pieces_spell hUndottedC,
      pieces_spell hUndottedD] at hCut
    simpa [ClassName.simpleNames] using hCut
  rcases List.append_eq_append_iff.mp hPieces with
    ⟨rest, hWritten, hNested⟩ | ⟨rest, hWritten, hNested⟩
  · rcases eq_or_shades_of_written_eq hUndottedC hC hD
      hWritten hNested with hSame | hShades
    · exact .inl hSame
    · exact .inr (.inl hShades)
  · rcases eq_or_shades_of_written_eq hUndottedD hD hC
      hWritten hNested with hSame | hShades
    · exact .inl hSame.symm
    · exact .inr (.inr hShades)

/- A class of no package can look like the package `a`. -/
example :
    let scope :=
      ofMentions "app" (.inPackage "app" "Main")
        [⟨"", "a", ["B"]⟩, .inPackage "a" "B",
          .inPackage "x" "B"]
    scope.spell ⟨"", "a", ["B"]⟩ =
      scope.spell (.inPackage "a" "B") := by
  decide

end Scope

------------------------------------------------------------
-- Files
------------------------------------------------------------

namespace SourceFile

/- The class declared in the file and all it mentions. -/
def classes
    (f : SourceFile) :
    List ClassName :=
  f.className :: f.declaration.mentions

/- The classes that the text of the declaration names. -/
def written
    (f : SourceFile) :
    List ClassName :=
  f.declaration.layout.flatMap Code.Part.written

/- The declaration as texts and as classes to spell. -/
def stretches
    (f : SourceFile) :
    List Stretch :=
  f.declaration.layout.flatMap Code.Part.stretches

/- A top-level class that is mentioned or holds one that is. -/
def InSight
    (f : SourceFile)
    (t : ClassName) :
    Prop :=
  ∃ c ∈ f.classes, t = c.outermost

/- No other top-level class in sight has the simple name. -/
def OnlyInSight
    (f : SourceFile)
    (t : ClassName) :
    Prop :=
  f.InSight t ∧
    ∀ other, f.InSight other →
      other.topLevel = t.topLevel → other = t

/-
  The imports and the spelling of classes that a file should
  have.
-/
structure Resolves
    (f : SourceFile)
    (imports : List String)
    (spell : ClassName → String) :
    Prop where
  ordered : imports.Pairwise (· < ·)
  imported : ∀ name, name ∈ imports ↔
    ∃ t, f.OnlyInSight t ∧ t.package ≠ "" ∧
      t.package ≠ "java.lang" ∧ t.package ≠ f.package ∧
      name = t.canonical
  short : ∀ c ∈ f.written, f.OnlyInSight c.outermost →
    spell c = joinWith "." (c.topLevel :: c.nested)
  full : ∀ c ∈ f.written, ¬ f.OnlyInSight c.outermost →
    spell c = c.canonical

variable {f : SourceFile}

/- What is written is in sight. -/
theorem written_subset
    (f : SourceFile) :
    f.written ⊆ f.classes := by
  intro c hC
  refine List.mem_cons_of_mem _ ?_
  exact f.declaration.mentions_layout
    (flatMap_written_subset _ hC)

theorem inSight_of_mem_written
    (f : SourceFile)
    {c : ClassName}
    (hC : c ∈ f.written) :
    f.InSight c.outermost :=
  ⟨c, f.written_subset hC, rfl⟩

/- The classes in sight are the ones of the scope. -/
theorem mem_topLevels_iff
    (f : SourceFile)
    (t : ClassName) :
    t ∈ f.scope.topLevels ↔ f.InSight t := by
  unfold scope Scope.ofMentions InSight classes
  rw [List.mem_eraseDups, List.mem_map]
  constructor
  · rintro ⟨c, hC, rfl⟩
    exact ⟨c, hC, rfl⟩
  · rintro ⟨c, hC, rfl⟩
    exact ⟨c, hC, rfl⟩

/- So are those without a namesake. -/
theorem isOnly_iff
    (f : SourceFile)
    (t : ClassName) :
    f.scope.IsOnly t ↔ f.OnlyInSight t := by
  unfold Scope.IsOnly OnlyInSight
  simp only [mem_topLevels_iff]

/- The scope of a file resolves its classes. -/
theorem resolves_scope
    (f : SourceFile) :
    f.Resolves f.scope.imports f.scope.spell := by
  rcases f.scope.imports_spec with ⟨hOrdered, hMem⟩
  refine ⟨hOrdered, fun name => ?_, ?_, ?_⟩
  · rw [hMem]
    unfold Scope.Implicit
    simp only [isOnly_iff, not_or, and_assoc]
    rfl
  · intro c _ hOnly
    exact if_pos ((f.isOnly_iff _).mpr hOnly)
  · intro c _ hShared
    exact if_neg (mt (f.isOnly_iff _).mp hShared)

/- There is only one way to resolve the classes of a file. -/
theorem Resolves.imports_eq
    {imports : List String}
    {spell : ClassName → String}
    (hResolves : f.Resolves imports spell) :
    imports = f.scope.imports := by
  refine Scope.eq_of_pairwise_lt hResolves.ordered
    f.resolves_scope.ordered ?_
  intro name
  rw [hResolves.imported, f.resolves_scope.imported]

/- A class is spelled in one way wherever it is written. -/
theorem Resolves.spell_eq
    {imports : List String}
    {spell : ClassName → String}
    (hResolves : f.Resolves imports spell)
    {c : ClassName}
    (hWritten : c ∈ f.written) :
    spell c = f.scope.spell c := by
  by_cases hOnly : f.OnlyInSight c.outermost
  · rw [hResolves.short c hWritten hOnly,
      f.resolves_scope.short c hWritten hOnly]
  · rw [hResolves.full c hWritten hOnly,
      f.resolves_scope.full c hWritten hOnly]

/- What is written alike in a file is told apart like that. -/
theorem Resolves.eq_or_shades
    {imports : List String}
    {spell : ClassName → String}
    (hResolves : f.Resolves imports spell)
    (hUndotted : ∀ c ∈ f.classes, c.Undotted)
    {c d : ClassName}
    (hC : c ∈ f.written)
    (hD : d ∈ f.written)
    (hSpell : spell c = spell d) :
    c = d ∨ f.scope.Shades c d ∨ f.scope.Shades d c := by
  rw [hResolves.spell_eq hC, hResolves.spell_eq hD] at hSpell
  have hSight :
      ∀ c ∈ f.written, c.outermost ∈ f.scope.topLevels :=
    fun c hC => (f.mem_topLevels_iff _).mpr
      (f.inSight_of_mem_written hC)
  exact Scope.eq_or_shades_of_spell_eq
    (hUndotted c (f.written_subset hC))
    (hUndotted d (f.written_subset hD)) (hSight c hC)
    (hSight d hD) hSpell

/- The lines of imports, and the empty line below any. -/
theorem importLines_eq
    (names : List String) :
    importLines names =
      String.join
          (names.map fun name => "import " ++ name ++ ";\n") ++
        (if names = [] then "" else "\n") := by
  cases names with
  | nil => rfl
  | cons name rest => rfl

/- The text of a file has such imports and spellings. -/
theorem Resolves.source_eq
    {imports : List String}
    {spell : ClassName → String}
    (hResolves : f.Resolves imports spell) :
    f.source =
      .ok (f.commentText ++ f.packageText ++
        String.join
          (imports.map fun name =>
            "import " ++ name ++ ";\n") ++
        (if imports = [] then "" else "\n") ++
        renderParts spell f.declaration.layout) := by
  rw [SourceFile.source_eq, hResolves.imports_eq,
    renderParts_congr f.declaration.layout
      fun c hC => hResolves.spell_eq hC]
  unfold render importsText
  rw [importLines_eq, ← String.append_assoc]

/-
  The classes of a file whose names hold no dots are resolved
  by its imports, in one way.  Below the package line stands
  one line for each import, in order, and then an empty one
  if there are any.  The declaration follows in lines behind
  margins, with all its classes spelled as they are resolved.
  Classes that are spelled alike are the same, except that a
  chain of nested names can look like the name of a class in
  a package.
-/
theorem source_resolved
    (f : SourceFile)
    (hNames :
      ∀ c ∈ f.classes, ∀ name ∈ c.topLevel :: c.nested,
        name ≠ "" ∧ '.' ∉ name.toList) :
    (∃ imports spell, f.Resolves imports spell) ∧
      (∀ c ∈ f.written, f.InSight c.outermost) ∧
      f.stretches.flatMap Stretch.classes = f.written ∧
      ∀ imports spell, f.Resolves imports spell →
        f.source =
          .ok (f.commentText ++ f.packageText ++
            String.join
              (imports.map fun name =>
                "import " ++ name ++ ";\n") ++
            (if imports = [] then "" else "\n") ++
            renderParts spell f.declaration.layout) ∧
        WithMargins
          (String.join
            (f.stretches.map (Stretch.spelled spell)))
          (renderParts spell f.declaration.layout) ∧
        (∀ c ∈ f.written, ∀ d ∈ f.written,
          c.nested = [] → d.nested = [] →
            spell c = spell d → c = d) ∧
        (∀ c ∈ f.written, ∀ d ∈ f.written,
          spell c = spell d →
            c = d ∨ f.scope.Shades c d ∨
              f.scope.Shades d c) := by
  refine ⟨⟨_, _, f.resolves_scope⟩,
    fun c hC => f.inSight_of_mem_written hC,
    classes_stretches _, ?_⟩
  intro imports spell hResolves
  have hUndotted : ∀ c ∈ f.classes, c.Undotted :=
    fun c hC name hName => (hNames c hC name hName).2
  refine ⟨hResolves.source_eq,
    withMargins_renderParts spell _, ?_,
    fun c hC d hD => hResolves.eq_or_shades hUndotted hC hD⟩
  intro c hC d hD hNestedC hNestedD hSpell
  rcases hResolves.eq_or_shades hUndotted hC hD hSpell with
    hSame | hShades | hShades
  · exact hSame
  · exact absurd hNestedC hShades.1
  · exact absurd hNestedD hShades.1

/- A file that mentions two classes of the name `List`. -/
def twoLists : SourceFile where
  package := "com.example"
  type :=
    { kind := .classType
      name := "Lists"
      fields :=
        [.plain
            (.generic (.inPackage "java.util" "List")
              [.class
                ((ClassName.inPackage "java.util" "Map").inner
                  "Entry")])
            "entries" [],
          .plain (.class (.inPackage "java.awt" "List"))
            "choices" []] }
  comment := none
  marker := none

/-
  Neither of the two is imported and both are written in
  full, but the map is imported.
-/
theorem source_resolved_twoLists :
    ∃ spell, twoLists.Resolves ["java.util.Map"] spell ∧
      twoLists.stretches.map (Stretch.spelled spell) =
        ["class ", "Lists", " \x7b\n",
          "java.util.List", "<", "Map.Entry", ">", " ",
          "entries", ";\n", "\n",
          "java.awt.List", " ", "choices", ";\n",
          "\x7d\n"] ∧
      twoLists.source =
        .ok ("package com.example;\n\n" ++
          "import java.util.Map;\n\n" ++
          "class Lists \x7b\n" ++
          "    java.util.List<Map.Entry> entries;\n\n" ++
          "    java.awt.List choices;\n\x7d\n") := by
  have hNames :
      ∀ c ∈ twoLists.classes, ∀ name ∈ c.topLevel :: c.nested,
        name ≠ "" ∧ '.' ∉ name.toList := by
    decide
  rcases source_resolved twoLists hNames with
    ⟨-, -, -, hFile⟩
  have hImports :
      twoLists.scope.imports = ["java.util.Map"] := by
    decide
  have hResolves := twoLists.resolves_scope
  rw [hImports] at hResolves
  refine ⟨_, hResolves, ?_, ?_⟩
  · decide
  · rw [(hFile _ _ hResolves).1]
    decide +kernel

end SourceFile

end ClientGen.Java
