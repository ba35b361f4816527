import ClientGen.Proofs.Java.Comments
import ClientGen.Proofs.Java.LiteralReading
import ClientGen.Proofs.Java.Spelling

/-
  What the comment and the marker of generated code add to a
  file, and that they change nothing else.

  Main declarations include:
    * `Scope.insertName_split`
    * `Scope.isOnly_ofMentions_cons_iff`
    * `Scope.imports_ofMentions_cons`
    * `Scope.spell_ofMentions_cons`
    * `SourceFile.scope_marker`
    * `SourceFile.source_settings`

  The marker puts one more class in sight.  A class whose
  simple name no other one has is written without its package
  and leaves the spelling of all others as it was, so all of
  the text stays but for the import and the annotation.
-/

namespace ClientGen.Java

open ClientGen.Text

/- A class that is not nested is its own outermost one. -/
theorem ClassName.outermost_eq_self
    {c : ClassName}
    (hTop : c.nested = []) :
    c.outermost = c := by
  cases c
  cases hTop
  rfl

------------------------------------------------------------
-- One More Name
------------------------------------------------------------

namespace Scope

/- A name that is there is not put in again. -/
theorem insertName_of_mem
    {name : String}
    {names : List String}
    (hOrder : names.Pairwise (· < ·))
    (hMem : name ∈ names) :
    insertName name names = names := by
  refine eq_of_pairwise_lt (pairwise_insertName hOrder)
    hOrder fun other => ?_
  rw [mem_insertName, or_iff_right_iff_imp]
  rintro rfl
  exact hMem

/- A new name is put in at one place. -/
theorem insertName_split
    {name : String}
    {names : List String}
    (hNew : name ∉ names) :
    ∃ before after, names = before ++ after ∧
      insertName name names = before ++ name :: after := by
  induction names with
  | nil => exact ⟨[], [], rfl, rfl⟩
  | cons first rest ih =>
      rw [List.mem_cons, not_or] at hNew
      unfold insertName
      by_cases hLess : name < first
      · exact ⟨[], first :: rest, rfl, if_pos hLess⟩
      · rcases ih hNew.2 with ⟨before, after, rfl, hRest⟩
        refine ⟨first :: before, after, rfl, ?_⟩
        rw [if_neg hLess, if_neg hNew.1, hRest]
        rfl

------------------------------------------------------------
-- One More Class
------------------------------------------------------------

variable {package : String}
variable {declared c : ClassName}
variable {mentioned : List ClassName}

/- No class in sight has the simple name. -/
def Fresh
    (scope : Scope)
    (c : ClassName) :
    Prop :=
  ∀ other ∈ scope.topLevels, other.topLevel ≠ c.topLevel

/- The classes of a scope are those given to it. -/
theorem mem_topLevels_ofMentions
    {t : ClassName} :
    t ∈ (ofMentions package declared mentioned).topLevels ↔
      t = declared.outermost ∨
        ∃ m ∈ mentioned, m.outermost = t := by
  simp [ofMentions]

/- A class that is mentioned first comes into sight. -/
theorem mem_topLevels_ofMentions_cons
    (hTop : c.nested = [])
    {t : ClassName} :
    t ∈ (ofMentions package declared
        (c :: mentioned)).topLevels ↔
      t = c ∨
        t ∈ (ofMentions package declared
          mentioned).topLevels := by
  rw [mem_topLevels_ofMentions, mem_topLevels_ofMentions,
    List.exists_mem_cons_iff, ClassName.outermost_eq_self hTop,
    @eq_comm _ c]
  exact or_left_comm

section

variable (hTop : c.nested = [])
variable
  (hFresh : (ofMentions package declared mentioned).Fresh c)

include hTop hFresh

/- It is alone with its name, and the others are as before. -/
theorem isOnly_ofMentions_cons_iff
    {t : ClassName} :
    (ofMentions package declared (c :: mentioned)).IsOnly t ↔
      t = c ∨
        (ofMentions package declared mentioned).IsOnly t := by
  unfold IsOnly
  simp only [mem_topLevels_ofMentions_cons hTop]
  constructor
  · rintro ⟨rfl | hIn, hAll⟩
    · exact .inl rfl
    · exact .inr ⟨hIn, fun other hOther hName =>
        hAll other (.inr hOther) hName⟩
  · rintro (rfl | ⟨hIn, hAll⟩)
    · refine ⟨.inl rfl, ?_⟩
      rintro other (rfl | hOther) hName
      · rfl
      · exact absurd hName (hFresh other hOther)
    · refine ⟨.inr hIn, ?_⟩
      rintro other (rfl | hOther) hName
      · exact absurd hName.symm (hFresh t hIn)
      · exact hAll other hOther hName

/- It is imported besides the others. -/
theorem imports_ofMentions_cons
    (hSeen :
      ¬(ofMentions package declared mentioned).Implicit c) :
    (ofMentions package declared (c :: mentioned)).imports =
      insertName c.canonical
        (ofMentions package declared mentioned).imports := by
  rcases (ofMentions package declared
    (c :: mentioned)).imports_spec with ⟨hOrder, hMem⟩
  rcases (ofMentions package declared
    mentioned).imports_spec with ⟨hOrderOld, hMemOld⟩
  refine eq_of_pairwise_lt hOrder
    (pairwise_insertName hOrderOld) fun name => ?_
  rw [hMem, mem_insertName, hMemOld]
  simp only [isOnly_ofMentions_cons_iff hTop hFresh]
  constructor
  · rintro ⟨t, rfl | hOnly, hNeeded, rfl⟩
    · exact .inl rfl
    · exact .inr ⟨t, hOnly, hNeeded, rfl⟩
  · rintro (rfl | ⟨t, hOnly, hNeeded, rfl⟩)
    · exact ⟨c, .inl rfl, hSeen, rfl⟩
    · exact ⟨t, .inr hOnly, hNeeded, rfl⟩

/- Classes of other names are spelled as they were. -/
theorem spell_ofMentions_cons
    {d : ClassName}
    (hName : d.topLevel ≠ c.topLevel) :
    (ofMentions package declared (c :: mentioned)).spell d =
      (ofMentions package declared mentioned).spell d := by
  have hOther : d.outermost ≠ c := by
    rintro rfl
    exact hName rfl
  unfold spell
  simp only [isOnly_ofMentions_cons_iff hTop hFresh, hOther,
    false_or]

/- It is itself written without its package. -/
theorem spell_ofMentions_cons_self :
    (ofMentions package declared (c :: mentioned)).spell c =
      c.topLevel := by
  have hOnly :
      (ofMentions package declared
        (c :: mentioned)).IsOnly c.outermost := by
    rw [isOnly_ofMentions_cons_iff hTop hFresh]
    exact .inl (ClassName.outermost_eq_self hTop)
  rw [spell, if_pos hOnly, ClassName.relative,
    ClassName.simpleNames, hTop]
  rfl

end

end Scope

------------------------------------------------------------
-- One More Line
------------------------------------------------------------

/- The annotation class of the marker. -/
def markerClass : ClassName :=
  ClassName.inPackage "javax.annotation" "Generated"

/- The annotation of the marker, on its line. -/
def markerLine
    (value : String) :
    String :=
  "@Generated(" ++ stringLiteral value ++ ")\n"

/- Parts go on at the margin behind whole lines. -/
theorem renderParts_append
    {spellClass : ClassName → String}
    {front : List Code.Part}
    {text : String}
    (hFront :
      Page.blank.putParts spellClass front =
        ⟨text, 0, true⟩)
    (rest : List Code.Part) :
    renderParts spellClass (front ++ rest) =
      text ++ renderParts spellClass rest := by
  unfold renderParts
  rw [Page.putParts_append, hFront, Page.text_putParts]
  rfl

/- A comment is whole lines. -/
theorem putParts_blank_javadocLayout
    (spellClass : ClassName → String)
    (javadoc : Option String) :
    Page.blank.putParts spellClass (javadocLayout javadoc) =
      ⟨renderParts spellClass (javadocLayout javadoc), 0,
        true⟩ := by
  cases javadoc with
  | none => rfl
  | some text =>
      unfold renderParts
      rw [Page.putParts_javadocLayout rfl]
      rfl

theorem endsLine_javadoc
    (spellClass : ClassName → String)
    (javadoc : Option String) :
    renderParts spellClass (javadocLayout javadoc) = "" ∨
      ∃ body,
        renderParts spellClass (javadocLayout javadoc) =
          body ++ "\n" := by
  cases javadoc with
  | none => exact .inl rfl
  | some text =>
      have hEnds : EndsLine (javadocLayout (some text)) :=
        ⟨_, " */\n", rfl, by decide⟩
      exact .inr (hEnds.putParts spellClass Page.blank).text

/- A type is its comment and what comes behind it. -/
theorem TypeDecl.layout_eq_javadoc
    (d : TypeDecl) :
    d.layout =
      javadocLayout d.javadoc ++
        layout { d with javadoc := none } := by
  simp [layout, javadocLayout, members]

/- The value of the marker is one text. -/
theorem layout_generatedMarker
    (value : String) :
    annotationsLayout [generatedMarker value] =
      [.text "@", .type (.class markerClass), .text "(",
        .text (stringLiteral value), .text ")",
        .text "\n"] := by
  simp [annotationsLayout, Annotation.layout, generatedMarker,
    markerClass, Code.ofParts, Code.Part.before,
    stringLiteral_ne_empty]

/- The marker is set down as its line. -/
theorem putParts_blank_marker
    {spellClass : ClassName → String}
    (hSpell : spellClass markerClass = "Generated")
    (value : String) :
    Page.blank.putParts spellClass
        (annotationsLayout [generatedMarker value]) =
      ⟨markerLine value, 0, true⟩ := by
  have hWhole :
      Page.blank.putParts spellClass
          (annotationsLayout [generatedMarker value]) =
        Page.blank.put (markerLine value) := by
    rw [layout_generatedMarker]
    simp [Page.putParts, Page.putPart, TypeName.spell, hSpell,
      markerLine, Page.put]
  have hLine :
      '\n' ∉ ("@Generated(" ++ stringLiteral value ++ ")"
        ).toList := by
    simp [newline_not_mem_stringLiteral]
  have hText :
      markerLine value =
        String.ofList (("@Generated(" ++ stringLiteral value ++
          ")").toList ++ ['\n']) := by
    simp [markerLine, String.ext_iff]
  rw [hWhole, hText, Page.put_line rfl (by simp) hLine]
  simp [Page.blank, marginChars, Page.margin]

namespace SourceFile

variable (f : SourceFile)

/- With the marker its class is mentioned first. -/
theorem scope_marker
    (value : String) :
    scope { f with marker := some value } =
      Scope.ofMentions f.package f.className
        (markerClass :: f.type.mentions) := by
  have hMarker :
      (generatedMarker value).mentions = [markerClass] := by
    simp [generatedMarker, Annotation.mentions, markerClass,
      Code.mentions_ofParts]
  have hDeclared :
      (declaration { f with marker := some value }).mentions =
        markerClass :: f.type.mentions := by
    simp only [declaration, TypeDecl.mentions,
      List.flatMap_cons, hMarker]
    rfl
  unfold scope
  rw [hDeclared]
  rfl

theorem scope_unmarked :
    scope { f with marker := none } =
      Scope.ofMentions f.package f.className
        f.type.mentions :=
  rfl

/- The text above the imports is whole lines. -/
theorem endsLine_top :
    f.commentText ++ f.packageText = "" ∨
      ∃ body, f.commentText ++ f.packageText =
        body ++ "\n" := by
  by_cases hPackage : f.package = ""
  · rw [packageText, if_pos hPackage, String.append_empty]
    unfold commentText
    cases f.comment with
    | none => exact .inl rfl
    | some comment =>
        refine .inr ⟨"/*\n" ++
          String.join (commentLines comment) ++ " */\n", ?_⟩
        simp [String.ext_iff]
  · refine .inr
      ⟨f.commentText ++ "package " ++ f.package ++ ";\n", ?_⟩
    rw [packageText, if_neg hPackage]
    simp [String.ext_iff]

section

variable (hPackage : f.package ≠ "javax.annotation")
variable (hName : f.type.name ≠ "Generated")
variable
  (hMentions : ∀ c ∈ f.type.mentions, c.topLevel ≠ "Generated")

include hName hMentions

/- No other class in sight is called like the marker's. -/
theorem fresh_markerClass :
    (scope { f with marker := none }).Fresh markerClass := by
  intro other hOther
  rw [scope_unmarked, Scope.mem_topLevels_ofMentions] at hOther
  rcases hOther with rfl | ⟨c, hC, rfl⟩
  · exact hName
  · exact hMentions c hC

omit hName in
/-
  Another class with the full name of the marker's has a dot
  within its simple name.
-/
theorem dotted_of_mem_imports
    (hMem :
      markerClass.canonical ∈
        (scope { f with marker := none }).imports) :
    ∃ c ∈ f.type.mentions,
      c.outermost.canonical = markerClass.canonical ∧
        '.' ∈ c.topLevel.toList := by
  rcases ((scope { f with marker := none }).imports_spec.2
    _).mp hMem with ⟨t, hOnly, hSeen, hSame⟩
  have hIn := hOnly.1
  rw [scope_unmarked, Scope.mem_topLevels_ofMentions] at hIn
  rcases hIn with rfl | ⟨c, hC, rfl⟩
  · exact absurd (.inr (.inr rfl)) hSeen
  · refine ⟨c, hC, hSame.symm, ?_⟩
    by_contra hUndotted
    have hPieces :=
      congrArg (fun name => pieces '.' name.toList) hSame
    have hMarker : markerClass.Undotted := by
      unfold ClassName.Undotted
      decide
    have hOther : c.outermost.Undotted := by
      simpa [ClassName.Undotted, ClassName.simpleNames,
        ClassName.outermost] using hUndotted
    rw [ClassName.pieces_canonical hMarker,
      ClassName.pieces_canonical hOther] at hPieces
    rcases List.append_inj' hPieces rfl with ⟨-, hLast⟩
    have hSimple : "Generated" = c.topLevel :=
      String.toList_injective (List.cons.inj hLast).1
    exact hMentions c hC hSimple.symm

include hPackage in
/- The marker adds its import, at one place. -/
theorem exists_imports_marker :
    ∃ before added after,
      (scope { f with marker := none }).imports =
          before ++ after ∧
        (∀ value,
          (scope { f with marker := some value }).imports =
            before ++ added ++ after) ∧
        (before ++ added ++ after).Pairwise (· < ·) ∧
        (added = [markerClass.canonical] ∨
          (added = [] ∧
            markerClass.canonical ∈ before ++ after)) := by
  have hOrder :=
    (scope { f with marker := none }).imports_spec.1
  have hSeen :
      ¬(scope { f with marker := none }).Implicit
        markerClass := by
    rintro (hNone | hLang | hSame)
    · exact absurd hNone (by decide)
    · exact absurd hLang (by decide)
    · exact hPackage hSame.symm
  have hImports :
      ∀ value,
        (scope { f with marker := some value }).imports =
          Scope.insertName markerClass.canonical
            (scope { f with marker := none }).imports := by
    intro value
    rw [scope_marker]
    exact Scope.imports_ofMentions_cons rfl
      (f.fresh_markerClass hName hMentions) hSeen
  by_cases hMem :
      markerClass.canonical ∈
        (scope { f with marker := none }).imports
  · refine ⟨_, [], [], (List.append_nil _).symm, ?_, ?_,
      .inr ⟨rfl, by simpa using hMem⟩⟩
    · intro value
      rw [hImports, Scope.insertName_of_mem hOrder hMem,
        List.append_nil, List.append_nil]
    · simpa using hOrder
  · rcases Scope.insertName_split hMem with
      ⟨before, after, hOld, hNew⟩
    refine ⟨before, [markerClass.canonical], after, hOld, ?_,
      ?_, .inl rfl⟩
    · intro value
      rw [hImports, hNew, List.append_assoc]
      rfl
    · rw [List.append_assoc, List.singleton_append, ← hNew]
      exact Scope.pairwise_insertName hOrder

/- All that is written is spelled as without the marker. -/
theorem renderParts_marker
    (value : String) :
    renderParts
        (scope { f with marker := some value }).spell
        (declaration { f with marker := some value }).layout =
      renderParts (scope { f with marker := none }).spell
          (javadocLayout f.type.javadoc) ++
        markerLine value ++
        renderParts (scope { f with marker := none }).spell
          (TypeDecl.layout
            { f.type with javadoc := none }) := by
  have hFresh := f.fresh_markerClass hName hMentions
  have hSpell :
      ∀ c ∈ f.type.mentions,
        (scope { f with marker := some value }).spell c =
          (scope { f with marker := none }).spell c := by
    intro c hC
    rw [scope_marker]
    exact Scope.spell_ofMentions_cons rfl hFresh
      (hMentions c hC)
  have hMarker :
      (scope { f with marker := some value }).spell
        markerClass = "Generated" := by
    rw [scope_marker]
    exact Scope.spell_ofMentions_cons_self rfl hFresh
  have hLayout :
      (declaration { f with marker := some value }).layout =
        javadocLayout f.type.javadoc ++
          (annotationsLayout [generatedMarker value] ++
            TypeDecl.layout
              { f.type with javadoc := none }) := by
    simp [declaration, TypeDecl.layout, annotationsLayout,
      javadocLayout, TypeDecl.members]
  have hRest :
      (TypeDecl.layout { f.type with javadoc := none }
        ).flatMap Code.Part.written ⊆ f.type.mentions :=
    fun c hC => TypeDecl.mentions_layout
      { f.type with javadoc := none }
      (flatMap_written_subset _ hC)
  have hJavadoc :
      renderParts
          (scope { f with marker := some value }).spell
          (javadocLayout f.type.javadoc) =
        renderParts (scope { f with marker := none }).spell
          (javadocLayout f.type.javadoc) := by
    refine renderParts_congr _ fun c hC => ?_
    have hNone := flatMap_written_subset _ hC
    rw [mentions_javadocLayout] at hNone
    cases hNone
  rw [hLayout,
    renderParts_append (putParts_blank_javadocLayout _ _),
    renderParts_append (putParts_blank_marker hMarker value),
    hJavadoc, String.append_assoc,
    renderParts_congr _ fun c hC => hSpell c (hRest hC)]

end

------------------------------------------------------------
-- Settings
------------------------------------------------------------

/-
  The lines of a file without the marker, and where the
  marker adds to them: its import among the imports, in
  order, with an empty line below them, and its line between
  the comment of the type and all else of it.  Only if a
  class with a dot in its simple name has the same full name
  is the import there already.
-/
structure MarkedAt
    (f : SourceFile)
    (top : String)
    (before added after : List String)
    (javadoc rest : String) :
    Prop where
  wholeLines : ∀ text ∈ [top, javadoc],
    text = "" ∨ ∃ body, text = body ++ "\n"
  ordered : (before ++ added ++ after).Pairwise (· < ·)
  imported :
    added = ["javax.annotation.Generated"] ∨
      (added = [] ∧
        "javax.annotation.Generated" ∈ before ++ after ∧
        ∃ c ∈ f.type.mentions,
          c.outermost.canonical =
              "javax.annotation.Generated" ∧
            '.' ∈ c.topLevel.toList)
  documented : javadoc =
    renderParts (scope { f with marker := none }).spell
      (javadocLayout f.type.javadoc)
  declared : rest =
    renderParts (scope { f with marker := none }).spell
      (TypeDecl.layout { f.type with javadoc := none })
  unmarked : source { f with marker := none } =
    .ok (top ++
      String.join
        ((before ++ after).map fun name =>
          "import " ++ name ++ ";\n") ++
      (if before ++ after = [] then "" else "\n") ++
      javadoc ++ rest)
  oneLine : ∀ value, '\n' ∉ (stringLiteral value).toList
  marked : ∀ value, source { f with marker := some value } =
    .ok (top ++
      String.join
        ((before ++ added ++ after).map fun name =>
          "import " ++ name ++ ";\n") ++
      "\n" ++ javadoc ++
      ("@Generated(" ++ stringLiteral value ++ ")\n") ++
      rest)

/-
  A comment is set in front of the file without it.  Where no
  class but the marker's has its simple name, the marker adds
  its import and its line, and nothing else is changed.
-/
theorem source_settings :
    (∀ comment, ∃ text,
      source { f with comment := none } = .ok text ∧
        source { f with comment := some comment } =
          .ok ("/*\n" ++
            String.join (commentLines comment) ++
            " */\n\n" ++ text)) ∧
    (f.package ≠ "javax.annotation" →
      f.type.name ≠ "Generated" →
      (∀ c ∈ f.type.mentions, c.topLevel ≠ "Generated") →
      ∃ top before added after javadoc rest,
        f.MarkedAt top before added after javadoc rest) := by
  refine ⟨?comment, ?marker⟩
  case comment =>
    intro comment
    refine ⟨_, source_eq _, ?_⟩
    rw [source_eq]
    simp only [render, commentText, String.empty_append,
      String.append_assoc]
    rfl
  case marker =>
    intro hPackage hName hMentions
    rcases f.exists_imports_marker hPackage hName hMentions
      with ⟨before, added, after, hOld, hNew, hOrder, hAdded⟩
    refine ⟨f.commentText ++ f.packageText, before, added,
      after, _, _, ?lines, hOrder, ?added, rfl, rfl, ?plain,
      newline_not_mem_stringLiteral, ?marked⟩
    case lines =>
      rw [List.forall_mem_cons, List.forall_mem_singleton]
      exact ⟨f.endsLine_top, endsLine_javadoc _ _⟩
    case added =>
      refine hAdded.imp_right ?_
      rintro ⟨hNone, hMem⟩
      refine ⟨hNone, hMem, ?_⟩
      exact f.dotted_of_mem_imports hMentions (hOld ▸ hMem)
    case plain =>
      rw [source_eq, ← hOld, String.append_assoc,
        ← renderParts_append
          (putParts_blank_javadocLayout _ _),
        ← TypeDecl.layout_eq_javadoc]
      unfold render importsText
      rw [importLines_eq, ← String.append_assoc]
      rfl
    case marked =>
      intro value
      have hSome : before ++ added ++ after ≠ [] := by
        rcases hAdded with rfl | ⟨rfl, hMem⟩
        · simp
        · simpa using List.ne_nil_of_mem hMem
      have hImports :=
        importLines_eq (before ++ added ++ after)
      rw [if_neg hSome] at hImports
      rw [source_eq]
      unfold render importsText
      rw [f.renderParts_marker hName hMentions value,
        hNew value, hImports]
      simp only [markerLine, String.append_assoc]
      rfl

/- A class that extends another and is documented. -/
def documentedShop : SourceFile where
  package := "com.example"
  type :=
    { kind := .classType
      name := "Shop"
      javadoc := some "Sells books."
      annotations := [.deprecated]
      superclass :=
        some (.class (.inPackage "java.util" "Observable")) }
  comment := none
  marker := none

/-
  Nothing in it is called like the class of the marker, so
  that one is imported behind the class that is extended.
-/
theorem source_settings_documentedShop :
    (∀ c ∈ documentedShop.type.mentions,
      c.topLevel ≠ "Generated") ∧
    (∃ top before added after javadoc rest,
      documentedShop.MarkedAt top before added after javadoc
        rest) ∧
    source { documentedShop with marker := some "v1" } =
      .ok ("package com.example;\n\n" ++
        "import java.util.Observable;\n" ++
        "import javax.annotation.Generated;\n\n" ++
        "/**\n * Sells books.\n */\n" ++
        "@Generated(\"v1\")\n" ++
        "@Deprecated\n" ++
        "class Shop extends Observable \x7b\n\x7d\n") := by
  have hMentions :
      ∀ c ∈ documentedShop.type.mentions,
        c.topLevel ≠ "Generated" := by
    decide
  refine ⟨hMentions, (source_settings documentedShop).2
    (by decide) (by decide) hMentions, ?_⟩
  rw [source_eq]
  decide +kernel

/-
  A class that implements one of package `javax` whose simple
  name holds a dot.
-/
def dottedShop : SourceFile where
  package := "com.example"
  type :=
    { kind := .classType
      name := "Shop"
      superinterfaces :=
        [.class (.inPackage "javax" "annotation.Generated")] }
  comment := none
  marker := none

/- The marker of such a file has no import of its own. -/
theorem not_imports_marker_dottedShop :
    dottedShop.package ≠ "javax.annotation" ∧
      dottedShop.type.name ≠ "Generated" ∧
      (∀ c ∈ dottedShop.type.mentions,
        c.topLevel ≠ "Generated") ∧
      source dottedShop =
        .ok ("package com.example;\n\n" ++
          "import javax.annotation.Generated;\n\n" ++
          "class Shop implements annotation.Generated " ++
          "\x7b\n\x7d\n") ∧
      source { dottedShop with marker := some "v1" } =
        .ok ("package com.example;\n\n" ++
          "import javax.annotation.Generated;\n\n" ++
          "@Generated(\"v1\")\n" ++
          "class Shop implements annotation.Generated " ++
          "\x7b\n\x7d\n") ∧
      ¬∃ before after,
        dottedShop.scope.imports = before ++ after ∧
          (scope { dottedShop with marker := some "v1" }
            ).imports =
            before ++
              "javax.annotation.Generated" :: after := by
  refine ⟨by decide, by decide, by decide, ?plain, ?marked,
    ?imports⟩
  case plain =>
    rw [source_eq]
    decide +kernel
  case marked =>
    rw [source_eq]
    decide +kernel
  case imports =>
    rintro ⟨before, after, hOld, hNew⟩
    have hOne :
        dottedShop.scope.imports =
          ["javax.annotation.Generated"] := by
      decide
    have hSame :
        (scope { dottedShop with marker := some "v1" }
          ).imports = ["javax.annotation.Generated"] := by
      decide
    have hOldLength := congrArg List.length (hOne ▸ hOld)
    have hNewLength := congrArg List.length (hSame ▸ hNew)
    simp only [List.length_append, List.length_cons,
      List.length_nil] at hOldLength hNewLength
    omega

end SourceFile

end ClientGen.Java
