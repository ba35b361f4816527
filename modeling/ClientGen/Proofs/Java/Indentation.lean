import ClientGen.Java.Body
import ClientGen.Java.SourceFile
import ClientGen.Proofs.Java.PageLines

/-
  Code that leaves the indentation as it found it.

  Main declarations include:
    * `Balanced`
    * `levelAfter?`
    * `levelAfter?_eq_some_iff`
    * `Page.level_putParts`
    * `TypeDecl.Indented`
    * `TypeDecl.Indented.balanced_layout`
    * `TypeDecl.Indented.exists_render_eq`
    * `SourceFile.WellIndented`
    * `TypeDecl.Indented.wellIndented`

  Balance is counted over all front parts of the code, and a
  level that is carried along the code finds it out.  A page
  carries such a level, so code that is balanced never asks
  it to go below the margin.
-/

namespace ClientGen.Java

------------------------------------------------------------
-- Balance
------------------------------------------------------------

/-
  No front part of the code has more marks that end a level
  than marks that begin one, and the whole has as many of
  the ones as of the others.
-/
structure Balanced (parts : List Code.Part) : Prop where
  enough :
    ∀ before, before <+: parts →
      before.count .unindent ≤ before.count .indent
  even : parts.count .unindent = parts.count .indent

/-
  The level behind the code from the level in front of it,
  unless a mark asks for less than none.
-/
def levelAfter?
    (level : Nat) :
    List Code.Part → Option Nat
  | [] => some level
  | .indent :: rest => levelAfter? (level + 1) rest
  | .unindent :: rest =>
      if level = 0 then none else levelAfter? (level - 1) rest
  | .text _ :: rest => levelAfter? level rest
  | .type _ :: rest => levelAfter? level rest

/- The front parts of a list are none of it or hold its head. -/
theorem forall_prefix_cons_iff
    {P : List Code.Part → Prop}
    {part : Code.Part}
    {rest : List Code.Part} :
    (∀ before, before <+: part :: rest → P before) ↔
      P [] ∧ ∀ before, before <+: rest → P (part :: before) := by
  constructor
  · intro hAll
    refine ⟨hAll [] List.nil_prefix, ?_⟩
    intro before hBefore
    exact hAll _ (List.cons_prefix_cons.mpr ⟨rfl, hBefore⟩)
  · rintro ⟨hNil, hCons⟩ before hBefore
    rcases List.prefix_cons_iff.mp hBefore with
      rfl | ⟨inner, rfl, hInner⟩
    · exact hNil
    · exact hCons inner hInner

/- The level goes down and up with the marks counted so far. -/
theorem levelAfter?_eq_some_iff
    {level after : Nat}
    {parts : List Code.Part} :
    levelAfter? level parts = some after ↔
      (∀ before, before <+: parts →
        before.count .unindent ≤
          level + before.count .indent) ∧
      level + parts.count .indent =
        after + parts.count .unindent := by
  induction parts generalizing level with
  | nil => simp [levelAfter?]
  | cons part rest ih =>
      rw [forall_prefix_cons_iff]
      cases part with
      | text s => simp [levelAfter?, ih]
      | type t => simp [levelAfter?, ih]
      | indent =>
          rw [levelAfter?, ih]
          simp [Nat.add_assoc, Nat.add_comm 1]
      | unindent =>
          rw [levelAfter?]
          by_cases hZero : level = 0
          · rw [if_pos hZero]
            simp only [reduceCtorEq, false_iff]
            rintro ⟨⟨-, hEnough⟩, -⟩
            have hLess := hEnough [] List.nil_prefix
            simp [hZero] at hLess
          · -- One unindent is paid for by the level itself.
            have hLevel :
                ∃ lower, level = lower + 1 :=
              Nat.exists_eq_succ_of_ne_zero hZero
            rcases hLevel with ⟨lower, rfl⟩
            rw [if_neg hZero, ih]
            simp [Nat.add_right_comm lower 1, ← Nat.add_assoc]

/- Balanced code leads from the margin back to it. -/
theorem balanced_iff
    {parts : List Code.Part} :
    Balanced parts ↔ levelAfter? 0 parts = some 0 := by
  rw [levelAfter?_eq_some_iff]
  constructor
  · rintro ⟨hEnough, hEven⟩
    exact ⟨by simpa using hEnough, by omega⟩
  · rintro ⟨hEnough, hEven⟩
    exact ⟨by simpa using hEnough, by omega⟩

/- As many marks of both kinds do not suffice. -/
example : ¬Balanced [.unindent, .indent] := by
  rw [balanced_iff]
  decide

/- It leads from every level back to that level. -/
theorem Balanced.levelAfter?
    {parts : List Code.Part}
    (hParts : Balanced parts)
    (level : Nat) :
    levelAfter? level parts = some level := by
  rw [levelAfter?_eq_some_iff]
  refine ⟨?_, ?_⟩
  · intro before hBefore
    have hLess := hParts.enough before hBefore
    omega
  · rw [hParts.even]

/- The levels of code are those of its pieces. -/
theorem levelAfter?_append
    (level : Nat)
    (a b : List Code.Part) :
    levelAfter? level (a ++ b) =
      (levelAfter? level a).bind (levelAfter? · b) := by
  induction a generalizing level with
  | nil => rfl
  | cons part a ih =>
      cases part with
      | text s => exact ih level
      | type t => exact ih level
      | indent => exact ih (level + 1)
      | unindent =>
          rw [List.cons_append, Java.levelAfter?,
            Java.levelAfter?]
          split
          · rfl
          · exact ih (level - 1)

------------------------------------------------------------
-- Balanced Pieces
------------------------------------------------------------

@[simp]
theorem balanced_nil :
    Balanced [] :=
  balanced_iff.mpr rfl

/- Texts and types do not count. -/
@[simp]
theorem balanced_text_cons_iff
    {s : String}
    {rest : List Code.Part} :
    Balanced (.text s :: rest) ↔ Balanced rest := by
  rw [balanced_iff, balanced_iff]
  rfl

@[simp]
theorem balanced_type_cons_iff
    {t : TypeName}
    {rest : List Code.Part} :
    Balanced (.type t :: rest) ↔ Balanced rest := by
  rw [balanced_iff, balanced_iff]
  rfl

/- Balanced code may follow balanced code. -/
@[simp]
theorem Balanced.append
    {a b : List Code.Part}
    (hA : Balanced a)
    (hB : Balanced b) :
    Balanced (a ++ b) := by
  rw [balanced_iff, levelAfter?_append, hA.levelAfter?]
  exact hB.levelAfter? 0

/- So may any number of pieces. -/
theorem balanced_flatMap
    {α : Type}
    {items : List α}
    {parts : α → List Code.Part}
    (hItems : ∀ item ∈ items, Balanced (parts item)) :
    Balanced (items.flatMap parts) := by
  induction items with
  | nil => simp
  | cons item items ih =>
      rw [List.forall_mem_cons] at hItems
      exact hItems.1.append (ih hItems.2)

/- Balanced code may stand one level deeper. -/
theorem Balanced.nested
    {parts : List Code.Part}
    (hParts : Balanced parts) :
    Balanced ([.indent] ++ parts ++ [.unindent]) := by
  rw [balanced_iff, levelAfter?_append, levelAfter?_append]
  simp only [Java.levelAfter?, Option.bind_some,
    hParts.levelAfter?]
  rfl

/- Code without marks is balanced. -/
theorem balanced_of_no_marks
    {parts : List Code.Part}
    (hMarks : ∀ p ∈ parts, p ≠ .indent ∧ p ≠ .unindent) :
    Balanced parts := by
  induction parts with
  | nil => simp
  | cons part rest ih =>
      rw [List.forall_mem_cons] at hMarks
      cases part with
      | text s => simpa using ih hMarks.2
      | type t => simpa using ih hMarks.2
      | indent => exact absurd rfl hMarks.1.1
      | unindent => exact absurd rfl hMarks.1.2

/- Texts that are merged do not count either. -/
theorem levelAfter?_before
    (level : Nat)
    (part : Code.Part)
    (rest : List Code.Part) :
    levelAfter? level (part.before rest) =
      levelAfter? level (part :: rest) := by
  unfold Code.Part.before
  split
  · split <;> rfl
  · split <;> rfl
  · rfl

/- The normal form is balanced if the parts are. -/
@[simp]
theorem balanced_ofParts_iff
    {parts : List Code.Part} :
    Balanced (Code.ofParts parts).parts ↔ Balanced parts := by
  have hLevels :
      ∀ level,
        levelAfter? level (Code.ofParts parts).parts =
          levelAfter? level parts := by
    unfold Code.ofParts
    induction parts with
    | nil => exact fun _ => rfl
    | cons part parts ih =>
        intro level
        rw [List.foldr_cons, levelAfter?_before]
        cases part with
        | text s => exact ih level
        | type t => exact ih level
        | indent => exact ih (level + 1)
        | unindent =>
            simp only [levelAfter?, ih (level - 1)]
  rw [balanced_iff, hLevels, balanced_iff]

/- A statement is balanced if what it says is. -/
@[simp]
theorem balanced_statement_iff
    {parts : List Code.Part} :
    Balanced (statement parts) ↔ Balanced parts := by
  rw [balanced_iff, statement, levelAfter?_append,
    balanced_iff]
  simp [levelAfter?]

/- So is a block, one after another, and a continued line. -/
@[simp]
theorem balanced_block
    {head body : List Code.Part}
    (hHead : Balanced head)
    (hBody : Balanced body) :
    Balanced (block head body) := by
  simp [balanced_iff, block, levelAfter?_append, levelAfter?,
    hHead.levelAfter?, hBody.levelAfter?]

@[simp]
theorem balanced_followed
    {head body nextHead nextBody : List Code.Part}
    (hHead : Balanced head)
    (hBody : Balanced body)
    (hNextHead : Balanced nextHead)
    (hNextBody : Balanced nextBody) :
    Balanced (followed head body nextHead nextBody) := by
  simp [balanced_iff, followed, levelAfter?_append,
    levelAfter?, hHead.levelAfter?, hBody.levelAfter?,
    hNextHead.levelAfter?, hNextBody.levelAfter?]

@[simp]
theorem balanced_continued
    {head lines : List Code.Part}
    (hHead : Balanced head)
    (hLines : Balanced lines) :
    Balanced (continued head lines) := by
  simp [balanced_iff, continued, levelAfter?_append,
    levelAfter?, hHead.levelAfter?, hLines.levelAfter?]

------------------------------------------------------------
-- Levels of a Page
------------------------------------------------------------

namespace Page

variable {spellClass : ClassName → String}

/- Texts do not change the level. -/
@[simp]
theorem level_put
    (p : Page)
    (s : String) :
    (p.put s).level = p.level := by
  unfold put
  generalize s.toList = chars
  induction chars generalizing p with
  | nil => rfl
  | cons c chars ih =>
      rw [List.foldl_cons, ih]
      unfold putChar
      split
      · rfl
      · split <;> rfl

/- A page that code lies on is at the level behind it. -/
theorem level_putParts
    {p : Page}
    {parts : List Code.Part}
    {after : Nat}
    (hAfter : levelAfter? p.level parts = some after) :
    (p.putParts spellClass parts).level = after := by
  induction parts generalizing p with
  | nil => exact Option.some.inj hAfter
  | cons part rest ih =>
      apply ih
      cases part with
      | text s => simpa [putPart, levelAfter?] using hAfter
      | type t => simpa [putPart, levelAfter?] using hAfter
      | indent => exact hAfter
      | unindent =>
          rw [levelAfter?] at hAfter
          split at hAfter
          · cases hAfter
          · exact hAfter

/- Nowhere is a page asked to leave a level it is not on. -/
theorem level_pos_of_unindent
    {p : Page}
    {before after : List Code.Part}
    {last : Nat}
    (hLast :
      levelAfter? p.level (before ++ .unindent :: after) =
        some last) :
    0 < (p.putParts spellClass before).level := by
  rw [levelAfter?_append] at hLast
  rcases Option.bind_eq_some_iff.mp hLast with
    ⟨level, hLevel, hRest⟩
  rw [level_putParts hLevel]
  rw [levelAfter?] at hRest
  split at hRest
  · cases hRest
  · omega

end Page

------------------------------------------------------------
-- Members
------------------------------------------------------------

/- The part does not change the level. -/
def Code.Part.IsLevel (p : Part) : Prop :=
  p ≠ .indent ∧ p ≠ .unindent

theorem Code.Part.isLevel_text
    (s : String) :
    (Part.text s).IsLevel := by
  simp [IsLevel]

theorem Code.Part.isLevel_type
    (t : TypeName) :
    (Part.type t).IsLevel := by
  simp [IsLevel]

/- The values of annotations have no marks. -/
def LevelAnnotations (annotations : List Annotation) : Prop :=
  ∀ a ∈ annotations, ∀ code ∈ a.value,
    ∀ p ∈ code.parts, p.IsLevel

/- So the annotations have none. -/
theorem LevelAnnotations.layout
    {annotations : List Annotation}
    (hAnnotations : LevelAnnotations annotations) :
    ∀ p ∈ annotationsLayout annotations, p.IsLevel :=
  forall_mem_annotationsLayout Code.Part.isLevel_text
    (fun _ _ => Code.Part.isLevel_type _) hAnnotations

/- Nor have type variables. -/
theorem isLevel_typeVariableLayout
    (t : TypeName) :
    ∀ p ∈ typeVariableLayout t, p.IsLevel := by
  unfold typeVariableLayout
  split
  · rw [List.forall_mem_append]
    refine ⟨by simp [Code.Part.isLevel_text], ?_⟩
    apply forall_mem_separated Code.Part.isLevel_text
    simp [Code.Part.isLevel_type]
  · simp [Code.Part.isLevel_type]

/- A field is balanced if its initializer is. -/
theorem Field.balanced_layout
    {f : Field}
    (hInitializer : ∀ code ∈ f.initializer, Balanced code.parts) :
    Balanced f.layout := by
  have hValue :
      Balanced (f.initializer.elim [] fun value =>
        [.text " = "] ++ value.parts) := by
    cases hCode : f.initializer with
    | none => exact balanced_nil
    | some code => simpa using hInitializer code hCode
  have hJavadoc : Balanced (javadocLayout f.javadoc) :=
    balanced_of_no_marks
      (forall_mem_javadocLayout Code.Part.isLevel_text _)
  have hModifiers : Balanced (modifiersLayout f.modifiers) :=
    balanced_of_no_marks
      (forall_mem_modifiersLayout Code.Part.isLevel_text _)
  unfold Field.layout
  exact (((hJavadoc.append hModifiers).append
    (by simp)).append hValue).append (by simp)

/- What stands deeper in a method comes back. -/
structure Method.Indented (m : Method) : Prop where
  annotations : LevelAnnotations m.annotations
  body : Balanced m.body.parts

/- Its head does not change the level. -/
theorem Method.Indented.balanced_headLayout
    {m : Method}
    (hMethod : m.Indented)
    (enclosing : String) :
    Balanced (m.headLayout enclosing) :=
  balanced_of_no_marks (m.forall_mem_headLayout
    Code.Part.isLevel_text
    (fun _ _ => Code.Part.isLevel_type _) enclosing
    hMethod.annotations.layout
    (fun t _ => isLevel_typeVariableLayout t)
    (Code.Part.isLevel_type _)
    (fun _ _ => Code.Part.isLevel_type _)
    (fun _ _ => Code.Part.isLevel_type _))

/- A method is balanced if its body is. -/
theorem Method.Indented.balanced_layout
    {m : Method}
    (hMethod : m.Indented)
    (enclosing : String)
    (inInterface : Bool) :
    Balanced (m.layout enclosing inInterface) := by
  rw [Method.layout_eq_head]
  refine (hMethod.balanced_headLayout enclosing).append ?_
  unfold Method.bodyLayout
  split
  · exact balanced_block balanced_nil hMethod.body
  · simp

------------------------------------------------------------
-- Types
------------------------------------------------------------

namespace TypeDecl

/- What stands deeper in a type comes back. -/
structure Indented (d : TypeDecl) : Prop where
  annotations : LevelAnnotations d.annotations
  initializers :
    ∀ f ∈ d.fields, ∀ code ∈ f.initializer,
      Balanced code.parts
  methods : ∀ m ∈ d.methods, m.Indented

variable {d : TypeDecl}

/- All members are balanced. -/
theorem Indented.balanced_members
    (hType : d.Indented) :
    ∀ member ∈ d.members, Balanced member := by
  unfold members
  rw [List.forall_mem_append, List.forall_mem_map,
    List.forall_mem_map]
  exact ⟨fun f hF =>
      f.balanced_layout (hType.initializers f hF),
    fun m hM =>
      (hType.methods m hM).balanced_layout _ _⟩

/- The head of a type leads one level down. -/
theorem Indented.levelAfter?_opening
    (hType : d.Indented)
    (level : Nat) :
    levelAfter? level d.opening = some (level + 1) := by
  have hHead : Balanced d.headLayout :=
    balanced_of_no_marks (d.forall_mem_headLayout
      Code.Part.isLevel_text hType.annotations.layout
      (fun t _ => isLevel_typeVariableLayout t)
      (fun _ _ => Code.Part.isLevel_type _)
      (fun _ _ => Code.Part.isLevel_type _))
  rw [opening, levelAfter?_append, hHead.levelAfter?]
  rfl

/- Members stay there, -/
theorem Indented.levelAfter?_beforeMember
    {before after : List (List Code.Part)}
    (hType : d.Indented)
    (hMembers : d.members = before ++ after)
    (level : Nat) :
    levelAfter? level (d.beforeMember before) =
      some (level + 1) := by
  have hBefore :
      Balanced (before.flatMap (· ++ [.text "\n"])) := by
    apply balanced_flatMap
    intro member hMember
    have hIn : member ∈ d.members := by
      rw [hMembers]
      exact List.mem_append_left after hMember
    exact (hType.balanced_members member hIn).append
      (by simp)
  rw [beforeMember, levelAfter?_append,
    hType.levelAfter?_opening]
  exact hBefore.levelAfter? (level + 1)

/- The last member leaves the level to that brace, -/
theorem Indented.levelAfter?_unclosed
    (hType : d.Indented)
    (level : Nat) :
    levelAfter? level d.unclosed = some (level + 1) := by
  have hMembers : Balanced (separated "\n" d.members) := by
    have hAll := hType.balanced_members
    generalize d.members = members at hAll
    fun_induction separated "\n" members with
    | case1 => exact balanced_nil
    | case2 only => simpa using hAll
    | case3 first next more ih =>
        rw [List.forall_mem_cons] at hAll
        exact hAll.1.append
          (balanced_text_cons_iff.mpr (ih hAll.2))
  rw [unclosed, levelAfter?_append, hType.levelAfter?_opening]
  exact hMembers.levelAfter? (level + 1)

/- Which leads back to where the type began. -/
theorem Indented.balanced_layout
    (hType : d.Indented) :
    Balanced d.layout := by
  rw [layout_eq_unclosed, balanced_iff, levelAfter?_append,
    hType.levelAfter?_unclosed]
  rfl

end TypeDecl

------------------------------------------------------------
-- Files
------------------------------------------------------------

/- A file ends with the brace at the margin. -/
theorem TypeDecl.Indented.exists_render_eq
    {f : SourceFile}
    (hType : f.declaration.Indented) :
    ∃ body, f.render = body ++ "\n\x7d\n" := by
  have hEnds :
      (Page.blank.putParts f.scope.spell
        f.declaration.unclosed).EndsLine :=
    endsLine_unclosed f.declaration Page.blank
  have hLevel :
      (Page.blank.putParts f.scope.spell
        f.declaration.unclosed).level = 1 :=
    Page.level_putParts
      (p := Page.blank) (hType.levelAfter?_unclosed 0)
  rcases hEnds with ⟨hStart, body, hBody⟩
  refine ⟨f.commentText ++ f.packageText ++ f.importsText ++
    body, ?_⟩
  unfold SourceFile.render renderParts
  rw [layout_eq_unclosed, Page.putParts_append,
    Page.text_putParts_closing hStart hLevel, hBody]
  simp [String.ext_iff]

/-
  In the text of a file no mark asks for less than the
  margin.  Every member of the type begins a line one level
  deep, behind four blanks, and the last line is the brace
  that ends the type.
-/
structure SourceFile.WellIndented (f : SourceFile) : Prop where
  unsaturated :
    ∀ before after,
      f.declaration.layout = before ++ .unindent :: after →
        0 < (Page.blank.putParts f.scope.spell before).level
  members :
    ∀ before member after,
      f.declaration.members = before ++ member :: after →
        f.declaration.layout =
          f.declaration.beforeMember before ++ member ++
            TypeDecl.behindMember after ∧
        (Page.blank.putParts f.scope.spell
          (f.declaration.beforeMember before)).level = 1 ∧
        (Page.blank.putParts f.scope.spell
          (f.declaration.beforeMember before)).EndsLine ∧
        ∃ first below, first ≠ ' ' ∧ first ≠ '\n' ∧
          f.render =
            f.commentText ++ f.packageText ++
              f.importsText ++
              (Page.blank.putParts f.scope.spell
                (f.declaration.beforeMember before)).text ++
              "    " ++ String.singleton first ++ below
  closed : ∃ body, f.render = body ++ "\n\x7d\n"

/-
  A file is well indented if the type in it is and all the
  members of the type begin visibly.
-/
theorem TypeDecl.Indented.wellIndented
    {f : SourceFile}
    (hType : f.declaration.Indented)
    (hBegins :
      ∀ member ∈ f.declaration.members,
        Begins f.scope.spell member) :
    f.WellIndented where
  unsaturated := by
    intro before after hLayout
    have hLevel := hType.balanced_layout.levelAfter? 0
    rw [hLayout] at hLevel
    exact Page.level_pos_of_unindent
      (p := Page.blank) hLevel
  members := by
    intro before member after hMembers
    have hLevel :
        (Page.blank.putParts f.scope.spell
          (f.declaration.beforeMember before)).level = 1 :=
      Page.level_putParts
        (p := Page.blank)
        (hType.levelAfter?_beforeMember hMembers 0)
    have hEnds :
        (Page.blank.putParts f.scope.spell
          (f.declaration.beforeMember before)).EndsLine :=
      endsLine_beforeMember f.declaration before Page.blank
    have hLayout := layout_eq_split hMembers
    refine ⟨hLayout, hLevel, hEnds, ?_⟩
    have hMember :
        Begins f.scope.spell
          (member ++ TypeDecl.behindMember after) :=
      (hBegins member (by simp [hMembers])).append _
    rcases hMember.text_putParts hEnds.atLineStart with
      ⟨first, below, hSpace, hFeed, hText⟩
    refine ⟨first, below, hSpace, hFeed, ?_⟩
    unfold SourceFile.render renderParts
    rw [hLayout, List.append_assoc, Page.putParts_append,
      hText, hLevel]
    simp only [Page.margin, String.append_empty,
      String.append_assoc]
  closed := hType.exists_render_eq

end ClientGen.Java
