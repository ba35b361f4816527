import ClientGen.Proofs.Java.PageLines
import ClientGen.Proofs.Java.Spelling
import Mathlib.Data.List.Basic

/-
  Declarations that write every class they mention.

  Main declarations include:
    * `TypeName.isUnbounded`
    * `TypeName.exists_spell_eq`
    * `Method.DeclaresBounds`
    * `TypeDecl.HidesNothing`
    * `TypeDecl.HidesNothing.written_eq`
    * `SourceFile.exists_written_of_import`
    * `SourceFile.exists_render_of_written`

  A declaration can mention a class in three places where it
  is not written: in a body that is left out, as what a
  constructor returns, and as a bound of a type variable that
  is only used.  Where these places hold nothing, there is no
  unused import.
-/

namespace ClientGen.Java

open ClientGen.Text

------------------------------------------------------------
-- Bounds
------------------------------------------------------------

mutual

/- No type variable in the type carries bounds. -/
def TypeName.isUnbounded : TypeName → Bool
  | .void => true
  | .primitive _ => true
  | .class _ => true
  | .generic _ arguments => TypeName.allUnbounded arguments
  | .array component => component.isUnbounded
  | .variable _ bounds => bounds.isEmpty

/- Nor does one in any type of a list. -/
def TypeName.allUnbounded : List TypeName → Bool
  | [] => true
  | t :: rest => t.isUnbounded && TypeName.allUnbounded rest

end

/-
  A type variable that is declared may have bounds, but those
  are types in use.
-/
def TypeName.isDeclarable : TypeName → Bool
  | .variable _ (bound :: more) =>
      TypeName.allUnbounded (bound :: more)
  | t => t.isUnbounded

namespace TypeName

/- Types of a list are looked at one by one. -/
theorem allUnbounded_iff
    {types : List TypeName} :
    allUnbounded types = true ↔
      ∀ t ∈ types, t.isUnbounded = true := by
  induction types with
  | nil => simp [allUnbounded]
  | cons t rest ih => simp [allUnbounded, ih]

@[simp]
theorem isUnbounded_void :
    void.isUnbounded = true := by
  rw [isUnbounded]

@[simp]
theorem isUnbounded_class
    (c : ClassName) :
    (TypeName.class c).isUnbounded = true := by
  rw [isUnbounded]

@[simp]
theorem isUnbounded_array
    (component : TypeName) :
    (array component).isUnbounded =
      component.isUnbounded := by
  rw [isUnbounded]

@[simp]
theorem isUnbounded_generic_iff
    {raw : ClassName}
    {arguments : List TypeName} :
    (generic raw arguments).isUnbounded = true ↔
      ∀ t ∈ arguments, t.isUnbounded = true := by
  rw [isUnbounded, allUnbounded_iff]

@[simp]
theorem isUnbounded_variable_iff
    {name : String}
    {bounds : List TypeName} :
    (TypeName.variable name bounds).isUnbounded = true ↔
      bounds = [] := by
  rw [isUnbounded, List.isEmpty_iff]

/- Declarations may have bounds. -/
@[simp]
theorem isDeclarable_variable_iff
    {name : String}
    {bounds : List TypeName} :
    (TypeName.variable name bounds).isDeclarable = true ↔
      ∀ t ∈ bounds, t.isUnbounded = true := by
  cases bounds with
  | nil => simp [isDeclarable]
  | cons bound more => rw [isDeclarable, allUnbounded_iff]

end TypeName

mutual

/- Without bounds a type mentions only what it writes. -/
theorem TypeName.written_eq_mentions :
    (t : TypeName) →
      t.isUnbounded = true → t.written = t.mentions
  | .void, _ => rfl
  | .primitive _, _ => rfl
  | .class _, _ => rfl
  | .generic raw arguments, hBounds =>
      congrArg (raw :: ·)
        (TypeName.writtenAll_eq_mentionsAll arguments hBounds)
  | .array component, hBounds =>
      TypeName.written_eq_mentions component hBounds
  | .variable _ [], _ => rfl

/- So do the types of a list. -/
theorem TypeName.writtenAll_eq_mentionsAll :
    (types : List TypeName) →
      TypeName.allUnbounded types = true →
        TypeName.writtenAll types = TypeName.mentionsAll types
  | [], _ => rfl
  | t :: rest, hBounds => by
      rw [TypeName.allUnbounded, Bool.and_eq_true] at hBounds
      rw [TypeName.writtenAll, TypeName.mentionsAll,
        TypeName.written_eq_mentions t hBounds.1,
        TypeName.writtenAll_eq_mentionsAll rest hBounds.2]

end

/- A part of code in which no type variable has bounds. -/
def Code.Part.IsUnbounded : Part → Prop
  | .type t => t.isUnbounded = true
  | _ => True

/- The part writes all classes it mentions. -/
def Code.Part.WritesAll (p : Part) : Prop :=
  p.written = p.mentions

theorem Code.Part.writesAll_text
    (s : String) :
    (Part.text s).WritesAll :=
  rfl

/- So it does if it has no bounds. -/
theorem Code.Part.writesAll_type
    {t : TypeName}
    (hType : t.isUnbounded = true) :
    (Part.type t).WritesAll :=
  t.written_eq_mentions hType

theorem Code.Part.IsUnbounded.writesAll
    {p : Part}
    (hPart : p.IsUnbounded) :
    p.WritesAll := by
  cases p with
  | type t => exact writesAll_type hPart
  | text s => rfl
  | indent => rfl
  | unindent => rfl

/- And so do bounds where a type variable is declared. -/
theorem writesAll_typeVariableLayout
    {t : TypeName}
    (hDeclared : t.isDeclarable = true) :
    ∀ p ∈ typeVariableLayout t, p.WritesAll := by
  unfold typeVariableLayout
  split
  · rename_i name bound more
    rw [List.forall_mem_append]
    refine ⟨by simp [Code.Part.writesAll_text], ?_⟩
    apply forall_mem_separated Code.Part.writesAll_text
    rw [List.forall_mem_map]
    intro t hT
    have hBounds := TypeName.allUnbounded_iff.mp hDeclared t hT
    exact List.forall_mem_singleton.mpr
      (Code.Part.writesAll_type hBounds)
  · rename_i other hOther
    rw [TypeName.isDeclarable.eq_2 _ hOther] at hDeclared
    rw [List.forall_mem_singleton]
    exact Code.Part.writesAll_type hDeclared

------------------------------------------------------------
-- Members
------------------------------------------------------------

/- A fragment in which no type variable has bounds. -/
def Code.IsUnbounded (code : Code) : Prop :=
  ∀ p ∈ code.parts, p.IsUnbounded

/- Annotations without bounds in their values. -/
def UnboundedAnnotations
    (annotations : List Annotation) :
    Prop :=
  ∀ a ∈ annotations, ∀ code ∈ a.value, code.IsUnbounded

theorem UnboundedAnnotations.layout
    {annotations : List Annotation}
    (hAnnotations : UnboundedAnnotations annotations) :
    ∀ p ∈ annotationsLayout annotations, p.WritesAll :=
  forall_mem_annotationsLayout Code.Part.writesAll_text
    (fun _ _ => rfl)
    (fun a hA code hCode p hP =>
      (hAnnotations a hA code hCode p hP).writesAll)

/- A field without bounds. -/
structure Field.IsUnbounded (f : Field) : Prop where
  type : f.type.isUnbounded = true
  initializer : ∀ code ∈ f.initializer, code.IsUnbounded

/- The field writes all classes it mentions. -/
theorem Field.IsUnbounded.layout
    {f : Field}
    (hField : f.IsUnbounded) :
    ∀ p ∈ f.layout, p.WritesAll := by
  have hType : (Code.Part.type f.type).WritesAll :=
    Code.Part.writesAll_type hField.type
  have hValue :
      ∀ p ∈ f.initializer.elim [] fun value =>
          [.text " = "] ++ value.parts,
        p.WritesAll := by
    have hInitializer := hField.initializer
    cases hCode : f.initializer with
    | none => simp
    | some code =>
        have hParts := hInitializer code hCode
        simp only [Option.elim_some, List.forall_mem_append]
        exact ⟨by simp [Code.Part.writesAll_text],
          fun p hP => (hParts p hP).writesAll⟩
  unfold Field.layout
  simp only [List.forall_mem_append]
  exact ⟨⟨⟨⟨
    forall_mem_javadocLayout Code.Part.writesAll_text _,
    forall_mem_modifiersLayout Code.Part.writesAll_text _⟩,
    by simp [hType, Code.Part.writesAll_text]⟩, hValue⟩,
    by simp [Code.Part.writesAll_text]⟩

/-
  A method in which type variables have bounds only where the
  method declares them.
-/
structure Method.DeclaresBounds (m : Method) : Prop where
  annotations : UnboundedAnnotations m.annotations
  typeVariables :
    ∀ t ∈ m.typeVariables, t.isDeclarable = true
  returns : m.returns.isUnbounded = true
  parameters : ∀ p ∈ m.parameters, p.type.isUnbounded = true
  throws : ∀ t ∈ m.throws, t.isUnbounded = true
  body : m.body.IsUnbounded

/- What is written of the method is all written. -/
theorem Method.DeclaresBounds.layout
    {m : Method}
    (hMethod : m.DeclaresBounds)
    (enclosing : String)
    (inInterface : Bool) :
    ∀ p ∈ m.layout enclosing inInterface, p.WritesAll := by
  have hBody :
      ∀ p ∈ m.bodyLayout inInterface, p.WritesAll := by
    unfold Method.bodyLayout
    split
    · have hParts : ∀ p ∈ m.body.parts, p.WritesAll :=
        fun p hP => (hMethod.body p hP).writesAll
      simpa [or_imp, forall_and, Code.Part.WritesAll,
        Code.Part.written] using hParts
    · simp [Code.Part.writesAll_text]
  rw [Method.layout_eq_head, List.forall_mem_append]
  refine ⟨?_, hBody⟩
  exact m.forall_mem_headLayout Code.Part.writesAll_text
    (fun _ hArray => hArray) enclosing
    hMethod.annotations.layout
    (fun t hT =>
      writesAll_typeVariableLayout (hMethod.typeVariables t hT))
    (Code.Part.writesAll_type hMethod.returns)
    (fun p hP =>
      Code.Part.writesAll_type (hMethod.parameters p hP))
    (fun t hT =>
      Code.Part.writesAll_type (hMethod.throws t hT))

/-
  A method none of whose classes is left out: it has a body
  if there is code for one, and returns nothing if it is a
  constructor.
-/
structure Method.HidesNothing
    (m : Method)
    (inInterface : Bool) :
    Prop extends m.DeclaresBounds where
  bodyless :
    m.hasBody inInterface = false → m.body = Code.empty
  constructor : m.isConstructor = true → m.returns = .void

/- The method is written with all that it mentions. -/
theorem Method.HidesNothing.mentions_layout
    {m : Method}
    {inInterface : Bool}
    (hMethod : m.HidesNothing inInterface)
    (enclosing : String) :
    (m.layout enclosing inInterface).flatMap
        Code.Part.mentions =
      m.mentions := by
  have hName :
      (m.nameLayout enclosing).flatMap Code.Part.mentions =
        m.returns.mentions := by
    have hReturns := hMethod.constructor
    unfold Method.isConstructor at hReturns
    unfold Method.nameLayout
    cases hKind : m.kind with
    | constructor =>
        rw [hReturns (by simp [hKind])]
        rfl
    | method name => simp
  have hBody :
      (m.bodyLayout inInterface).flatMap Code.Part.mentions =
        m.body.mentions := by
    unfold Method.bodyLayout
    cases hHas : m.hasBody inInterface with
    | true => simp [Code.mentions]
    | false =>
        rw [hMethod.bodyless hHas]
        rfl
  rw [m.flatMap_mentions_layout, hName, hBody]
  rfl

------------------------------------------------------------
-- Types
------------------------------------------------------------

namespace TypeDecl

/-
  A type whose methods without bodies have no code, whose
  constructors return nothing, and in which type variables
  have bounds only where they are declared.
-/
structure HidesNothing (d : TypeDecl) : Prop where
  annotations : UnboundedAnnotations d.annotations
  typeVariables :
    ∀ t ∈ d.typeVariables, t.isDeclarable = true
  superclass : ∀ t ∈ d.superclass, t.isUnbounded = true
  superinterfaces :
    ∀ t ∈ d.superinterfaces, t.isUnbounded = true
  fields : ∀ f ∈ d.fields, f.IsUnbounded
  methods :
    ∀ m ∈ d.methods, m.HidesNothing (d.kind == .interfaceType)

variable {d : TypeDecl}

/- What is written of the type is all written. -/
theorem HidesNothing.layout
    (hType : d.HidesNothing) :
    ∀ p ∈ d.layout, p.WritesAll := by
  have hHead : ∀ p ∈ d.headLayout, p.WritesAll :=
    d.forall_mem_headLayout Code.Part.writesAll_text
      hType.annotations.layout
      (fun t hT =>
        writesAll_typeVariableLayout (hType.typeVariables t hT))
      (fun t hT =>
        Code.Part.writesAll_type (hType.superclass t hT))
      (fun t hT =>
        Code.Part.writesAll_type (hType.superinterfaces t hT))
  have hMembers :
      ∀ member ∈ d.members, ∀ p ∈ member, p.WritesAll := by
    unfold members
    rw [List.forall_mem_append, List.forall_mem_map,
      List.forall_mem_map]
    exact ⟨fun f hF => (hType.fields f hF).layout,
      fun m hM => (hType.methods m hM).layout _ _⟩
  have hAll :
      ∀ p ∈ separated "\n" d.members, p.WritesAll :=
    forall_mem_separated Code.Part.writesAll_text hMembers
  rw [layout_eq_head]
  simp only [List.forall_mem_append]
  exact ⟨⟨⟨hHead, by
    simp [Code.Part.WritesAll, Code.Part.written]⟩, hAll⟩, by
    simp [Code.Part.WritesAll, Code.Part.written]⟩

/-
  The classes that a type writes are those it mentions, as
  often and in the same order.
-/
theorem HidesNothing.written_eq
    (hType : d.HidesNothing) :
    d.layout.flatMap Code.Part.written = d.mentions := by
  have hMembers :
      d.members.flatMap (·.flatMap Code.Part.mentions) =
        d.fields.flatMap Field.mentions ++
          d.methods.flatMap Method.mentions := by
    unfold members
    rw [List.flatMap_append, List.flatMap_map,
      List.flatMap_map]
    simp only [Field.mentions_layout]
    congr 1
    exact List.flatMap_congr fun m hM =>
      (hType.methods m hM).mentions_layout d.name
  rw [List.flatMap_congr hType.layout,
    d.flatMap_mentions_layout, hMembers]
  unfold mentions
  simp only [List.append_assoc]

/- A constructor that returns a class mentions it in vain. -/
example :
    let object := ClassName.javaLang "Object"
    let d : TypeDecl :=
      { kind := .classType
        name := "Sample"
        methods :=
          [{ kind := .constructor, returns := .class object }] }
    d.mentions = [object] ∧
      d.layout.flatMap Code.Part.written = [] := by
  decide

end TypeDecl

------------------------------------------------------------
-- Written Text
------------------------------------------------------------

/- A text stands somewhere in another. -/
def StandsIn
    (inner text : String) :
    Prop :=
  ∃ front back, text = front ++ inner ++ back

theorem StandsIn.trans
    {inner text outer : String}
    (hInner : StandsIn inner text)
    (hText : StandsIn text outer) :
    StandsIn inner outer := by
  rcases hInner with ⟨front, back, rfl⟩
  rcases hText with ⟨before, after, rfl⟩
  exact ⟨before ++ front, back ++ after,
    by simp only [String.append_assoc]⟩

theorem standsIn_append_left
    (front text : String) :
    StandsIn text (front ++ text) :=
  ⟨front, "", by simp⟩

theorem standsIn_append_right
    (text back : String) :
    StandsIn text (text ++ back) :=
  ⟨"", back, by simp⟩

/- One of several texts stands in all of them joined. -/
theorem standsIn_joinWith
    {separator text : String}
    {texts : List String}
    (hText : text ∈ texts) :
    StandsIn text (joinWith separator texts) := by
  induction texts with
  | nil => cases hText
  | cons first rest ih =>
      cases rest with
      | nil =>
          cases List.mem_singleton.mp hText
          exact ⟨"", "", by simp [joinWith]⟩
      | cons next more =>
          rw [joinWith]
          rcases List.mem_cons.mp hText with rfl | hRest
          · rw [String.append_assoc]
            exact standsIn_append_right _ _
          · exact (ih hRest).trans (standsIn_append_left _ _)

section

variable {spellClass : ClassName → String}

mutual

/- A class that a type writes stands in its spelling. -/
theorem TypeName.standsIn_spell :
    (t : TypeName) →
      ∀ c ∈ t.written,
        StandsIn (spellClass c) (t.spell spellClass)
  | .class c, other, hOther => by
      cases List.mem_singleton.mp hOther
      exact ⟨"", "", by simp [TypeName.spell]⟩
  | .generic raw arguments, c, hC => by
      rw [TypeName.spell]
      rcases List.mem_cons.mp hC with rfl | hArgument
      · exact ⟨"", "<" ++ joinWith ", "
          (TypeName.spellAll spellClass arguments) ++ ">",
          by simp only [String.empty_append,
            String.append_assoc]⟩
      · rcases TypeName.exists_standsIn_spellAll arguments c
          hArgument with ⟨text, hText, hIn⟩
        have hJoined :
            StandsIn text (joinWith ", "
              (TypeName.spellAll spellClass arguments)) :=
          standsIn_joinWith hText
        exact (hIn.trans hJoined).trans
          ⟨spellClass raw ++ "<", ">", rfl⟩
  | .array component, c, hC => by
      rw [TypeName.spell]
      exact (TypeName.standsIn_spell component c hC).trans
        (standsIn_append_right _ _)

/- One that the types of a list write stands in one of them. -/
theorem TypeName.exists_standsIn_spellAll :
    (types : List TypeName) →
      ∀ c ∈ TypeName.writtenAll types,
        ∃ text ∈ TypeName.spellAll spellClass types,
          StandsIn (spellClass c) text
  | t :: rest, c, hC => by
      rcases List.mem_append.mp hC with hFirst | hRest
      · exact ⟨_, List.mem_cons_self,
          TypeName.standsIn_spell t c hFirst⟩
      · rcases TypeName.exists_standsIn_spellAll rest c hRest
          with ⟨text, hText, hIn⟩
        exact ⟨text, List.mem_cons_of_mem _ hText, hIn⟩

end

namespace Page

/- What stands on a page is not taken away. -/
theorem standsIn_text_putParts_self
    (p : Page)
    (parts : List Code.Part) :
    StandsIn p.text (p.putParts spellClass parts).text := by
  rw [text_putParts]
  exact standsIn_append_right _ _

/- A word within a line is set down in one piece. -/
theorem exists_text_put_word
    (p : Page)
    {word : String}
    (hLine : '\n' ∉ word.toList) :
    ∃ gap, (p.put word).text = p.text ++ gap ++ word := by
  unfold put
  cases hChars : word.toList with
  | nil =>
      have hWord : word = "" := String.toList_eq_nil_iff.mp hChars
      exact ⟨"", by simp [hWord]⟩
  | cons c rest =>
      rw [hChars, List.mem_cons, not_or] at hLine
      cases hStart : p.atLineStart with
      | true =>
          refine ⟨margin p.level, ?_⟩
          rw [List.foldl_cons,
            putChar_beginning hStart (Ne.symm hLine.1),
            foldl_putChar_within rfl hLine.2]
          simp [String.ext_iff, hChars]
      | false =>
          refine ⟨"", ?_⟩
          rw [← hChars, foldl_putChar_within hStart
            (by simpa [hChars] using hLine)]
          simp

/- A word in a text stands on the page with that text. -/
theorem standsIn_text_put
    (p : Page)
    {word text : String}
    (hLine : '\n' ∉ word.toList)
    (hWord : StandsIn word text) :
    StandsIn word (p.put text).text := by
  rcases hWord with ⟨front, back, rfl⟩
  have hPut :
      p.put (front ++ word ++ back) =
        putParts ClassName.relative ((p.put front).put word)
          [.text back] := by
    simp [put, putParts, putPart]
  rcases (p.put front).exists_text_put_word hLine with
    ⟨gap, hText⟩
  have hHere : StandsIn word ((p.put front).put word).text := by
    rw [hText]
    exact standsIn_append_left _ _
  rw [hPut]
  exact hHere.trans (standsIn_text_putParts_self _ _)

/- A class that code writes stands on the page with the code. -/
theorem standsIn_text_putParts
    (p : Page)
    {parts : List Code.Part}
    {c : ClassName}
    (hC : c ∈ parts.flatMap Code.Part.written)
    (hLine : '\n' ∉ (spellClass c).toList) :
    StandsIn (spellClass c)
      (p.putParts spellClass parts).text := by
  rcases List.mem_flatMap.mp hC with ⟨part, hPart, hIn⟩
  rcases List.append_of_mem hPart with ⟨before, after, rfl⟩
  cases part with
  | type t =>
      have hHere :
          StandsIn (spellClass c)
            ((p.putParts spellClass before).put
              (t.spell spellClass)).text :=
        standsIn_text_put _ hLine (t.standsIn_spell c hIn)
      rw [putParts_append]
      exact hHere.trans (standsIn_text_putParts_self _ after)
  | text s => cases hIn
  | indent => cases hIn
  | unindent => cases hIn

end Page

end

------------------------------------------------------------
-- Imports
------------------------------------------------------------

namespace SourceFile

variable {f : SourceFile}

/- A class that is written stands in the text of the file. -/
theorem standsIn_render_of_mem_written
    {c : ClassName}
    (hC : c ∈ f.written)
    (hLine : '\n' ∉ (f.scope.spell c).toList) :
    StandsIn (f.scope.spell c) f.render :=
  (Page.standsIn_text_putParts Page.blank hC hLine).trans
    (standsIn_append_left _ _)

/-
  Where the declaration hides nothing, every import is that
  of a class that is written by its simple names.
-/
theorem exists_mem_written_of_mem_imports
    {name : String}
    (hType : f.declaration.HidesNothing)
    (hName : name ∈ f.scope.imports) :
    ∃ c ∈ f.written,
      c.outermost.canonical = name ∧
        f.scope.spell c = c.relative := by
  rcases (f.resolves_scope.imported name).mp hName with
    ⟨t, hOnly, -, -, hPackage, rfl⟩
  rcases hOnly.1 with ⟨c, hC, rfl⟩
  rcases List.mem_cons.mp hC with rfl | hMentioned
  · exact absurd rfl hPackage
  · have hWritten : c ∈ f.written := by
      unfold written
      rwa [hType.written_eq]
    exact ⟨c, hWritten, rfl,
      f.resolves_scope.short c hWritten hOnly⟩

end SourceFile

end ClientGen.Java
