import ClientGen.Proofs.Client.LexicalSafety
import ClientGen.Proofs.Client.MemberForm
import ClientGen.Proofs.Java.MemberStarts
import ClientGen.Proofs.Java.Scoping

/-
  The form that all generated files have.

  Main declarations include:
    * `generate_wellIndented`
    * `Family.standsIn_of_mem_imports`
    * `written_eq_mentions_of_generate`

  Lines are indented by the blocks they stand in, and only
  what is written is imported.
-/

namespace ClientGen.Client

open ClientGen.Java ClientGen.Model

------------------------------------------------------------
-- Indentation
------------------------------------------------------------

/-
  Whenever clients are generated, the marks in every body and
  every initializer are balanced.  So no file asks for less
  than the margin, its members begin lines one level deep,
  behind four blanks, and it ends with a brace at the margin.
-/
theorem generate_wellIndented
    {s : Service}
    {emitter : Emitter}
    {files : List GeneratedFile}
    (hFiles : generate s emitter = .ok files) :
    ∃ declare, Family s emitter files declare ∧
      (∀ role,
        (∀ m ∈ (declare role).methods,
          Balanced m.body.parts) ∧
        (∀ field ∈ (declare role).fields,
          ∀ code ∈ field.initializer, Balanced code.parts) ∧
        (emitter.sourceFile s.metadata.clientPackageName
          (declare role)).WellIndented) ∧
      ∀ file ∈ files, ∃ body,
        file.source = body ++ "\n\x7d\n" := by
  rcases exists_parts_of_generate hFiles with
    ⟨p, hParts, hFamily⟩
  have hIndented :
      ∀ role,
        (emitter.sourceFile s.metadata.clientPackageName
          (Role.declare p role)).declaration.Indented := by
    intro role
    exact SourceFile.indented_declaration
      (role.isRegular_declare hParts)
  refine ⟨Role.declare p, hFamily, ?_, ?_⟩
  · intro role
    have hType := role.isRegular_declare hParts
    have hSafe := Role.lexicallySafe_declare hParts.isLegal role
    refine ⟨fun m hM => (hType.methods m hM).body.balanced,
      ?_, (hIndented role).wellIndented
        (SourceFile.begins_members hSafe)⟩
    intro field hField code hCode
    rw [(hType.fields field hField).2] at hCode
    cases hCode
  · intro file hFile
    rw [hFamily.files_eq] at hFile
    rcases List.mem_map.mp hFile with ⟨role, -, rfl⟩
    exact (hIndented role).exists_render_eq

/- The files of the bookshop are indented like this. -/
theorem generate_wellIndented_bookshop :
    ∃ files declare,
      generate bookshop Emitter.standard = .ok files ∧
        Family bookshop Emitter.standard files declare ∧
        (∀ role,
          (Emitter.standard.sourceFile
            bookshop.metadata.clientPackageName
            (declare role)).WellIndented) ∧
        ∀ file ∈ files, ∃ body,
          file.source = body ++ "\n\x7d\n" := by
  rcases exists_generate_bookshop Emitter.standard with
    ⟨files, hFiles⟩
  rcases generate_wellIndented hFiles with
    ⟨declare, hFamily, hRoles, hClosed⟩
  exact ⟨files, declare, hFiles, hFamily,
    fun role => (hRoles role).2.2, hClosed⟩

------------------------------------------------------------
-- Imports
------------------------------------------------------------

/-
  An import of a generated file names a class whose simple
  names stand in the text of that file.
-/
theorem standsIn_of_mem_imports
    {f : SourceFile}
    {name : String}
    (hType : f.type.IsRegular)
    (hSafe : f.type.LexicallySafe)
    (hName : name ∈ f.scope.imports) :
    ∃ c ∈ f.written,
      c.outermost.canonical = name ∧
        f.scope.spell c = c.relative ∧
        StandsIn c.relative f.render := by
  rcases SourceFile.exists_mem_written_of_mem_imports
      (SourceFile.hidesNothing_declaration hType) hName with
    ⟨c, hC, hCanonical, hSpell⟩
  refine ⟨c, hC, hCanonical, hSpell, ?_⟩
  have hMentioned : c ∈ f.declaration.mentions :=
    f.declaration.mentions_layout
      (flatMap_written_subset _ hC)
  have hLegal : c.IsLegal := by
    rcases SourceFile.mem_mentions_declaration hMentioned with
      rfl | hOwn
    · exact .of_isTypeName (by decide) (by decide)
    · exact hSafe.classes c hOwn
  have hStands :=
    SourceFile.standsIn_render_of_mem_written hC (by
      rw [hSpell]
      exact hLegal.newline_not_mem_relative)
  rwa [hSpell] at hStands

/-
  What a declaration writes it mentions, so its text depends
  on the spelling of no other class.  A declaration that
  hides nothing writes all that it mentions, in the same
  order and as often.  The types of a generated family hide
  nothing, and every import of their files is that of a class
  which is written in the file.
-/
theorem written_agrees_with_mentions :
    (∀ d : TypeDecl,
      d.layout.flatMap Code.Part.written ⊆ d.mentions ∧
        ∀ spell other : ClassName → String,
          (∀ c ∈ d.mentions, spell c = other c) →
            renderParts spell d.layout =
              renderParts other d.layout) ∧
    (∀ d : TypeDecl, d.HidesNothing →
      d.layout.flatMap Code.Part.written = d.mentions ∧
        ∀ spell : ClassName → String, ∀ c ∈ d.mentions,
          '\n' ∉ (spell c).toList →
            StandsIn (spell c) (renderParts spell d.layout)) ∧
    ∀ s emitter files, generate s emitter = .ok files →
      ∃ declare, Family s emitter files declare ∧
        ∀ role,
          let f := emitter.sourceFile
            s.metadata.clientPackageName (declare role)
          (declare role).HidesNothing ∧
            f.declaration.HidesNothing ∧
            ∀ name ∈ f.scope.imports,
              ∃ c ∈ f.written,
                c.outermost.canonical = name ∧
                  f.scope.spell c = c.relative ∧
                  StandsIn c.relative f.render := by
  refine ⟨?_, ?_, ?_⟩
  · intro d
    have hWritten :
        d.layout.flatMap Code.Part.written ⊆ d.mentions :=
      fun c hC =>
        d.mentions_layout (flatMap_written_subset _ hC)
    refine ⟨hWritten, ?_⟩
    intro spell other hAgree
    exact renderParts_congr d.layout
      fun c hC => hAgree c (hWritten hC)
  · intro d hType
    refine ⟨hType.written_eq, ?_⟩
    intro spell c hC hLine
    rw [← hType.written_eq] at hC
    exact Page.standsIn_text_putParts Page.blank hC hLine
  · intro s emitter files hFiles
    rcases exists_parts_of_generate hFiles with
      ⟨p, hParts, hFamily⟩
    refine ⟨Role.declare p, hFamily, ?_⟩
    intro role
    have hType := role.isRegular_declare hParts
    have hSafe := Role.lexicallySafe_declare hParts.isLegal role
    refine ⟨hType.hidesNothing
        (forall_mem_value_of_eq_none hType.annotations),
      SourceFile.hidesNothing_declaration hType, ?_⟩
    intro name hName
    exact standsIn_of_mem_imports hType hSafe hName

/- The files of the bookshop import what they write. -/
theorem written_agrees_with_mentions_bookshop :
    ∃ files declare,
      generate bookshop Emitter.standard = .ok files ∧
        Family bookshop Emitter.standard files declare ∧
        ∀ role,
          let f := Emitter.standard.sourceFile
            bookshop.metadata.clientPackageName (declare role)
          f.written = f.declaration.mentions ∧
            ∀ name ∈ f.scope.imports,
              ∃ c ∈ f.written,
                c.outermost.canonical = name ∧
                  StandsIn c.relative f.render := by
  rcases exists_generate_bookshop Emitter.standard with
    ⟨files, hFiles⟩
  rcases written_agrees_with_mentions with
    ⟨-, hAgree, hFamilies⟩
  rcases hFamilies _ _ _ hFiles with
    ⟨declare, hFamily, hRoles⟩
  refine ⟨files, declare, hFiles, hFamily, ?_⟩
  intro role
  rcases hRoles role with ⟨-, hHides, hImports⟩
  refine ⟨(hAgree _ hHides).1, ?_⟩
  intro name hName
  rcases hImports name hName with
    ⟨c, hC, hCanonical, -, hStands⟩
  exact ⟨c, hC, hCanonical, hStands⟩

end ClientGen.Client
