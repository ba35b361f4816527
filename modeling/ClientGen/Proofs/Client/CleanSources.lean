import ClientGen.Files.Tree
import ClientGen.Proofs.Client.Documentation
import ClientGen.Proofs.Client.TidyMembers
import ClientGen.Proofs.Files.Cleaning

/-
  What is generated is what is written.

  Main declarations include:
    * `isClean_render`
    * `generate_isClean`

  Cleaning is for texts that come from elsewhere.  Files with
  tidy members have nothing that it would take away.
-/

namespace ClientGen.Client

open ClientGen.Files ClientGen.Java ClientGen.Model
open ClientGen.Text

/- A tidy file in the form of generated ones is clean. -/
theorem isClean_render
    {f : SourceFile}
    (hComment : ∀ text ∈ f.comment, TidyText text)
    (hPackage : isQualifiedName f.package = true)
    (hTidy : f.type.IsTidy)
    (hForm : f.type.IsRegular)
    (hSafe : f.type.LexicallySafe) :
    IsClean f.render := by
  have hText :=
    SourceFile.tidy_render hComment hPackage hTidy hForm hSafe
  have hIndented : f.declaration.Indented :=
    SourceFile.indented_declaration hForm
  rcases hIndented.exists_render_eq with ⟨body, hBody⟩
  have hEnd :
      f.render.toList =
        (body.toList ++ ['\n']) ++ ['\x7d', '\n'] := by
    simp [hBody]
  exact isClean_of_tidy hText hEnd (by decide)

/-
  Whenever clients are generated for a service whose names of
  operations and expression for connections are on one line,
  and in whose documentation no line ends in a blank, every
  file is clean: it is not empty, no line of it ends in a
  blank, and it ends in exactly one line feed.  Cleaning
  leaves such a text as it is, so on any system of files the
  texts that are written are those that were generated.
-/
theorem generate_isClean
    {s : Service}
    {emitter : Emitter}
    {files : List GeneratedFile}
    (hFiles : generate s emitter = .ok files)
    (hService : TidyService s)
    (hComment :
      ∀ text ∈ emitter.fileComment, TidyText text) :
    (∀ file ∈ files, IsClean file.source) ∧
      ∀ (m : Type → Type) [Monad m] [FileSystem m]
          (output : String),
        (writeAll output files : FileAction m (List String)) =
          placeAll output files := by
  rcases exists_parts_of_generate hFiles with
    ⟨p, hParts, hFamily⟩
  have hPackage :
      isQualifiedName s.metadata.clientPackageName = true := by
    rw [← Names.package_eq hParts.strategy_eq.1]
    exact p.strategy.names.package.valid
  have hClean : ∀ file ∈ files, IsClean file.source := by
    intro file hFile
    rw [hFamily.files_eq] at hFile
    rcases List.mem_map.mp hFile with ⟨role, -, rfl⟩
    exact isClean_render
      (f := emitter.sourceFile s.metadata.clientPackageName
        (role.declare p))
      hComment hPackage (role.isTidy_declare hService hParts)
      (role.isRegular_declare hParts)
      (Role.lexicallySafe_declare hParts.isLegal role)
  exact ⟨hClean, fun m _ _ output =>
    writeAll_eq_placeAll hClean output⟩

/-
  A documented service with an expression of its own for
  connections.
-/
def connectedShop : Service :=
  { documentedShop with
    customization :=
      { documentedShop.customization with
        httpConfig := some "BookOptions.patient()" } }

/- It is tidy. -/
theorem tidyService_connectedShop :
    TidyService connectedShop where
  operations := by
    have hOperations :
        connectedShop.operations.values =
          [{ Operation.named "Order" with
              documentation := some "Opens /* with **\n/." },
            { Operation.named "Cancel" with
              documentation := some "Ends */ early." }] :=
      rfl
    rw [hOperations, List.forall_mem_cons,
      List.forall_mem_singleton]
    refine ⟨⟨by decide, ?_⟩, ⟨by decide, ?_⟩⟩
    · rintro text ⟨⟩
      decide
    · rintro text ⟨⟩
      decide
  httpConfig := by
    rintro expression ⟨⟩
    decide

/- Its files are written as they are generated. -/
theorem generate_isClean_connectedShop :
    ∃ files,
      generate connectedShop Emitter.standard = .ok files ∧
        TidyService connectedShop ∧
        (∀ file ∈ files, IsClean file.source) ∧
        ∀ output,
          (writeAll output files :
              FileAction (StateM FileTree) (List String)) =
            placeAll output files := by
  have hGenerated :
      ∃ files,
        generate connectedShop Emitter.standard = .ok files :=
    (checks_generate connectedShop
      Emitter.standard).exists_ok_iff.mpr (by decide)
  rcases hGenerated with ⟨files, hFiles⟩
  rcases generate_isClean hFiles tidyService_connectedShop
      tidyText_of_mem_none with
    ⟨hClean, hWritten⟩
  exact ⟨files, hFiles, tidyService_connectedShop, hClean,
    hWritten (StateM FileTree)⟩

end ClientGen.Client
