import ClientGen.Java.Imports
import ClientGen.Java.Layout
import ClientGen.Java.Page

/-
  Files of Java source, each with one top-level type.

  Key definitions include:
    * `SourceFile`
    * `SourceFile.className`
    * `SourceFile.path`
    * `SourceFile.declaration`
    * `SourceFile.scope`
    * `SourceFile.render`
    * `SourceFile.source`

  A file is a comment, the package line, the imports and the
  declaration, in which classes are spelled as the imports
  allow.  `source` writes a file, and `render` says what is
  written.
-/

namespace ClientGen.Java

open ClientGen.Text

------------------------------------------------------------
-- Files
------------------------------------------------------------

/-
  A type in a package, with a comment for the top of the
  file and a value for the mark of generated code.
-/
structure SourceFile where
  package : String
  type : TypeDecl
  comment : Option String
  marker : Option String
  deriving DecidableEq, Repr

/- The annotation that marks generated code. -/
def generatedMarker
    (value : String) :
    Annotation :=
  ⟨ClassName.inPackage "javax.annotation" "Generated",
    some (Code.ofParts [.text (stringLiteral value)])⟩

namespace SourceFile

/- The full name of the declared type. -/
def className
    (f : SourceFile) :
    ClassName :=
  ClassName.inPackage f.package f.type.name

/- Where the file lies below the root of all sources. -/
def path
    (f : SourceFile) :
    String :=
  let directory :=
    joinWith "/" ((pieces '.' f.package.toList).map
      String.ofList)
  (if f.package = "" then "" else directory ++ "/") ++
    f.type.name ++ ".java"

/- The type as it stands in the file, with its mark first. -/
def declaration
    (f : SourceFile) :
    TypeDecl :=
  match f.marker with
  | none => f.type
  | some value =>
      { f.type with
        annotations :=
          generatedMarker value :: f.type.annotations }

/- The classes in sight. -/
def scope
    (f : SourceFile) :
    Scope :=
  Scope.ofMentions f.package f.className
    f.declaration.mentions

------------------------------------------------------------
-- Rendering
------------------------------------------------------------

/- The comment at the top of the file. -/
def commentText
    (f : SourceFile) :
    String :=
  match f.comment with
  | none => ""
  | some comment =>
      "/*\n" ++ String.join (commentLines comment) ++
        " */\n\n"

/- The line that names the package. -/
def packageText
    (f : SourceFile) :
    String :=
  if f.package = "" then ""
  else "package " ++ f.package ++ ";\n\n"

/- The import lines and the empty line below them. -/
def importLines : List String → String
  | [] => ""
  | names =>
      String.join
        (names.map fun name => "import " ++ name ++ ";\n") ++
        "\n"

/- The import lines of the file. -/
def importsText
    (f : SourceFile) :
    String :=
  importLines f.scope.imports

/- The whole text of the file. -/
def render
    (f : SourceFile) :
    String :=
  f.commentText ++ f.packageText ++ f.importsText ++
    renderParts f.scope.spell f.declaration.layout

------------------------------------------------------------
-- Writing
------------------------------------------------------------

/- The type with its mark first, written as a format. -/
def marked
    (f : SourceFile) :
    Except CodeError TypeDecl :=
  match f.marker with
  | none => .ok f.type
  | some value => do
      let literal ← Code.ofFormat "$S" [value]
      let mark : Annotation :=
        ⟨ClassName.inPackage "javax.annotation" "Generated",
          some literal⟩
      .ok { f.type with
        annotations := mark :: f.type.annotations }

/- The text of the file, its classes looked up in a table. -/
def source
    (f : SourceFile) :
    Except CodeError String := do
  let type ← f.marked
  let table :=
    ImportTable.ofMentions f.package f.className type.mentions
  .ok (f.commentText ++ f.packageText ++
    importLines table.imports ++
    renderParts table.resolve type.layout)

end SourceFile

end ClientGen.Java
