import ClientGen.Client.Assembly.Generator
import ClientGen.Java.SourceFile

/-
  The source files that are generated for a service.

  Key definitions include:
    * `Emitter`
    * `Emitter.standard`
    * `Emitter.marker`
    * `GeneratedFile`
    * `generate`
-/

namespace ClientGen.Client

open ClientGen.Java ClientGen.Model

------------------------------------------------------------
-- Emitters
------------------------------------------------------------

/-
  What is added to every file: whether there is a mark of
  generated code, its value, and a comment for the top.
-/
structure Emitter where
  marks : Bool
  markerValue : String
  fileComment : Option String
  deriving DecidableEq, Repr

namespace Emitter

/- Files are marked and have no comment. -/
def standard : Emitter where
  marks := true
  markerValue := "software.amazon.awssdk:codegen"
  fileComment := none

/- The value of the mark, if there is to be one. -/
def marker
    (e : Emitter) :
    Option String :=
  if e.marks then some e.markerValue else none

/- The file for a type in a package. -/
def sourceFile
    (e : Emitter)
    (package : String)
    (type : TypeDecl) :
    SourceFile where
  package
  type
  comment := e.fileComment
  marker := e.marker

end Emitter

------------------------------------------------------------
-- Files
------------------------------------------------------------

/- The path of a file below the output, and its text. -/
structure GeneratedFile where
  path : String
  source : String
  deriving DecidableEq, Repr

/- The file of one type. -/
def Generator.generate
    (t : Strategy)
    (emitter : Emitter)
    (g : Generator) :
    Except GenerationError GeneratedFile := do
  let type ← g.assemble t
  let file := emitter.sourceFile g.className.package type
  let source ← file.source
  .ok ⟨file.path, source⟩

/- All files for a service, in the order of the roles. -/
def generate
    (s : Service)
    (emitter : Emitter) :
    Except GenerationError (List GeneratedFile) := do
  let strategy ← Strategy.resolve s.protocol s
  let generators ← Generator.prepareAll s
  generators.mapM (Generator.generate strategy emitter)

end ClientGen.Client
