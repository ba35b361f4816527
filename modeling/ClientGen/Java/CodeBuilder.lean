import ClientGen.Java.Format

/-
  Code built up step by step, with blocks in braces.

  Key definitions include:
    * `Step`
    * `CodeBuilder`
    * `CodeBuilder.take`
    * `CodeBuilder.ofSteps`
    * `CodeBuilder.build`
    * `Code.ofSteps`

  The first error stays: later steps cannot mend it, and it
  is reported when the code is asked for.
-/

namespace ClientGen.Java

------------------------------------------------------------
-- Steps
------------------------------------------------------------

/-
  One step of building: bare code, a statement, the opening
  line of a block, the line that closes one block and opens
  its sibling, the end of a block, or code that is ready.
-/
inductive Step where
  | add (format : String) (arguments : List Argument)
  | statement (format : String) (arguments : List Argument)
  | beginBlock (format : String) (arguments : List Argument)
  | nextBlock (format : String) (arguments : List Argument)
  | endBlock
  | code (c : Code)
  deriving DecidableEq, Repr

------------------------------------------------------------
-- Builders
------------------------------------------------------------

/-
  The code written so far, the number of blocks that are
  open, and the first error.
-/
structure CodeBuilder where
  written : Code
  depth : Nat
  failure : Option CodeError
  deriving DecidableEq, Repr

namespace CodeBuilder

/- Nothing has been written. -/
def start : CodeBuilder :=
  ⟨Code.empty, 0, none⟩

/- Whether nothing has been written. -/
def isEmpty
    (b : CodeBuilder) :
    Bool :=
  b.written.isEmpty

/- Write parts. -/
def write
    (b : CodeBuilder)
    (parts : List Code.Part) :
    CodeBuilder :=
  { b with written := Code.ofParts (b.written.parts ++ parts) }

/- Note an error unless there has been one. -/
def fail
    (b : CodeBuilder)
    (e : CodeError) :
    CodeBuilder :=
  { b with failure := b.failure.or (some e) }

/-
  Write formatted code.  After an error formats are no
  longer looked at.
-/
def writeFormat
    (b : CodeBuilder)
    (format : String)
    (arguments : List Argument) :
    CodeBuilder :=
  if b.failure.isSome then b
  else
    let r := Format.read format arguments
    match r.mismatch with
    | none => b.write r.parts
    | some m =>
        (b.write r.settled).fail (m.error format arguments)

/- Take one step. -/
def take
    (b : CodeBuilder) :
    Step → CodeBuilder
  | .add format arguments => b.writeFormat format arguments
  | .statement format arguments =>
      (b.writeFormat format arguments).write [";\n"]
  | .beginBlock format arguments =>
      let opened :=
        (b.writeFormat format arguments).write
          [" \x7b\n", .indent]
      { opened with depth := opened.depth + 1 }
  | .nextBlock format arguments =>
      if b.depth = 0 then b.fail (.siblingOutsideBlock format)
      else
        ((b.write [.unindent, "\x7d "]).writeFormat
          format arguments).write [" \x7b\n", .indent]
  | .endBlock =>
      if b.depth = 0 then b.fail .endOutsideBlock
      else
        { b.write [.unindent, "\x7d\n"] with
          depth := b.depth - 1 }
  | .code c => b.write c.parts

/- The builder after all the steps of a list. -/
def ofSteps
    (steps : List Step) :
    CodeBuilder :=
  steps.foldl take start

/-
  The code, if no step failed and every block has been
  closed.
-/
def build
    (b : CodeBuilder) :
    Except CodeError Code :=
  match b.failure with
  | some e => .error e
  | none =>
      if b.depth = 0 then .ok b.written
      else .error (.blocksLeftOpen b.depth)

end CodeBuilder

/- The code that the steps of a list build. -/
def Code.ofSteps
    (steps : List Step) :
    Except CodeError Code :=
  (CodeBuilder.ofSteps steps).build

end ClientGen.Java
