import ClientGen.Java.Declaration
import ClientGen.Proofs.Code.Atoms

/-
  When the steps of a builder succeed, and what they write.

  Main declarations include:
    * `Step.parts`
    * `Step.fits`
    * `Step.depth`
    * `Step.Writes`
    * `CodeBuilder.take_ok`
    * `CodeBuilder.foldl_take_ok`
    * `Code.ofSteps_ok`
    * `Code.ofSteps_eq`
    * `Method.withSteps_eq`

  A step fits if its format agrees with its arguments.  Steps
  that fit write their parts one after the other, and code
  whose blocks all close is what those parts make.
-/

namespace ClientGen.Java

------------------------------------------------------------
-- Formats
------------------------------------------------------------

namespace Format

/- What a mark means, and the arguments that it leaves. -/
def meaning
    (mark : Char)
    (arguments : List Argument) :
    Option Meaning × List Argument :=
  if (Item.mark mark).consumes then
    (arguments.head?.bind (fit mark), arguments.tail)
  else (standing mark, arguments)

@[simp]
theorem parts_inline
    (s : String) :
    (Meaning.inline s).parts = [.text s] :=
  rfl

@[simp]
theorem parts_placed
    (parts : List Code.Part) :
    (Meaning.placed parts).parts = parts :=
  rfl

section

variable (more : List Argument)

@[simp]
theorem meaning_type
    (t : TypeName) :
    meaning 'T' (.type t :: more) =
      (some (.placed [.type t]), more) :=
  rfl

@[simp]
theorem meaning_name
    (name : String) :
    meaning 'N' (.text name :: more) =
      (some (.inline name), more) :=
  rfl

@[simp]
theorem meaning_quoted
    (value : String) :
    meaning 'S' (.text value :: more) =
      (some (.inline (stringLiteral value)), more) :=
  rfl

@[simp]
theorem meaning_literal
    (s : String) :
    meaning 'L' (.text s :: more) =
      (some (.inline s), more) :=
  rfl

@[simp]
theorem meaning_code
    (code : Code) :
    meaning 'L' (.code code :: more) =
      (some (.placed code.parts), more) :=
  rfl

@[simp]
theorem meaning_indent :
    meaning '>' more = (some (.placed [.indent]), more) :=
  rfl

@[simp]
theorem meaning_unindent :
    meaning '<' more = (some (.placed [.unindent]), more) :=
  rfl

end

/-
  The atoms that a format writes.  A mark without a meaning
  writes nothing.
-/
def atoms :
    List Char → List Argument → List Code.Atom
  | [], _ => []
  | ['$'], _ => []
  | '$' :: c :: rest, arguments =>
      (meaning c arguments).1.elim [] (Code.atoms ·.parts) ++
        atoms rest (meaning c arguments).2
  | c :: rest, arguments => .char c :: atoms rest arguments

/- Every mark has a meaning, and all arguments are used. -/
def fits :
    List Char → List Argument → Bool
  | [], arguments => arguments.isEmpty
  | ['$'], _ => false
  | '$' :: c :: rest, arguments =>
      (meaning c arguments).1.isSome &&
        fits rest (meaning c arguments).2
  | _ :: rest, arguments => fits rest arguments

section

variable (rest : List Char)
variable (arguments : List Argument)

@[simp]
theorem atoms_end :
    atoms [] arguments = [] := by
  simp [atoms]

@[simp]
theorem atoms_mark
    (c : Char) :
    atoms ('$' :: c :: rest) arguments =
      (meaning c arguments).1.elim [] (Code.atoms ·.parts) ++
        atoms rest (meaning c arguments).2 := by
  rw [atoms]

@[simp]
theorem atoms_plain
    (c : Char)
    (hPlain : c ≠ '$') :
    atoms (c :: rest) arguments =
      .char c :: atoms rest arguments := by
  rw [atoms] <;> simp [hPlain]

@[simp]
theorem fits_end :
    fits [] arguments = arguments.isEmpty := by
  simp [fits]

@[simp]
theorem fits_mark
    (c : Char) :
    fits ('$' :: c :: rest) arguments =
      ((meaning c arguments).1.isSome &&
        fits rest (meaning c arguments).2) := by
  rw [fits]

@[simp]
theorem fits_plain
    (c : Char)
    (hPlain : c ≠ '$') :
    fits (c :: rest) arguments = fits rest arguments := by
  rw [fits] <;> simp [hPlain]

end

@[simp]
theorem mismatch_after
    (r : Reading)
    (m : Meaning) :
    (r.after m).mismatch = r.mismatch :=
  rfl

@[simp]
theorem atoms_parts_after
    (r : Reading)
    (m : Meaning) :
    Code.atoms (r.after m).parts =
      Code.atoms m.parts ++ Code.atoms r.parts := by
  simp [Reading.after, Reading.parts]

/- A format that fits is read to its end, and into its atoms. -/
theorem readItems_of_fits
    {chars : List Char}
    {arguments : List Argument}
    (hFits : fits chars arguments = true)
    (index : Nat) :
    (readItems (items chars) index arguments).mismatch = none ∧
      Code.atoms
          (readItems (items chars) index arguments).parts =
        atoms chars arguments := by
  fun_induction fits chars arguments
    generalizing index with
  | case1 arguments =>
      cases arguments with
      | nil => exact ⟨rfl, rfl⟩
      | cons argument more => cases hFits
  | case2 arguments => cases hFits
  | case3 c rest arguments ih =>
      rw [Bool.and_eq_true] at hFits
      rw [atoms_mark, items]
      unfold readItems
      unfold meaning at hFits ih ⊢
      by_cases hTakes : (Item.mark c).consumes = true
      · simp only [hTakes, if_true] at hFits ih ⊢
        cases arguments with
        | nil => cases hFits.1
        | cons argument more =>
            cases hFit : fit c argument with
            | none => simp [hFit] at hFits
            | some m =>
                have hRest := ih hFits.2 (index + 1)
                simpa [hFit] using hRest
      · simp only [hTakes] at hFits ih ⊢
        cases hStanding : standing c with
        | none => simp [hStanding] at hFits
        | some m =>
            have hRest := ih hFits.2 index
            simpa [hStanding] using hRest
  | case4 c rest arguments hLast hMark ih =>
      rcases ih hFits index with ⟨hMismatch, hAtoms⟩
      rw [items.eq_4 _ _ hLast hMark,
        atoms.eq_4 _ _ _ hLast hMark, readItems,
        mismatch_after, atoms_parts_after, hAtoms]
      exact ⟨hMismatch,
        by simp [Code.Part.atoms]⟩

/- The same for a whole format. -/
theorem read_of_fits
    {format : String}
    {arguments : List Argument}
    (hFits : fits format.toList arguments = true) :
    (read format arguments).mismatch = none ∧
      Code.atoms (read format arguments).parts =
        atoms format.toList arguments :=
  readItems_of_fits hFits 0

end Format

------------------------------------------------------------
-- Single Steps
------------------------------------------------------------

namespace Step

/- Whether the format of a step agrees with its arguments. -/
@[simp]
def fits : Step → Bool
  | .add format arguments =>
      Format.fits format.toList arguments
  | .statement format arguments =>
      Format.fits format.toList arguments
  | .beginBlock format arguments =>
      Format.fits format.toList arguments
  | .nextBlock format arguments =>
      Format.fits format.toList arguments
  | .endBlock => true
  | .code _ => true

/- What a step that fits writes. -/
def parts : Step → List Code.Part
  | .add format arguments =>
      (Format.read format arguments).parts
  | .statement format arguments =>
      (Format.read format arguments).parts ++ [.text ";\n"]
  | .beginBlock format arguments =>
      (Format.read format arguments).parts ++
        [.text " \x7b\n", .indent]
  | .nextBlock format arguments =>
      [.unindent, .text "\x7d "] ++
        (Format.read format arguments).parts ++
        [.text " \x7b\n", .indent]
  | .endBlock => [.unindent, .text "\x7d\n"]
  | .code c => c.parts

/-
  How many blocks are open after a step, if the step can be
  taken while that many are open.
-/
def depth
    (opened : Nat) :
    Step → Option Nat
  | .beginBlock _ _ => some (opened + 1)
  | .nextBlock _ _ => if opened = 0 then none else some opened
  | .endBlock => if opened = 0 then none else some (opened - 1)
  | _ => some opened

/- The atoms of what a step that fits writes. -/
@[simp]
def atoms : Step → List Code.Atom
  | .add format arguments =>
      Format.atoms format.toList arguments
  | .statement format arguments =>
      Format.atoms format.toList arguments ++
        [.char ';', .char '\n']
  | .beginBlock format arguments =>
      Format.atoms format.toList arguments ++
        [.char ' ', .char '\x7b', .char '\n', .indent]
  | .nextBlock format arguments =>
      [.unindent, .char '\x7d', .char ' '] ++
        Format.atoms format.toList arguments ++
        [.char ' ', .char '\x7b', .char '\n', .indent]
  | .endBlock => [.unindent, .char '\x7d', .char '\n']
  | .code c => Code.atoms c.parts

/- A step that fits writes its atoms. -/
theorem atoms_parts
    {step : Step}
    (hFits : step.fits = true) :
    Code.atoms step.parts = step.atoms := by
  cases step with
  | add format arguments =>
      exact (Format.read_of_fits hFits).2
  | statement format arguments =>
      simp only [parts, Code.atoms_append]
      rw [(Format.read_of_fits hFits).2]
      rfl
  | beginBlock format arguments =>
      simp only [parts, Code.atoms_append]
      rw [(Format.read_of_fits hFits).2]
      rfl
  | nextBlock format arguments =>
      simp only [parts, Code.atoms_append]
      rw [(Format.read_of_fits hFits).2]
      rfl
  | endBlock => rfl
  | code c => rfl

/- The steps fit, and the atoms are what they write. -/
@[simp]
def Writes
    (steps : List Step)
    (written : List Code.Atom) :
    Prop :=
  steps.all fits = true ∧ steps.flatMap atoms = written

/- Steps in a row write one text after the other. -/
theorem Writes.append
    {steps more : List Step}
    {written after : List Code.Atom}
    (hSteps : Writes steps written)
    (hMore : Writes more after) :
    Writes (steps ++ more) (written ++ after) := by
  refine ⟨?_, ?_⟩
  · rw [List.all_append, hSteps.1, hMore.1]
    rfl
  · rw [List.flatMap_append, hSteps.2, hMore.2]

/- The parts of steps that fit have their atoms. -/
theorem Writes.atoms_parts
    {steps : List Step}
    {written : List Code.Atom}
    (hWrites : Writes steps written) :
    Code.atoms (steps.flatMap parts) = written := by
  rcases hWrites with ⟨hFits, rfl⟩
  induction steps with
  | nil => rfl
  | cons step steps ih =>
      rw [List.all_cons, Bool.and_eq_true] at hFits
      rw [List.flatMap_cons, List.flatMap_cons,
        Code.atoms_append, Step.atoms_parts hFits.1,
        ih hFits.2]

end Step

------------------------------------------------------------
-- Runs of Builders
------------------------------------------------------------

namespace CodeBuilder

/- A format that fits is written. -/
theorem writeFormat_ok
    {b : CodeBuilder}
    {format : String}
    {arguments : List Argument}
    (hFailure : b.failure = none)
    (hFits : Format.fits format.toList arguments = true) :
    b.writeFormat format arguments =
      b.write (Format.read format arguments).parts := by
  have hMismatch := (Format.read_of_fits hFits).1
  simp [writeFormat, hFailure, hMismatch]

/- Two texts are written as one. -/
theorem write_write
    (b : CodeBuilder)
    (first second : List Code.Part) :
    (b.write first).write second =
      b.write (first ++ second) := by
  simp [write, Code.ofParts_append_ofParts]

/-
  A step that fits writes its parts and leaves as many blocks
  open as it should.
-/
theorem take_ok
    {b : CodeBuilder}
    {step : Step}
    {opened : Nat}
    (hFailure : b.failure = none)
    (hFits : step.fits = true)
    (hDepth : step.depth b.depth = some opened) :
    b.take step =
      { b.write step.parts with depth := opened } := by
  cases step with
  | add format arguments =>
      cases hDepth
      rw [take, writeFormat_ok hFailure hFits]
      rfl
  | statement format arguments =>
      cases hDepth
      rw [take, writeFormat_ok hFailure hFits, write_write]
      rfl
  | beginBlock format arguments =>
      cases hDepth
      rw [take, writeFormat_ok hFailure hFits, write_write]
      rfl
  | nextBlock format arguments =>
      by_cases hZero : b.depth = 0
      · simp [Step.depth, hZero] at hDepth
      · have hOpened : b.depth = opened := by
          simpa [Step.depth, hZero] using hDepth
        subst hOpened
        have hWritten :
            (b.write [.unindent, .text "\x7d "]).failure =
              none :=
          hFailure
        rw [take, if_neg hZero,
          writeFormat_ok hWritten hFits, write_write,
          write_write]
        rfl
  | endBlock =>
      by_cases hZero : b.depth = 0
      · simp [Step.depth, hZero] at hDepth
      · have hOpened : b.depth - 1 = opened := by
          simpa [Step.depth, hZero] using hDepth
        subst hOpened
        rw [take, if_neg hZero]
        rfl
  | code c =>
      cases hDepth
      rfl

/- The same for a list of steps. -/
theorem foldl_take_ok
    {steps : List Step}
    {b : CodeBuilder}
    {opened : Nat}
    (hFailure : b.failure = none)
    (hFits : steps.all Step.fits = true)
    (hDepth : steps.foldlM Step.depth b.depth = some opened)
    (hNormal : b.written = Code.ofParts b.written.parts) :
    steps.foldl take b =
      { b.write (steps.flatMap Step.parts) with
        depth := opened } := by
  induction steps generalizing b with
  | nil =>
      cases hDepth
      simp [write, ← hNormal]
  | cons step steps ih =>
      rw [List.all_cons, Bool.and_eq_true] at hFits
      rw [List.foldlM_cons] at hDepth
      rcases Option.bind_eq_some_iff.mp hDepth with
        ⟨between, hStep, hRest⟩
      have hTaken :=
        take_ok hFailure hFits.1 hStep
      have hRun :=
        ih (b := b.take step)
          (by rw [hTaken]; exact hFailure)
          hFits.2
          (by rw [hTaken]; exact hRest)
          (by
            rw [hTaken]
            exact Code.ofParts_eq_of_atoms (by simp [write]))
      rw [List.foldl_cons, hRun, hTaken]
      simp [write, Code.ofParts_append_ofParts]

end CodeBuilder

------------------------------------------------------------
-- Built Code
------------------------------------------------------------

/-
  Steps that fit, with all blocks closed, build the code of
  their parts.
-/
theorem Code.ofSteps_ok
    {steps : List Step}
    (hFits : steps.all Step.fits = true)
    (hClosed : steps.foldlM Step.depth 0 = some 0) :
    Code.ofSteps steps =
      .ok (Code.ofParts (steps.flatMap Step.parts)) := by
  have hRun :=
    CodeBuilder.foldl_take_ok
      (b := CodeBuilder.start) rfl hFits hClosed rfl
  unfold Code.ofSteps CodeBuilder.ofSteps
  rw [hRun]
  rfl

/- Code is known by the atoms of the steps that build it. -/
theorem Code.ofSteps_eq
    {steps : List Step}
    {parts : List Code.Part}
    (hClosed : steps.foldlM Step.depth 0 = some 0)
    (hWrites : Step.Writes steps (Code.atoms parts)) :
    Code.ofSteps steps = .ok (Code.ofParts parts) := by
  rw [Code.ofSteps_ok hWrites.1 hClosed,
    Code.ofParts_eq_of_atoms hWrites.atoms_parts]

/- Formatted code is known by its atoms. -/
theorem Code.ofFormat_eq
    {format : String}
    {arguments : List Argument}
    {parts : List Code.Part}
    (hFormat :
      Format.fits format.toList arguments = true ∧
        Format.atoms format.toList arguments =
          Code.atoms parts) :
    Code.ofFormat format arguments =
      .ok (Code.ofParts parts) := by
  rcases hFormat with ⟨hFits, hAtoms⟩
  rcases Format.read_of_fits hFits with ⟨hMismatch, hParts⟩
  simp only [Code.ofFormat, hMismatch]
  rw [← hParts] at hAtoms
  rw [Code.ofParts_eq_of_atoms hAtoms]

/- A method is given the body that its steps build. -/
theorem Method.withSteps_ok
    {m : Method}
    {steps : List Step}
    {body : Code}
    (hBody : Code.ofSteps steps = .ok body) :
    m.withSteps steps = .ok { m with body } := by
  unfold Method.withSteps
  rw [hBody]
  rfl

/- That body is known by the atoms of the steps. -/
theorem Method.withSteps_eq
    {m : Method}
    {steps : List Step}
    {parts : List Code.Part}
    (hClosed : steps.foldlM Step.depth 0 = some 0)
    (hWrites : Step.Writes steps (Code.atoms parts)) :
    m.withSteps steps =
      .ok { m with body := Code.ofParts parts } :=
  Method.withSteps_ok (Code.ofSteps_eq hClosed hWrites)

end ClientGen.Java
