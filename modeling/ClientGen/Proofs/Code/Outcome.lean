import ClientGen.Proofs.Code.Steps
import Mathlib.Data.List.Induction

/-
  What a builder makes of any list of steps.

  Main declarations include:
    * `Format.fits_iff`
    * `Step.error`
    * `Enclosed`
    * `FailsWith`
    * `foldlM_depth_iff`
    * `fits_or_failsWith`
    * `CodeBuilder.failure_foldl_take`
    * `Code.ofSteps_outcome`

  A step that fails leaves its mark, and nothing after it can
  change what is reported.  As long as no step has failed a
  builder holds what the steps mean, put together, and counts
  the blocks that are open.
-/

namespace ClientGen.Java

------------------------------------------------------------
-- Formats
------------------------------------------------------------

namespace Format

/- Items that are read to their end fit. -/
theorem fits_of_readItems
    {chars : List Char}
    {arguments : List Argument}
    {index : Nat}
    (hRead :
      (readItems (items chars) index arguments).mismatch =
        none) :
    fits chars arguments = true := by
  fun_induction fits chars arguments
    generalizing index with
  | case1 arguments =>
      cases arguments with
      | nil => rfl
      | cons argument more => cases hRead
  | case2 arguments => cases hRead
  | case3 c rest arguments ih =>
      rw [items] at hRead
      unfold readItems at hRead
      unfold meaning at ih ⊢
      by_cases hTakes : (Item.mark c).consumes = true
      · simp only [hTakes, if_true] at hRead ih ⊢
        cases arguments with
        | nil => cases hRead
        | cons argument more =>
            cases hFit : fit c argument with
            | none => simp [hFit] at hRead
            | some m =>
                simp only [hFit, mismatch_after] at hRead
                simpa [hFit] using ih hRead
      · simp only [hTakes] at hRead ih ⊢
        cases hStanding : standing c with
        | none => simp [hStanding] at hRead
        | some m =>
            simp only [hStanding] at hRead
            simpa [hStanding] using ih hRead
  | case4 c rest arguments hLast hMark ih =>
      rw [items.eq_4 _ _ hLast hMark, readItems,
        mismatch_after] at hRead
      exact ih hRead

/- A format fits exactly if nothing in it is amiss. -/
theorem fits_iff
    {format : String}
    {arguments : List Argument} :
    fits format.toList arguments = true ↔
      (read format arguments).mismatch = none :=
  ⟨fun hFits => (read_of_fits hFits).1, fits_of_readItems⟩

/- What is reported of a format that does not fit. -/
def error
    (format : String)
    (arguments : List Argument) :
    Option CodeError :=
  (read format arguments).mismatch.map fun m =>
    m.error format arguments

/- Nothing is reported of one that does. -/
theorem error_eq_none_iff
    {format : String}
    {arguments : List Argument} :
    error format arguments = none ↔
      fits format.toList arguments = true := by
  rw [error, Option.map_eq_none_iff, fits_iff]

end Format

------------------------------------------------------------
-- Failing Steps
------------------------------------------------------------

namespace Step

/- Whether a step opens a block. -/
def opens : Step → Bool
  | .beginBlock _ _ => true
  | _ => false

/- Whether a step closes a block for good. -/
def closes : Step → Bool
  | .endBlock => true
  | _ => false

/- Whether a step can only be taken inside a block. -/
def needsBlock : Step → Bool
  | .nextBlock _ _ => true
  | .endBlock => true
  | _ => false

/-
  What is reported of a step that is taken while that many
  blocks are open, if it fails.  A sibling outside all blocks
  fails before its format is looked at.
-/
def error
    (opened : Nat) :
    Step → Option CodeError
  | .add format arguments => Format.error format arguments
  | .statement format arguments =>
      Format.error format arguments
  | .beginBlock format arguments =>
      Format.error format arguments
  | .nextBlock format arguments =>
      if opened = 0 then some (.siblingOutsideBlock format)
      else Format.error format arguments
  | .endBlock =>
      if opened = 0 then some .endOutsideBlock else none
  | .code _ => none

/- A step fails for its format or for want of a block. -/
theorem error_eq_none_iff
    {opened : Nat}
    {step : Step} :
    step.error opened = none ↔
      step.fits = true ∧
        (step.needsBlock = true → 0 < opened) := by
  cases step with
  | nextBlock format arguments =>
      rcases Nat.eq_zero_or_pos opened with rfl | hOpened
      · simp [error, needsBlock]
      · have hSome : opened ≠ 0 := by omega
        simp [error, needsBlock, hSome, hOpened,
          Format.error_eq_none_iff]
  | endBlock =>
      simp [error, needsBlock, Nat.pos_iff_ne_zero]
  | _ => simp [error, needsBlock, Format.error_eq_none_iff]

/- How the number of open blocks changes. -/
theorem depth_eq_some_iff
    {opened between : Nat}
    {step : Step} :
    step.depth opened = some between ↔
      (step.needsBlock = true → 0 < opened) ∧
        opened + (if step.opens then 1 else 0) =
          between + if step.closes then 1 else 0 := by
  cases step with
  | nextBlock format arguments =>
      by_cases hZero : opened = 0 <;>
        simp [depth, needsBlock, opens, closes, hZero]
      omega
  | endBlock =>
      by_cases hZero : opened = 0 <;>
        simp [depth, needsBlock, opens, closes, hZero]
      omega
  | _ => simp [depth, needsBlock, opens, closes]

end Step

------------------------------------------------------------
-- Lists of Steps
------------------------------------------------------------

/- How many blocks the steps begin. -/
def begins
    (steps : List Step) :
    Nat :=
  steps.countP Step.opens

/- How many blocks they end. -/
def ends
    (steps : List Step) :
    Nat :=
  steps.countP Step.closes

/- Siblings and ends stand in a block that is still open. -/
def Enclosed
    (steps : List Step) :
    Prop :=
  ∀ before step after, steps = before ++ step :: after →
    step.needsBlock = true → ends before < begins before

/-
  The first step that fails does so with the error, counting
  the blocks that are open where it stands.
-/
def FailsWith
    (steps : List Step)
    (e : CodeError) :
    Prop :=
  ∃ before step after, steps = before ++ step :: after ∧
    before.all Step.fits = true ∧ Enclosed before ∧
    step.error (begins before - ends before) = some e

/- What comes after a failure does not take it back. -/
theorem FailsWith.append
    {steps : List Step}
    {e : CodeError}
    (hFails : FailsWith steps e)
    (more : List Step) :
    FailsWith (steps ++ more) e := by
  rcases hFails with ⟨before, step, after, rfl, hStep⟩
  exact ⟨before, step, after ++ more, by simp, hStep⟩

/-
  The blocks that are open are those begun and not ended, as
  long as no step needs a block that is not there.
-/
theorem foldlM_depth_iff
    {steps : List Step}
    {start opened : Nat} :
    steps.foldlM Step.depth start = some opened ↔
      (∀ before step after, steps = before ++ step :: after →
        step.needsBlock = true →
          ends before < start + begins before) ∧
      start + begins steps = ends steps + opened := by
  induction steps generalizing start with
  | nil => simp [begins, ends]
  | cons first steps ih =>
      rw [List.foldlM_cons, Option.bind_eq_bind,
        Option.bind_eq_some_iff]
      have hBegins :
          ∀ rest, begins (first :: rest) =
            begins rest + if first.opens then 1 else 0 :=
        fun rest => List.countP_cons
      have hEnds :
          ∀ rest, ends (first :: rest) =
            ends rest + if first.closes then 1 else 0 :=
        fun rest => List.countP_cons
      constructor
      · rintro ⟨between, hFirst, hRest⟩
        rcases Step.depth_eq_some_iff.mp hFirst with
          ⟨hNeeds, hBetween⟩
        rcases ih.mp hRest with ⟨hInside, hCount⟩
        refine ⟨?_, ?_⟩
        · intro before step after hSplit hStep
          cases before with
          | nil =>
              cases hSplit
              simpa [begins, ends] using hNeeds hStep
          | cons same before =>
              cases hSplit
              have hLess := hInside before step after rfl hStep
              rw [hBegins, hEnds]
              omega
        · rw [hBegins, hEnds]
          omega
      · rintro ⟨hInside, hCount⟩
        have hNeeds : first.needsBlock = true → 0 < start := by
          intro hFirst
          simpa [begins, ends] using
            hInside [] first steps rfl hFirst
        have hCloses :
            (if first.closes then 1 else 0) ≤ start := by
          cases first <;> simp [Step.closes]
          exact hNeeds rfl
        refine ⟨start + (if first.opens then 1 else 0) -
            (if first.closes then 1 else 0),
          Step.depth_eq_some_iff.mpr ⟨hNeeds, by omega⟩,
          ih.mpr ⟨?_, ?_⟩⟩
        · intro before step after hSplit hStep
          have hLess :=
            hInside (first :: before) step after
              (by rw [hSplit]; rfl) hStep
          rw [hBegins, hEnds] at hLess
          omega
        · rw [hBegins, hEnds] at hCount
          omega

/- What comes first stands in its blocks by itself. -/
theorem Enclosed.of_append
    {steps more : List Step}
    (hAll : Enclosed (steps ++ more)) :
    Enclosed steps := by
  rintro before step after rfl
  exact hAll before step (after ++ more) (by simp)

/- No more blocks end than begin. -/
theorem Enclosed.ends_le
    {steps : List Step}
    (hSteps : Enclosed steps) :
    ends steps ≤ begins steps := by
  induction steps using List.reverseRecOn with
  | nil => simp [begins, ends]
  | append_singleton steps last ih =>
      have hBefore := ih hSteps.of_append
      have hLast := hSteps steps last [] rfl
      unfold begins ends at hBefore hLast ⊢
      cases last with
      | endBlock =>
          have hLess := hLast rfl
          simp [Step.closes, Step.opens]
          omega
      | _ =>
          simp [Step.closes, Step.opens]
          omega

/- Steps in their blocks never run out of open ones. -/
theorem Enclosed.foldlM_depth
    {steps : List Step}
    (hSteps : Enclosed steps) :
    steps.foldlM Step.depth 0 =
      some (begins steps - ends steps) := by
  have hLe := hSteps.ends_le
  refine foldlM_depth_iff.mpr ⟨?_, by omega⟩
  intro before step after hSplit hStep
  have hLess := hSteps before step after hSplit hStep
  omega

/- One step more stands in its block or fails for want of it. -/
theorem enclosed_concat_iff
    {steps : List Step}
    {step : Step} :
    Enclosed (steps ++ [step]) ↔
      Enclosed steps ∧
        (step.needsBlock = true →
          ends steps < begins steps) := by
  constructor
  · intro hAll
    exact ⟨hAll.of_append, hAll steps step [] rfl⟩
  · rintro ⟨hSteps, hLast⟩ before inner after hSplit
    rcases List.eq_nil_or_concat after with
      rfl | ⟨front, last, rfl⟩
    · rcases List.append_inj' hSplit rfl with ⟨rfl, hInner⟩
      cases hInner
      exact hLast
    · rw [List.concat_eq_append, ← List.cons_append,
        ← List.append_assoc] at hSplit
      exact hSteps before inner front
        (List.append_inj' hSplit rfl).1

/- Either no step fails or there is a first one that does. -/
theorem fits_or_failsWith
    (steps : List Step) :
    (steps.all Step.fits = true ∧ Enclosed steps) ∨
      ∃ e, FailsWith steps e := by
  induction steps using List.reverseRecOn with
  | nil =>
      refine .inl ⟨rfl, ?_⟩
      intro before step after hSplit
      cases before <;> cases hSplit
  | append_singleton steps step ih =>
      rcases ih with ⟨hFits, hSteps⟩ | ⟨e, hFails⟩
      · cases hError :
            step.error (begins steps - ends steps) with
        | none =>
            rcases Step.error_eq_none_iff.mp hError with
              ⟨hStep, hNeeds⟩
            refine .inl ⟨?_, ?_⟩
            · rw [List.all_append, hFits, List.all_cons, hStep]
              rfl
            · refine enclosed_concat_iff.mpr ⟨hSteps, ?_⟩
              intro hBlock
              have hOpen := hNeeds hBlock
              omega
        | some e =>
            exact .inr
              ⟨e, steps, step, [], rfl, hFits, hSteps, hError⟩
      · exact .inr ⟨e, hFails.append [step]⟩

------------------------------------------------------------
-- Failing Runs
------------------------------------------------------------

namespace CodeBuilder

variable {b : CodeBuilder}
variable {e : CodeError}

/- The error of a format that does not fit is noted. -/
theorem failure_writeFormat
    {format : String}
    {arguments : List Argument}
    (hFailure : b.failure = none)
    (hError : Format.error format arguments = some e) :
    (b.writeFormat format arguments).failure = some e := by
  rcases Option.map_eq_some_iff.mp hError with
    ⟨m, hMismatch, rfl⟩
  simp [writeFormat, hFailure, hMismatch, fail, write]

/- So is the error of a step. -/
theorem failure_take
    {step : Step}
    (hFailure : b.failure = none)
    (hError : step.error b.depth = some e) :
    (b.take step).failure = some e := by
  cases step with
  | add format arguments =>
      exact failure_writeFormat hFailure hError
  | statement format arguments =>
      exact failure_writeFormat hFailure hError
  | beginBlock format arguments =>
      exact failure_writeFormat hFailure hError
  | nextBlock format arguments =>
      by_cases hZero : b.depth = 0
      · simpa [take, Step.error, hZero, fail, hFailure]
          using hError
      · rw [Step.error, if_neg hZero] at hError
        rw [take, if_neg hZero]
        exact failure_writeFormat hFailure hError
  | endBlock =>
      by_cases hZero : b.depth = 0
      · simpa [take, Step.error, hZero, fail, hFailure]
          using hError
      · simp [Step.error, hZero] at hError
  | code c => cases hError

/- The first failure stays. -/
theorem failure_take_of_failed
    (hFailure : b.failure = some e)
    (step : Step) :
    (b.take step).failure = some e := by
  cases step with
  | nextBlock format arguments =>
      by_cases hZero : b.depth = 0 <;>
        simp [take, writeFormat, write, fail, hFailure, hZero]
  | endBlock =>
      by_cases hZero : b.depth = 0 <;>
        simp [take, write, fail, hFailure, hZero]
  | _ => simp [take, writeFormat, write, hFailure]

/- So it does whatever steps follow. -/
theorem failure_foldl_take_of_failed
    (hFailure : b.failure = some e)
    (steps : List Step) :
    (steps.foldl take b).failure = some e := by
  induction steps generalizing b with
  | nil => exact hFailure
  | cons step steps ih =>
      exact ih (failure_take_of_failed hFailure step)

/- After steps that do not fail all they mean is written. -/
theorem ofSteps_ok
    {steps : List Step}
    (hFits : steps.all Step.fits = true)
    (hSteps : Enclosed steps) :
    ofSteps steps =
      ⟨Code.ofParts (steps.flatMap Step.parts),
        begins steps - ends steps, none⟩ :=
  foldl_take_ok (b := start) rfl hFits hSteps.foldlM_depth rfl

/- Otherwise the error of the first that fails is noted. -/
theorem failure_ofSteps
    {steps : List Step}
    (hFails : FailsWith steps e) :
    (ofSteps steps).failure = some e := by
  rcases hFails with
    ⟨before, step, after, rfl, hFits, hBefore, hError⟩
  have hRun := ofSteps_ok hFits hBefore
  unfold ofSteps at hRun ⊢
  rw [List.foldl_append, hRun, List.foldl_cons]
  exact failure_foldl_take_of_failed
    (failure_take rfl hError) after

end CodeBuilder

------------------------------------------------------------
-- Built Code
------------------------------------------------------------

/- A part in front leaves parts in normal form. -/
theorem Code.normalParts_before
    (p : Code.Part)
    {rest : List Code.Part}
    (hRest : Code.NormalParts rest) :
    Code.NormalParts (p.before rest) := by
  cases p with
  | text s =>
      by_cases hEmpty : s = ""
      · subst hEmpty
        rwa [Code.before_empty_text]
      · rcases rest with _ | ⟨q, more⟩
        · simp [Code.Part.before, Code.NormalParts, hEmpty]
        · cases q with
          | text t =>
              -- The two texts become one, and what follows
              -- the second is still no text.
              rcases more with _ | ⟨r, more⟩
              · simp [Code.Part.before, Code.NormalParts, hEmpty]
              · cases r <;>
                  simp_all [Code.Part.before, Code.NormalParts]
          | _ =>
              simpa [Code.Part.before, Code.NormalParts, hEmpty]
                using hRest
  | _ => simpa [Code.Part.before, Code.NormalParts] using hRest

/- Code put together from parts is in normal form. -/
theorem Code.normal_ofParts
    (parts : List Code.Part) :
    (Code.ofParts parts).Normal := by
  unfold Code.Normal Code.ofParts
  induction parts with
  | nil => trivial
  | cons p parts ih => exact Code.normalParts_before p ih

/- What steps build that do not fail. -/
theorem Code.ofSteps_of_enclosed
    {steps : List Step}
    (hFits : steps.all Step.fits = true)
    (hSteps : Enclosed steps) :
    Code.ofSteps steps =
      if begins steps = ends steps then
        .ok (Code.ofParts (steps.flatMap Step.parts))
      else
        .error (.blocksLeftOpen (begins steps - ends steps)) := by
  have hLe := hSteps.ends_le
  rw [Code.ofSteps, CodeBuilder.ofSteps_ok hFits hSteps]
  by_cases hClosed : begins steps = ends steps
  · simp [CodeBuilder.build, hClosed]
  · have hOpen : begins steps - ends steps ≠ 0 := by omega
    simp [CodeBuilder.build, hClosed, hOpen]

/- What steps build one of which fails. -/
theorem Code.ofSteps_of_failsWith
    {steps : List Step}
    {e : CodeError}
    (hFails : FailsWith steps e) :
    Code.ofSteps steps = .error e := by
  rw [Code.ofSteps, CodeBuilder.build,
    CodeBuilder.failure_ofSteps hFails]

/- No more than one error comes first. -/
theorem not_failsWith_of_enclosed
    {steps : List Step}
    {e : CodeError}
    (hFits : steps.all Step.fits = true)
    (hSteps : Enclosed steps) :
    ¬FailsWith steps e := by
  intro hFails
  have hFailure := CodeBuilder.failure_ofSteps hFails
  rw [CodeBuilder.ofSteps_ok hFits hSteps] at hFailure
  cases hFailure

/-
  Code is built if every format fits, no sibling and no end
  stands outside the blocks, and all blocks are closed.  It
  is then what the steps mean, one after the other, in
  normal form.  Otherwise the first step that fails is
  reported, whatever follows it, and open blocks only if
  none fails.  A method takes its body from such steps.
-/
theorem Code.ofSteps_outcome
    (steps : List Step) :
    (∀ code, ofSteps steps = .ok code ↔
      steps.all Step.fits = true ∧ Enclosed steps ∧
        begins steps = ends steps ∧
        code = ofParts (steps.flatMap Step.parts)) ∧
    (∀ code, ofSteps steps = .ok code →
      code.Normal ∧
        atoms code.parts = steps.flatMap Step.atoms) ∧
    (∀ e, ofSteps steps = .error e ↔
      FailsWith steps e ∨
        (steps.all Step.fits = true ∧ Enclosed steps ∧
          ends steps < begins steps ∧
          e = .blocksLeftOpen (begins steps - ends steps))) ∧
    (∀ e more, FailsWith steps e →
      ofSteps (steps ++ more) = .error e) ∧
    (∀ m : Method, m.withSteps steps =
      (ofSteps steps).map fun body => { m with body }) := by
  refine ⟨?built, ?written, ?refused, ?extended, ?method⟩
  case built =>
    intro code
    rcases fits_or_failsWith steps with
      ⟨hFits, hSteps⟩ | ⟨e, hFails⟩
    · rw [ofSteps_of_enclosed hFits hSteps]
      by_cases hClosed : begins steps = ends steps
      · simp [hFits, hSteps, hClosed, eq_comm]
      · simp [hClosed]
    · rw [ofSteps_of_failsWith hFails]
      constructor
      · intro hCode
        cases hCode
      · rintro ⟨hFits, hSteps, -⟩
        exact absurd hFails
          (not_failsWith_of_enclosed hFits hSteps)
  case written =>
    intro code hCode
    rcases fits_or_failsWith steps with
      ⟨hFits, hSteps⟩ | ⟨e, hFails⟩
    · rw [ofSteps_of_enclosed hFits hSteps] at hCode
      split at hCode <;> cases hCode
      refine ⟨normal_ofParts _, ?_⟩
      rw [atoms_ofParts]
      exact Step.Writes.atoms_parts ⟨hFits, rfl⟩
    · rw [ofSteps_of_failsWith hFails] at hCode
      cases hCode
  case refused =>
    intro e
    rcases fits_or_failsWith steps with
      ⟨hFits, hSteps⟩ | ⟨first, hFails⟩
    · have hLe := hSteps.ends_le
      have hNone :=
        not_failsWith_of_enclosed (e := e) hFits hSteps
      rw [ofSteps_of_enclosed hFits hSteps]
      by_cases hClosed : begins steps = ends steps
      · simp [hClosed, hNone]
      · have hOpen : ends steps < begins steps := by omega
        simp [hClosed, hNone, hFits, hSteps, hOpen, eq_comm]
    · rw [ofSteps_of_failsWith hFails]
      constructor
      · rintro ⟨rfl⟩
        exact .inl hFails
      · rintro (hOther | ⟨hFits, hSteps, -⟩)
        · rw [← ofSteps_of_failsWith hFails,
            ofSteps_of_failsWith hOther]
        · exact absurd hFails
            (not_failsWith_of_enclosed hFits hSteps)
  case extended =>
    intro e more hFails
    exact ofSteps_of_failsWith (hFails.append more)
  case method =>
    intro m
    unfold Method.withSteps
    cases ofSteps steps <;> rfl

/-
  A block whose sibling has an unknown mark, and one end too
  many after it.
-/
def brokenSibling : List Step :=
  [.beginBlock "if (ready)" [],
    .nextBlock "else $X" [],
    .endBlock,
    .endBlock]

/- The mark is reported, even if another block is begun. -/
theorem Code.ofSteps_outcome_brokenSibling :
    FailsWith brokenSibling (.unknownMark 'X' "else $X") ∧
      Code.ofSteps
          (brokenSibling ++ [.beginBlock "while (ready)" []]) =
        .error (.unknownMark 'X' "else $X") := by
  have hBefore :
      Enclosed [.beginBlock "if (ready)" []] := by
    have hDepth :
        [Step.beginBlock "if (ready)" []].foldlM
          Step.depth 0 = some 1 :=
      rfl
    simpa [Enclosed] using (foldlM_depth_iff.mp hDepth).1
  have hFails :
      FailsWith brokenSibling (.unknownMark 'X' "else $X") :=
    ⟨[.beginBlock "if (ready)" []], .nextBlock "else $X" [],
      [.endBlock, .endBlock], rfl, by decide, hBefore,
      by decide⟩
  exact ⟨hFails,
    (Code.ofSteps_outcome brokenSibling).2.2.2.1 _ _ hFails⟩

end ClientGen.Java
