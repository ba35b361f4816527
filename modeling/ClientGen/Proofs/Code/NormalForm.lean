import ClientGen.Proofs.Code.Outcome
import Mathlib.Data.List.Chain

/-
  The normal form of code, and equations between fragments
  that follow from it.

  Main declarations include:
    * `Code.normalParts_iff`
    * `Code.Normal.eq_iff`
    * `Code.push`
    * `CodeBuilder.parts_write`
    * `Code.Obtainable`
    * `Code.atoms_join`
    * `Code.ofFormat_append`
    * `Code.normalForm_laws`

  Code in normal form is known by its atoms.  So two ways to
  put code together agree as soon as they write the same.
-/

namespace ClientGen.Java

namespace Code

------------------------------------------------------------
-- Normal Parts
------------------------------------------------------------

/- The parts are not both texts. -/
def Part.Apart : Part → Part → Prop
  | .text _, .text _ => False
  | _, _ => True

/- No text is empty, and no two texts are neighbours. -/
theorem normalParts_iff
    {parts : List Part} :
    NormalParts parts ↔
      .text "" ∉ parts ∧ parts.IsChain Part.Apart := by
  fun_induction NormalParts parts with
  | case1 => simp
  | case2 s t rest => simp [Part.Apart]
  | case3 s rest hNext ih =>
      rw [ih]
      rcases rest with _ | ⟨q, more⟩
      · simp [eq_comm]
      · cases q with
        | text t => exact (hNext t more rfl).elim
        | _ => simp [Part.Apart, eq_comm, and_assoc]
  | case4 p rest hText hNext ih =>
      rw [ih]
      cases p with
      | text s => exact (hNext s rfl).elim
      | _ => cases rest <;> simp [Part.Apart]

/- Parts in normal form are not changed by taking it. -/
theorem ofParts_of_normalParts
    {parts : List Part}
    (hParts : NormalParts parts) :
    ofParts parts = ⟨parts⟩ := by
  unfold ofParts
  congr 1
  rw [normalParts_iff] at hParts
  rcases hParts with ⟨hSome, hApart⟩
  induction parts with
  | nil => rfl
  | cons p rest ih =>
      rw [List.mem_cons, not_or] at hSome
      rw [List.foldr_cons, ih hSome.2 hApart.of_cons]
      unfold Part.before
      split
      · -- Two texts would be neighbours.
        exact absurd hApart (by simp [Part.Apart])
      · rename_i s hNext
        have hFull : s ≠ "" := by
          rintro rfl
          exact hSome.1 rfl
        rw [if_neg hFull]
      · rfl

theorem Normal.ofParts_parts
    {code : Code}
    (hCode : code.Normal) :
    ofParts code.parts = code :=
  ofParts_of_normalParts hCode

/- Fragments in normal form are told apart by their atoms. -/
theorem Normal.eq_iff
    {a b : Code}
    (hA : a.Normal)
    (hB : b.Normal) :
    a = b ↔ atoms a.parts = atoms b.parts := by
  rw [← ofParts_eq_iff, hA.ofParts_parts, hB.ofParts_parts]

@[simp]
theorem normal_empty :
    empty.Normal :=
  trivial

/- Only the empty fragment has no atoms. -/
theorem Normal.isEmpty_iff
    {code : Code}
    (hCode : code.Normal) :
    code.isEmpty = true ↔ atoms code.parts = [] := by
  have hEmpty :
      code.isEmpty = true ↔ code = empty := by
    cases code
    simp [isEmpty, empty]
  rw [hEmpty, hCode.eq_iff normal_empty]
  rfl

------------------------------------------------------------
-- Parts Behind
------------------------------------------------------------

/-
  One part behind others.  A text goes on with the text that
  stands last, if there is one.
-/
def push
    (parts : List Part) :
    Part → List Part
  | .text t =>
      if t = "" then parts
      else
        match parts.getLast? with
        | some (.text s) => parts.dropLast ++ [.text (s ++ t)]
        | _ => parts ++ [.text t]
  | p => parts ++ [p]

/- The part is set down behind the atoms that are there. -/
theorem atoms_push
    (parts : List Part)
    (p : Part) :
    atoms (push parts p) = atoms parts ++ p.atoms := by
  unfold push
  split
  · rename_i t
    split
    · rename_i hEmpty
      simp [hEmpty]
    · split
      · rename_i s hLast
        rcases List.getLast?_eq_some_iff.mp hLast with
          ⟨front, rfl⟩
        simp
      · simp
  · simp

/- Parts in normal form stay so. -/
theorem normalParts_push
    {parts : List Part}
    (hParts : NormalParts parts)
    (p : Part) :
    NormalParts (push parts p) := by
  rw [normalParts_iff] at hParts ⊢
  rcases hParts with ⟨hSome, hApart⟩
  cases p with
  | text t =>
      unfold push
      by_cases hEmpty : t = ""
      · simpa [hEmpty] using ⟨hSome, hApart⟩
      · simp only [hEmpty, if_false]
        split
        · rename_i s hLast
          rcases List.getLast?_eq_some_iff.mp hLast with
            ⟨front, rfl⟩
          rw [List.isChain_append] at hApart
          rw [List.dropLast_concat, List.isChain_append]
          have hFront : .text "" ∉ front :=
            fun hIn => hSome (List.mem_append_left _ hIn)
          refine ⟨by simpa [hEmpty] using hFront, ?_⟩
          -- What may stand next to the one text may stand
          -- next to the longer one.
          refine ⟨hApart.1, by simp, ?_⟩
          intro last hFront longer hLonger
          cases hLonger
          have hMeet := hApart.2.2 last hFront (.text s) rfl
          cases last <;> trivial
        · rename_i hLast
          rw [List.isChain_append]
          refine ⟨by simpa [eq_comm, hEmpty] using hSome,
            hApart, by simp, ?_⟩
          rintro last hIn _ ⟨⟩
          cases last with
          | text s => exact (hLast s hIn).elim
          | _ => trivial
  | _ =>
      unfold push
      rw [List.isChain_append]
      refine ⟨by simpa using hSome, hApart, by simp, ?_⟩
      rintro last - _ ⟨⟩
      cases last <;> trivial

/- A run of parts is set down one after the other. -/
theorem atoms_foldl_push
    (parts more : List Part) :
    atoms (more.foldl push parts) =
      atoms parts ++ atoms more := by
  induction more generalizing parts with
  | nil => simp
  | cons p more ih =>
      rw [List.foldl_cons, ih, atoms_push, atoms_cons,
        List.append_assoc]

theorem normalParts_foldl_push
    {parts : List Part}
    (hParts : NormalParts parts)
    (more : List Part) :
    NormalParts (more.foldl push parts) := by
  induction more generalizing parts with
  | nil => exact hParts
  | cons p more ih => exact ih (normalParts_push hParts p)

/-
  Parts behind code in normal form may be pushed one by one:
  nothing that stands there changes but a text at its end.
-/
theorem ofParts_append_eq_foldl_push
    {parts : List Part}
    (hParts : NormalParts parts)
    (more : List Part) :
    ofParts (parts ++ more) = ⟨more.foldl push parts⟩ := by
  have hPushed :
      Normal ⟨more.foldl push parts⟩ :=
    normalParts_foldl_push hParts more
  rw [(normal_ofParts _).eq_iff hPushed, atoms_ofParts,
    atoms_append]
  exact (atoms_foldl_push parts more).symm

/- So every fragment is what pushing its parts makes. -/
theorem ofParts_eq_foldl_push
    (parts : List Part) :
    ofParts parts = ⟨parts.foldl push []⟩ :=
  ofParts_append_eq_foldl_push normal_empty parts

end Code

------------------------------------------------------------
-- Builders
------------------------------------------------------------

namespace CodeBuilder

variable {b : CodeBuilder}

/- A builder writes by pushing parts behind its code. -/
theorem parts_write
    (hWritten : b.written.Normal)
    (parts : List Code.Part) :
    (b.write parts).written.parts =
      parts.foldl Code.push b.written.parts := by
  rw [write, Code.ofParts_append_eq_foldl_push hWritten]

theorem normal_write
    (hWritten : b.written.Normal)
    (parts : List Code.Part) :
    (b.write parts).written.Normal := by
  unfold Code.Normal
  rw [parts_write hWritten]
  exact Code.normalParts_foldl_push hWritten parts

theorem normal_writeFormat
    (hWritten : b.written.Normal)
    (format : String)
    (arguments : List Argument) :
    (b.writeFormat format arguments).written.Normal := by
  unfold writeFormat
  split
  · exact hWritten
  · simp only
    split
    · exact normal_write hWritten _
    · exact normal_write hWritten _

/- No step leaves the normal form, not even one that fails. -/
theorem normal_take
    (hWritten : b.written.Normal)
    (step : Step) :
    (b.take step).written.Normal := by
  cases step with
  | add format arguments =>
      exact normal_writeFormat hWritten format arguments
  | statement format arguments =>
      exact normal_write
        (normal_writeFormat hWritten format arguments) _
  | beginBlock format arguments =>
      exact normal_write
        (normal_writeFormat hWritten format arguments) _
  | nextBlock format arguments =>
      rw [take]
      split
      · exact hWritten
      · exact normal_write (normal_writeFormat
          (normal_write hWritten _) format arguments) _
  | endBlock =>
      rw [take]
      split
      · exact hWritten
      · exact normal_write hWritten _
  | code c => exact normal_write hWritten c.parts

/- So whatever steps are taken, the code is in normal form. -/
theorem normal_ofSteps
    (steps : List Step) :
    (ofSteps steps).written.Normal := by
  suffices hFold :
      ∀ b : CodeBuilder, b.written.Normal →
        (steps.foldl take b).written.Normal from
    hFold start Code.normal_empty
  induction steps with
  | nil => exact fun _ hWritten => hWritten
  | cons step steps ih =>
      intro b hWritten
      exact ih (b.take step) (normal_take hWritten step)

/- What is built is what has been written. -/
theorem eq_written_of_build
    {code : Code}
    (hBuild : b.build = .ok code) :
    code = b.written := by
  unfold build at hBuild
  split at hBuild
  · cases hBuild
  · split at hBuild <;> cases hBuild
    rfl

end CodeBuilder

------------------------------------------------------------
-- Obtainable Code
------------------------------------------------------------

/- The fragments among the arguments of a format. -/
def Argument.codes : Argument → List Code
  | .code c => [c]
  | _ => []

/- The fragments that a step is given. -/
def Step.codes : Step → List Code
  | .add _ arguments => arguments.flatMap Argument.codes
  | .statement _ arguments =>
      arguments.flatMap Argument.codes
  | .beginBlock _ arguments =>
      arguments.flatMap Argument.codes
  | .nextBlock _ arguments =>
      arguments.flatMap Argument.codes
  | .endBlock => []
  | .code c => [c]

namespace Code

/-
  Fragments that formats, joins and builders make of others
  that were made like this.
-/
inductive Obtainable : Code → Prop where
  | ofFormat
      {format : String}
      {arguments : List Argument}
      {code : Code}
      (hArguments :
        ∀ c ∈ arguments.flatMap Argument.codes, Obtainable c)
      (hCode : Code.ofFormat format arguments = .ok code) :
      Obtainable code
  | join
      {blocks : List Code}
      (hBlocks : ∀ c ∈ blocks, Obtainable c)
      (separator : String) :
      Obtainable (Code.join blocks separator)
  | ofSteps
      {steps : List Step}
      {code : Code}
      (hSteps :
        ∀ c ∈ steps.flatMap Step.codes, Obtainable c)
      (hCode : Code.ofSteps steps = .ok code) :
      Obtainable code

/- A format that fits makes code of its reading. -/
theorem ofFormat_eq_ok_iff
    {format : String}
    {arguments : List Argument}
    {code : Code} :
    ofFormat format arguments = .ok code ↔
      Format.fits format.toList arguments = true ∧
        ofParts (Format.read format arguments).parts =
          code := by
  rw [Format.fits_iff]
  simp only [ofFormat]
  cases (Format.read format arguments).mismatch <;> simp

/- Joining makes code in normal form. -/
theorem normal_join
    (blocks : List Code)
    (separator : String) :
    (join blocks separator).Normal :=
  normal_ofParts _

/- All of them are in normal form. -/
theorem Obtainable.normal
    {code : Code}
    (hCode : code.Obtainable) :
    code.Normal := by
  cases hCode with
  | ofFormat _ hCode =>
      rw [← (ofFormat_eq_ok_iff.mp hCode).2]
      exact normal_ofParts _
  | join _ separator => exact normal_join _ separator
  | ofSteps _ hCode =>
      rw [CodeBuilder.eq_written_of_build hCode]
      exact CodeBuilder.normal_ofSteps _

------------------------------------------------------------
-- Joins
------------------------------------------------------------

/- The atoms of joined fragments. -/
theorem atoms_join
    (blocks : List Code)
    (separator : String) :
    atoms (join blocks separator).parts =
      List.intercalate (separator.toList.map .char)
        (blocks.map fun code => atoms code.parts) := by
  rw [join, atoms_ofParts]
  fun_induction joinedParts separator blocks with
  | case1 => rfl
  | case2 code => simp [List.intercalate]
  | case3 code next more ih =>
      rw [atoms_append, atoms_cons, ih]
      simp [List.intercalate]

/- Two lists of pieces, both of which hold some. -/
theorem intercalate_append
    {α : Type}
    {xs ys : List (List α)}
    (separator : List α)
    (hXs : xs ≠ [])
    (hYs : ys ≠ []) :
    List.intercalate separator (xs ++ ys) =
      List.intercalate separator xs ++ separator ++
        List.intercalate separator ys := by
  induction xs with
  | nil => exact (hXs rfl).elim
  | cons x more ih =>
      cases more with
      | nil =>
          cases ys with
          | nil => exact (hYs rfl).elim
          | cons y ys =>
              rw [List.singleton_append,
                List.intercalate_cons_cons,
                List.intercalate_singleton]
      | cons next more =>
          have hRest := ih (List.cons_ne_nil next more)
          rw [List.cons_append] at hRest ⊢
          rw [List.cons_append, List.intercalate_cons_cons,
            hRest, List.intercalate_cons_cons]
          simp only [List.append_assoc]

/- Two fragments with nothing between them. -/
theorem atoms_join_pair
    (a b : Code) :
    atoms (join [a, b] "").parts =
      atoms a.parts ++ atoms b.parts := by
  simp [atoms_join, List.intercalate]

/- It does not matter which two are joined first. -/
theorem join_assoc
    (a b c : Code) :
    join [join [a, b] "", c] "" =
      join [a, join [b, c] ""] "" := by
  refine ((normal_join _ _).eq_iff (normal_join _ _)).mpr ?_
  simp only [atoms_join_pair, List.append_assoc]

/- Nothing is added by the empty fragment. -/
theorem Normal.join_empty
    {code : Code}
    (hCode : code.Normal) :
    join [code, empty] "" = code := by
  refine ((normal_join _ _).eq_iff hCode).mpr ?_
  rw [atoms_join_pair]
  exact List.append_nil _

theorem Normal.empty_join
    {code : Code}
    (hCode : code.Normal) :
    join [empty, code] "" = code := by
  refine ((normal_join _ _).eq_iff hCode).mpr ?_
  rw [atoms_join_pair]
  exact List.nil_append _

/- Joined lists may be joined with the same separator. -/
theorem join_append
    {xs ys : List Code}
    (separator : String)
    (hXs : xs ≠ [])
    (hYs : ys ≠ []) :
    join (xs ++ ys) separator =
      join [join xs separator, join ys separator]
        separator := by
  refine ((normal_join _ _).eq_iff (normal_join _ _)).mpr ?_
  rw [atoms_join, atoms_join, List.map_append,
    intercalate_append _ (by simpa using hXs)
      (by simpa using hYs)]
  simp only [List.map_cons, List.map_nil, atoms_join,
    List.intercalate_cons_cons, List.intercalate_singleton]

end Code

------------------------------------------------------------
-- Formats in a Row
------------------------------------------------------------

namespace Format

/- A mark that has a meaning leaves later arguments alone. -/
theorem meaning_append
    {c : Char}
    {arguments : List Argument}
    (hSome : (meaning c arguments).1.isSome = true)
    (more : List Argument) :
    meaning c (arguments ++ more) =
      ((meaning c arguments).1,
        (meaning c arguments).2 ++ more) := by
  unfold meaning at hSome ⊢
  by_cases hTakes : (Item.mark c).consumes = true
  · rw [if_pos hTakes] at hSome ⊢
    cases arguments with
    | nil => cases hSome
    | cons argument rest => simp [hTakes]
  · rw [if_neg hTakes, if_neg hTakes]

/-
  Behind a format that fits, another one meets the arguments
  behind those of the first.
-/
theorem fits_append
    {first : List Char}
    {arguments : List Argument}
    (second : List Char)
    (more : List Argument)
    (hFits : fits first arguments = true) :
    fits (first ++ second) (arguments ++ more) =
        fits second more ∧
      atoms (first ++ second) (arguments ++ more) =
        atoms first arguments ++ atoms second more := by
  fun_induction fits first arguments with
  | case1 arguments =>
      rw [List.isEmpty_iff] at hFits
      simp [hFits]
  | case2 arguments => cases hFits
  | case3 c rest arguments ih =>
      rw [Bool.and_eq_true] at hFits
      rcases ih hFits.2 with ⟨hRest, hAtoms⟩
      simp only [List.cons_append, fits_mark, atoms_mark,
        meaning_append hFits.1, hFits.1, Bool.true_and, hRest,
        hAtoms, List.append_assoc, and_self]
  | case4 c rest arguments hLast hMark ih =>
      -- A dollar sign is a mark or stands last, so this
      -- character is none.
      have hPlain : c ≠ '$' := by
        rintro rfl
        cases rest with
        | nil => exact hLast rfl rfl
        | cons next rest => exact hMark next rest rfl rfl
      rcases ih hFits with ⟨hRest, hAtoms⟩
      simp only [List.cons_append, fits_plain _ _ _ hPlain,
        atoms_plain _ _ _ hPlain, hRest, hAtoms, and_self]

end Format

namespace Code

/- One format behind another makes one code behind another. -/
theorem ofFormat_append
    {first second : String}
    {arguments more : List Argument}
    {a b : Code}
    (hFirst : ofFormat first arguments = .ok a)
    (hSecond : ofFormat second more = .ok b) :
    ofFormat (first ++ second) (arguments ++ more) =
      .ok (join [a, b] "") := by
  rcases ofFormat_eq_ok_iff.mp hFirst with ⟨hFits, rfl⟩
  rcases ofFormat_eq_ok_iff.mp hSecond with ⟨hNext, rfl⟩
  rcases Format.fits_append second.toList more hFits with
    ⟨hBoth, hAtoms⟩
  rw [← String.toList_append] at hBoth hAtoms
  have hFitsBoth := hBoth.trans hNext
  refine ofFormat_eq_ok_iff.mpr ⟨hFitsBoth, ?_⟩
  refine ((normal_ofParts _).eq_iff (normal_join _ _)).mpr ?_
  rw [atoms_join_pair, atoms_ofParts, atoms_ofParts,
    atoms_ofParts, (Format.read_of_fits hFitsBoth).2, hAtoms,
    (Format.read_of_fits hFits).2,
    (Format.read_of_fits hNext).2]

------------------------------------------------------------
-- Laws
------------------------------------------------------------

/-
  Code that can be made holds no empty text and no two texts
  on end.  It is therefore known by what it writes and empty
  only if it writes nothing.  Formats one behind the other
  make codes one behind the other.  Joining without a
  separator is associative, and the empty fragment is its
  unit.  Two lists that are not empty may be joined
  one by one first, whatever the separator is.
-/
theorem normalForm_laws :
    (∀ code : Code, code.Obtainable →
      .text "" ∉ code.parts ∧
        ∀ before s t after,
          code.parts ≠
            before ++ .text s :: .text t :: after) ∧
    (∀ a b : Code, a.Obtainable → b.Obtainable →
      (a = b ↔ atoms a.parts = atoms b.parts)) ∧
    (∀ code : Code, code.Obtainable →
      (code.isEmpty = true ↔ atoms code.parts = [])) ∧
    (∀ first arguments a second more b,
      ofFormat first arguments = .ok a →
      ofFormat second more = .ok b →
        ofFormat (first ++ second) (arguments ++ more) =
          .ok (join [a, b] "")) ∧
    (∀ a b c : Code,
      join [join [a, b] "", c] "" =
        join [a, join [b, c] ""] "") ∧
    (∀ code : Code, code.Obtainable →
      join [code, empty] "" = code ∧
        join [empty, code] "" = code) ∧
    (∀ (xs ys : List Code) (separator : String),
      xs ≠ [] → ys ≠ [] →
        join (xs ++ ys) separator =
          join [join xs separator, join ys separator]
            separator) := by
  refine ⟨?normal, ?equal, ?blank, ?formats, ?assoc, ?unit,
    ?lists⟩
  case normal =>
    intro code hCode
    rcases normalParts_iff.mp hCode.normal with
      ⟨hSome, hApart⟩
    refine ⟨hSome, ?_⟩
    intro before s t after hParts
    rw [hParts, List.isChain_append] at hApart
    rcases hApart with ⟨-, hPair, -⟩
    rw [List.isChain_cons_cons] at hPair
    exact hPair.1
  case equal =>
    intro a b hA hB
    exact hA.normal.eq_iff hB.normal
  case blank =>
    intro code hCode
    exact hCode.normal.isEmpty_iff
  case formats =>
    intro first arguments a second more b hFirst hSecond
    exact ofFormat_append hFirst hSecond
  case assoc => exact join_assoc
  case unit =>
    intro code hCode
    exact ⟨hCode.normal.join_empty, hCode.normal.empty_join⟩
  case lists =>
    intro xs ys separator hXs hYs
    exact join_append separator hXs hYs

/- The class whose method is called. -/
def calledClass : ClassName :=
  ⟨"java.util", "List", []⟩

/- An argument of the call, as code of its own. -/
def quotedArgument : Code :=
  ⟨[.text "\"a$\""]⟩

/- The call up to its class, and from there on. -/
def calledHead : Code :=
  ⟨[.text "return ", .type (.class calledClass)]⟩

def calledTail : Code :=
  ⟨[.text ".of(\"a$\");\n"]⟩

/- A call whose argument is nested in the second format. -/
theorem normalForm_laws_call :
    calledTail.Obtainable ∧
      .text "" ∉ calledTail.parts ∧
      ofFormat ("return $T" ++ ".of($L);\n")
          ([.type (.class calledClass)] ++
            [.code quotedArgument]) =
        .ok (join [calledHead, calledTail] "") := by
  have hArgument :
      ofFormat "$S" [.text "a$"] = .ok quotedArgument := by
    rfl
  have hHead :
      ofFormat "return $T" [calledClass] = .ok calledHead := by
    rfl
  have hTail :
      ofFormat ".of($L);\n" [quotedArgument] =
        .ok calledTail := by
    rfl
  have hNested : calledTail.Obtainable := by
    refine .ofFormat ?_ hTail
    intro c hIn
    rw [List.mem_singleton.mp hIn]
    exact .ofFormat (by simp [Argument.codes]) hArgument
  exact ⟨hNested, (normalForm_laws.1 calledTail hNested).1,
    normalForm_laws.2.2.2.1 _ _ _ _ _ _ hHead hTail⟩

end Code

end ClientGen.Java
