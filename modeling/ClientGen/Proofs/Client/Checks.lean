import ClientGen.Client.Names

/-
  Computations that check some requirements one after the
  other and cannot fail in any other way.

  Main declarations include:
    * `Requirement`
    * `Requirement.checkAll`
    * `Requirement.checkAll_eq_ok_iff`
    * `Requirement.checkAll_eq_error`
    * `Checks`
    * `Checks.bind`
    * `Checks.mapM`

  Requirements are data, so that what a computation checks
  can be listed, and computations in a row check one list
  after the other.
-/

namespace ClientGen.Client

------------------------------------------------------------
-- Results
------------------------------------------------------------

/- Two computations in a row give a result if both do. -/
theorem bind_eq_ok_iff
    {ε α β : Type}
    {x : Except ε α}
    {f : α → Except ε β}
    {b : β} :
    x >>= f = .ok b ↔ ∃ a, x = .ok a ∧ f a = .ok b := by
  cases x with
  | error e =>
      constructor
      · intro hOk
        cases hOk
      · rintro ⟨a, hX, _⟩
        cases hX
  | ok a =>
      constructor
      · intro hOk
        exact ⟨a, rfl, hOk⟩
      · rintro ⟨b, hX, hF⟩
        cases hX
        exact hF

/-
  A function that only adds to the results of another one
  does so for a whole list.
-/
theorem mapM_eq_map
    {ε α β γ : Type}
    {f : α → Except ε β}
    {g : β → γ}
    {h : α → Except ε γ}
    (hEach : ∀ a, h a = (f a).map g)
    (as : List α) :
    as.mapM h = (as.mapM f).map (List.map g) := by
  induction as with
  | nil => rfl
  | cons a as ih =>
      rw [List.mapM_cons, List.mapM_cons, ih, hEach a]
      cases f a with
      | error e => rfl
      | ok b => cases as.mapM f <;> rfl

/- A function that does not fail is mapped. -/
theorem optionMapM_eq_map
    {ε α β : Type}
    {f : α → Except ε β}
    {g : α → β}
    (hEach : ∀ a, f a = .ok (g a))
    (a : Option α) :
    a.mapM f = .ok (a.map g) := by
  cases a with
  | none => rfl
  | some a =>
      rw [Option.mapM_some, hEach]
      rfl

------------------------------------------------------------
-- Requirements
------------------------------------------------------------

/- A condition, and the error if it is not met. -/
structure Requirement where
  holds : Bool
  fault : GenerationError
  deriving DecidableEq, Repr

namespace Requirement

/- Fail unless the condition is met. -/
def check
    (r : Requirement) :
    Except GenerationError Unit :=
  if r.holds then .ok () else .error r.fault

/- Check conditions from left to right. -/
def checkAll : List Requirement → Except GenerationError Unit
  | [] => .ok ()
  | r :: rest => do
      r.check
      checkAll rest

/- A condition that is met is passed over. -/
theorem checkAll_cons_of_holds
    {r : Requirement}
    (hHolds : r.holds = true)
    (rest : List Requirement) :
    checkAll (r :: rest) = checkAll rest := by
  rw [checkAll, check, if_pos hHolds]
  rfl

/- A condition that is not met is reported at once. -/
theorem checkAll_cons_of_fails
    {r : Requirement}
    (hFails : r.holds = false)
    (rest : List Requirement) :
    checkAll (r :: rest) = .error r.fault := by
  rw [checkAll, check, hFails]
  rfl

/- Checks are made one list after the other. -/
theorem checkAll_append
    (rs qs : List Requirement) :
    checkAll (rs ++ qs) =
      (do checkAll rs; checkAll qs) := by
  induction rs with
  | nil => rfl
  | cons r rs ih =>
      simp only [List.cons_append, checkAll, ih]
      cases r.check with
      | error e => rfl
      | ok u => rfl

/- All is well exactly if every condition is met. -/
theorem checkAll_eq_ok_iff
    (rs : List Requirement) :
    checkAll rs = .ok () ↔ ∀ r ∈ rs, r.holds = true := by
  induction rs with
  | nil => simp [checkAll]
  | cons r rs ih =>
      cases hHolds : r.holds with
      | true =>
          rw [checkAll_cons_of_holds hHolds, ih]
          simp [hHolds]
      | false =>
          rw [checkAll_cons_of_fails hHolds]
          simp [hHolds]

/- What is reported is the first condition not met. -/
theorem checkAll_eq_error
    {before after : List Requirement}
    {r : Requirement}
    (hBefore : ∀ q ∈ before, q.holds = true)
    (hFails : r.holds = false) :
    checkAll (before ++ r :: after) = .error r.fault := by
  rw [checkAll_append,
    (checkAll_eq_ok_iff before).mpr hBefore]
  exact checkAll_cons_of_fails hFails after

/- Whatever is reported is some condition's fault. -/
theorem exists_of_checkAll_eq_error
    {rs : List Requirement}
    {e : GenerationError}
    (hError : checkAll rs = .error e) :
    ∃ before r after,
      rs = before ++ r :: after ∧
        (∀ q ∈ before, q.holds = true) ∧
        r.holds = false ∧ r.fault = e := by
  induction rs with
  | nil => simp [checkAll] at hError
  | cons r rs ih =>
      cases hHolds : r.holds with
      | true =>
          rw [checkAll_cons_of_holds hHolds] at hError
          rcases ih hError with
            ⟨before, q, after, hEq, hBefore, hFails⟩
          refine ⟨r :: before, q, after, by simp [hEq], ?_,
            hFails⟩
          intro p hMem
          rcases List.mem_cons.mp hMem with rfl | hMem
          · exact hHolds
          · exact hBefore p hMem
      | false =>
          rw [checkAll_cons_of_fails hHolds] at hError
          cases hError
          exact ⟨[], r, rs, rfl, by simp, hHolds, rfl⟩

end Requirement

------------------------------------------------------------
-- Computations That Check
------------------------------------------------------------

/-
  The computation succeeds if the requirements are met, and
  else fails as the first one that is not says.
-/
def Checks
    {α : Type}
    (x : Except GenerationError α)
    (rs : List Requirement) :
    Prop :=
  x.map (fun _ => ()) = Requirement.checkAll rs

namespace Checks

variable {α β : Type}

/- A result that is there needs nothing. -/
theorem ok
    (a : α) :
    Checks (.ok a) [] :=
  rfl

/- A single condition decides between result and fault. -/
theorem single
    {x : Except GenerationError α}
    {r : Requirement}
    (hOk : r.holds = true → ∃ a, x = .ok a)
    (hError : r.holds = false → x = .error r.fault) :
    Checks x [r] := by
  unfold Checks
  cases hHolds : r.holds with
  | true =>
      rcases hOk hHolds with ⟨a, hX⟩
      rw [hX, Requirement.checkAll_cons_of_holds hHolds]
      rfl
  | false =>
      rw [hError hHolds,
        Requirement.checkAll_cons_of_fails hHolds]
      rfl

/- What is done with a result does not add to the checks. -/
theorem map
    {x : Except GenerationError α}
    {rs : List Requirement}
    (hX : Checks x rs)
    (f : α → β) :
    Checks (x.map f) rs := by
  unfold Checks at hX ⊢
  rw [← hX]
  cases x <;> rfl

/- Two computations in a row check one after the other. -/
theorem bind
    {x : Except GenerationError α}
    {f : α → Except GenerationError β}
    {rs qs : List Requirement}
    (hX : Checks x rs)
    (hF : ∀ a, x = .ok a → Checks (f a) qs) :
    Checks (x >>= f) (rs ++ qs) := by
  unfold Checks at hX hF ⊢
  rw [Requirement.checkAll_append, ← hX]
  cases x with
  | error e => rfl
  | ok a => exact hF a rfl

/- One condition is checked before those of the rest. -/
theorem bindSingle
    {x : Except GenerationError α}
    {f : α → Except GenerationError β}
    {r : Requirement}
    {rs : List Requirement}
    (hX : Checks x [r])
    (hF : ∀ a, x = .ok a → Checks (f a) rs) :
    Checks (x >>= f) (r :: rs) :=
  hX.bind hF

/- A list is checked from left to right. -/
theorem mapM
    {f : α → Except GenerationError β}
    {rs : α → List Requirement}
    (hF : ∀ a, Checks (f a) (rs a))
    (as : List α) :
    Checks (as.mapM f) (as.flatMap rs) := by
  induction as with
  | nil => rfl
  | cons a as ih =>
      rw [List.mapM_cons, List.flatMap_cons]
      apply (hF a).bind
      intro b _
      have hRest :
          Checks (do let bs ← as.mapM f; pure (b :: bs))
            (as.flatMap rs ++ []) :=
        ih.bind fun bs _ => ok (b :: bs)
      rwa [List.append_nil] at hRest

/- What may be left out is checked if it is there. -/
theorem optionMapM
    {f : α → Except GenerationError β}
    {rs : α → List Requirement}
    (hF : ∀ a, Checks (f a) (rs a))
    (a : Option α) :
    Checks (a.mapM f) (a.toList.flatMap rs) := by
  cases a with
  | none => rfl
  | some a =>
      have hSome := (hF a).map some
      rwa [← List.append_nil (rs a)] at hSome

/- There is a result exactly if all conditions are met. -/
theorem exists_ok_iff
    {x : Except GenerationError α}
    {rs : List Requirement}
    (hX : Checks x rs) :
    (∃ a, x = .ok a) ↔ ∀ r ∈ rs, r.holds = true := by
  unfold Checks at hX
  rw [← Requirement.checkAll_eq_ok_iff, ← hX]
  cases x with
  | error e => simp [Except.map]
  | ok a => simp [Except.map]

/- An error is the one that the checks report. -/
theorem eq_error_iff
    {x : Except GenerationError α}
    {rs : List Requirement}
    {e : GenerationError}
    (hX : Checks x rs) :
    x = .error e ↔ Requirement.checkAll rs = .error e := by
  unfold Checks at hX
  rw [← hX]
  cases x with
  | error fault => simp [Except.map]
  | ok a => simp [Except.map]

end Checks

end ClientGen.Client
