import ClientGen.Proofs.Code.Tokens
import Mathlib.Tactic.SplitIfs

/-
  The types that code declares variables of, and those that
  it makes objects of.

  Main declarations include:
    * `declaredTypes`
    * `creations`
    * `Code.mem_of_mem_tokens`

  A type is found among the tokens of code only if it is one
  of the parts that the code was put together from.
-/

namespace ClientGen.Java

open Code

/- The types that a variable of that name is declared with. -/
def declaredTypes
    (name : String) :
    List Token → List TypeName
  | .type t :: .word w :: .symbol '=' :: rest =>
      if w = name then t :: declaredTypes name rest
      else declaredTypes name rest
  | _ :: rest => declaredTypes name rest
  | [] => []

/- The types of which objects are made, and what follows. -/
def creations :
    List Token → List (TypeName × List Token)
  | .word w :: .type t :: rest =>
      if w = "new" then (t, rest) :: creations rest
      else creations rest
  | _ :: rest => creations rest
  | [] => []

/- The types of which objects are made, in order. -/
def createdTypes
    (ts : List Token) :
    List TypeName :=
  (creations ts).map Prod.fst

/- Without a sign of equality nothing is declared. -/
theorem declaredTypes_eq_nil
    {name : String}
    {ts : List Token}
    (hNone : .symbol '=' ∉ ts) :
    declaredTypes name ts = [] := by
  fun_induction declaredTypes name ts with
  | case1 => simp at hNone
  | case2 => simp at hNone
  | case3 t rest hOther ih =>
      exact ih fun hMem => hNone (List.mem_cons_of_mem t hMem)
  | case4 => rfl

/- The type stands in front of the variable. -/
theorem declaredTypes_declaration
    (name : String)
    (t : TypeName)
    (rest : List Token) :
    declaredTypes name
        (.type t :: .word name :: .symbol '=' :: rest) =
      t :: declaredTypes name rest := by
  rw [declaredTypes, if_pos rfl]

/- What makes no object can be left out. -/
theorem creations_append
    {ts : List Token}
    (hNone : .word "new" ∉ ts)
    (us : List Token) :
    creations (ts ++ us) = creations us := by
  induction ts with
  | nil => rfl
  | cons t ts ih =>
      rw [List.mem_cons, not_or] at hNone
      rw [List.cons_append, ← ih hNone.2]
      cases t with
      | word w =>
          have hWord : w ≠ "new" := by
            rintro rfl
            exact hNone.1 rfl
          cases hRest : ts ++ us with
          | nil => rfl
          | cons next more =>
              cases next with
              | type t => simp [creations, hWord]
              | _ => rfl
      | _ => rfl

/- Without the word no object is made. -/
theorem creations_eq_nil
    {ts : List Token}
    (hNone : .word "new" ∉ ts) :
    creations ts = [] := by
  rw [← List.append_nil ts, creations_append hNone]
  rfl

/- The word and a type make an object. -/
theorem creations_new
    {ts : List Token}
    (hNone : .word "new" ∉ ts)
    (t : TypeName)
    (rest : List Token) :
    creations (ts ++ .word "new" :: .type t :: rest) =
      (t, rest) :: creations rest := by
  rw [creations_append hNone, creations, if_pos rfl]

/- So it is with their types. -/
theorem createdTypes_eq_nil
    {ts : List Token}
    (hNone : .word "new" ∉ ts) :
    createdTypes ts = [] := by
  rw [createdTypes, creations_eq_nil hNone, List.map_nil]

theorem createdTypes_new
    {ts : List Token}
    (hNone : .word "new" ∉ ts)
    (t : TypeName)
    (rest : List Token) :
    createdTypes (ts ++ .word "new" :: .type t :: rest) =
      t :: createdTypes rest := by
  unfold createdTypes
  rw [creations_new hNone, List.map_cons]

/- An object is made of a type that is mentioned. -/
theorem mem_of_mem_creations
    {ts : List Token}
    {t : TypeName}
    {rest : List Token}
    (hMem : (t, rest) ∈ creations ts) :
    .type t ∈ ts := by
  fun_induction creations ts with
  | case1 u more ih =>
      rcases List.mem_cons.mp hMem with hFirst | hLater
      · cases hFirst
        simp
      · simp [ih hLater]
  | case2 w u more hOther ih => simp [ih hMem]
  | case3 u more hOther ih => simp [ih hMem]
  | case4 => cases hMem

/- A character is never read as a type. -/
theorem Mode.type_not_mem_step_char
    (mode : Mode)
    (c : Char)
    (t : TypeName) :
    .type t ∉ (mode.step (.char c)).1 := by
  have hStart : .type t ∉ (start (.char c)).1 := by
    simp only [start]
    split_ifs <;> simp
  cases mode with
  | between => simpa [step, ended] using hStart
  | word read =>
      simp only [step]
      split_ifs
      · exact List.not_mem_nil
      · simpa using hStart
  | literal read =>
      simp only [step]
      split_ifs <;> simp
  | escape read => exact List.not_mem_nil

/- What is read as a type is the type. -/
theorem Mode.eq_of_mem_step
    {mode : Mode}
    {a : Atom}
    {t : TypeName}
    (hMem : .type t ∈ (mode.step a).1) :
    a = .type t := by
  cases a with
  | char c => exact absurd hMem (mode.type_not_mem_step_char c t)
  | type u => cases mode <;> simp_all [step, ended, start]
  | indent => cases mode <;> simp [step, ended, start] at hMem
  | unindent =>
      cases mode <;> simp [step, ended, start] at hMem

/- So types are read from where they are written. -/
theorem Mode.mem_of_mem_scan
    {mode : Mode}
    {as : List Atom}
    {t : TypeName}
    (hMem : .type t ∈ (scan mode as).1) :
    .type t ∈ as := by
  induction as generalizing mode with
  | nil => cases hMem
  | cons a rest ih =>
      rw [scan, List.mem_append] at hMem
      rcases hMem with hFirst | hLater
      · rw [eq_of_mem_step hFirst]
        exact List.mem_cons_self
      · exact List.mem_cons_of_mem a (ih hLater)

/- The types among the tokens of code are parts of it. -/
theorem Code.mem_of_mem_tokens
    {parts : List Part}
    {t : TypeName}
    (hMem : .type t ∈ (ofParts parts).tokens) :
    .type t ∈ parts := by
  have hEnded : ∀ mode : Mode, .type t ∉ mode.ended := by
    intro mode
    cases mode <;> simp [Mode.ended]
  unfold tokens at hMem
  rw [atoms_ofParts, List.mem_append] at hMem
  rcases hMem with hRead | hLast
  · rcases List.mem_flatMap.mp (Mode.mem_of_mem_scan hRead) with
      ⟨p, hPart, hAtom⟩
    cases p with
    | text s => simp at hAtom
    | type u =>
        simp only [Part.atoms_type, List.mem_singleton] at hAtom
        cases hAtom
        exact hPart
    | indent => simp at hAtom
    | unindent => simp at hAtom
  · exact absurd hLast (hEnded _)

end ClientGen.Java
