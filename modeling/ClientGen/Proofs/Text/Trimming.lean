import ClientGen.Proofs.Text.LineEnds
import Mathlib.Data.List.TakeWhile

/-
  What trimming keeps of a text, at its end and around it.

  Main declarations include:
    * `AllBlank`
    * `Trims`
    * `trims_iff`
    * `Strips`
    * `strips_iff`

  What is kept is said by how it stands in the text: there
  are only blanks beside it, and none at its own edges.  A
  text has one such part.
-/

namespace ClientGen.Text

------------------------------------------------------------
-- Blanks
------------------------------------------------------------

/- Nothing can be seen of the text. -/
def AllBlank (text : List Char) : Prop :=
  ∀ c ∈ text, isBlank c = true

/- Only such texts are trimmed to nothing. -/
theorem trimEnd_eq_nil_iff
    {text : List Char} :
    trimEnd text = [] ↔ AllBlank text := by
  unfold AllBlank
  induction text with
  | nil => simp [trimEnd]
  | cons c rest ih =>
      rw [List.forall_mem_cons, ← ih, trimEnd]
      cases hKept : trimEnd rest with
      | nil => cases hBlank : isBlank c <;> simp
      | cons d kept => simp

------------------------------------------------------------
-- Ends of Texts
------------------------------------------------------------

/-
  What is kept of a text is all of it but for the blanks at
  its end.
-/
structure Trims (text kept : List Char) : Prop where
  blanks :
    ∃ blanks, AllBlank blanks ∧ text = kept ++ blanks
  full : ∀ c ∈ kept.getLast?, isBlank c = false

/- Blanks at the end of a text are trimmed with the others. -/
theorem trimEnd_append_blanks
    {blanks : List Char}
    (hBlanks : AllBlank blanks)
    (text : List Char) :
    trimEnd (text ++ blanks) = trimEnd text := by
  induction text with
  | nil => exact trimEnd_eq_nil_iff.mpr hBlanks
  | cons c rest ih =>
      simp only [List.cons_append, trimEnd, ih]

/- The front of a text stays if something behind it does. -/
theorem trimEnd_append
    {text : List Char}
    (hText : ¬ AllBlank text)
    (front : List Char) :
    trimEnd (front ++ text) = front ++ trimEnd text := by
  induction front with
  | nil => rfl
  | cons c front ih =>
      have hSome : front ++ trimEnd text ≠ [] := by
        intro hNone
        rw [List.append_eq_nil_iff] at hNone
        exact hText (trimEnd_eq_nil_iff.mp hNone.2)
      rw [List.cons_append, trimEnd, ih, List.cons_append]
      cases hKept : front ++ trimEnd text with
      | nil => exact absurd hKept hSome
      | cons d kept => rfl

/- What is kept of a text is the trimmed text. -/
theorem trims_iff
    {text kept : List Char} :
    Trims text kept ↔ trimEnd text = kept := by
  constructor
  · rintro ⟨⟨blanks, hBlanks, rfl⟩, hFull⟩
    rw [trimEnd_append_blanks hBlanks]
    exact trimEnd_eq_self_iff.mpr hFull
  · rintro rfl
    exact ⟨exists_trimEnd_append text,
      trimEnd_eq_self_iff.mp (trimEnd_trimEnd text)⟩

------------------------------------------------------------
-- Both Edges
------------------------------------------------------------

/-
  What is kept of a text is all of it but for the blanks at
  its two edges.
-/
structure Strips (text kept : List Char) : Prop where
  blanks :
    ∃ before after, AllBlank before ∧ AllBlank after ∧
      text = before ++ kept ++ after
  first : ∀ c ∈ kept.head?, isBlank c = false
  last : ∀ c ∈ kept.getLast?, isBlank c = false

/- The first character that stays is not blank. -/
theorem head?_trim
    (text : List Char) :
    ∀ c ∈ (trim text).head?, isBlank c = false := by
  intro c hHead
  rcases exists_trimEnd_append (trimStart text) with
    ⟨blanks, -, hStart⟩
  have hFirst : (trimStart text).head? = some c := by
    rw [hStart, List.head?_append_of_ne_nil]
    · exact hHead
    · rintro hNone
      unfold trim at hHead
      rw [hNone] at hHead
      cases hHead
  have hStop := List.head?_dropWhile_not isBlank text
  unfold trimStart at hFirst
  rw [hFirst] at hStop
  exact hStop

/- A text loses its first blanks and then its last ones. -/
theorem strips_iff
    {text kept : List Char} :
    Strips text kept ↔ trim text = kept := by
  constructor
  · rintro ⟨⟨before, after, hBefore, hAfter, rfl⟩, hFirst,
      hLast⟩
    unfold trim trimStart
    rw [List.append_assoc,
      List.dropWhile_append_of_pos hBefore]
    cases kept with
    | nil =>
        rw [List.nil_append,
          List.dropWhile_eq_nil_iff.mpr hAfter]
        rfl
    | cons c rest =>
        have hStop : ¬ isBlank c = true := by
          simp [hFirst c rfl]
        rw [List.cons_append, List.dropWhile_cons_of_neg hStop,
          ← List.cons_append, trimEnd_append_blanks hAfter]
        exact trimEnd_eq_self_iff.mpr hLast
  · rintro rfl
    rcases exists_trimEnd_append (trimStart text) with
      ⟨after, hAfter, hStart⟩
    refine ⟨⟨text.takeWhile isBlank, after, ?_, hAfter, ?_⟩,
      head?_trim text,
      trimEnd_eq_self_iff.mp (trimEnd_trimEnd _)⟩
    · exact fun c hC => List.mem_takeWhile_imp hC
    · unfold trim
      rw [List.append_assoc, ← hStart]
      exact (List.takeWhile_append_dropWhile).symm

end ClientGen.Text
