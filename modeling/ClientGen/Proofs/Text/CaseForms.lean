import ClientGen.Text.Case

/-
  Characters that a case mapping leads to are not mapped any
  further.

  Main declarations include:
    * `CodeRange.isApart`
    * `CodeShift.image`
    * `Settled`
    * `Settled.caseForm_of_mem`
    * `lowerForm_of_mem`
    * `isUppercase_eq_false_of_isLowercase`
    * `lowerForm_of_lt`
    * `flatMap_lowerForm_eq_self_iff`

  Whether a mapping is settled is told from the rows of its
  tables: the ranges its shifts lead to lie apart from those
  they start at.
-/

namespace ClientGen.Text

------------------------------------------------------------
-- Ranges That Lie Apart
------------------------------------------------------------

/- Whether all code points of a range are even, or all odd. -/
def CodeRange.isAlternating
    (r : CodeRange) :
    Bool :=
  r.step == 2 || r.first == r.last

/-
  Whether one range ends before the other begins, or one has
  even code points and the other odd ones.
-/
def CodeRange.isApart
    (a b : CodeRange) :
    Bool :=
  Nat.blt a.last b.first || Nat.blt b.last a.first ||
    a.isAlternating && b.isAlternating &&
      (a.first + b.first) % 2 == 1

/- What a range lists lies between its ends. -/
theorem CodeRange.contains_iff
    {r : CodeRange}
    {n : Nat} :
    r.contains n = true ↔
      r.first ≤ n ∧ n ≤ r.last ∧
        (n - r.first) % r.step = 0 := by
  simp [CodeRange.contains, and_assoc]

theorem CodeRange.mod_two_of_contains
    {r : CodeRange}
    {n : Nat}
    (hRange : r.isAlternating = true)
    (hN : r.contains n = true) :
    n % 2 = r.first % 2 := by
  rw [CodeRange.contains_iff] at hN
  simp only [isAlternating, Bool.or_eq_true, beq_iff_eq]
    at hRange
  rcases hRange with hStep | hOne
  · rw [hStep] at hN
    omega
  · have hSame : n = r.first := by omega
    rw [hSame]

/- A range lists nothing of one that lies apart. -/
theorem CodeRange.not_contains_of_isApart
    {a b : CodeRange}
    {n : Nat}
    (hApart : a.isApart b = true)
    (hN : a.contains n = true) :
    b.contains n = false := by
  rw [Bool.eq_false_iff]
  intro hBoth
  have hInA := CodeRange.contains_iff.mp hN
  have hInB := CodeRange.contains_iff.mp hBoth
  simp only [isApart, Bool.or_eq_true, Bool.and_eq_true,
    Nat.blt_eq, beq_iff_eq] at hApart
  rcases hApart with (hBefore | hBehind) | ⟨⟨hA, hB⟩, hOdd⟩
  · omega
  · omega
  · have hParityA := CodeRange.mod_two_of_contains hA hN
    have hParityB := CodeRange.mod_two_of_contains hB hBoth
    omega

/- Tables of ranges that all lie apart have nothing in common. -/
theorem inRanges_eq_false_of_isApart
    {rs others : List CodeRange}
    {c : Char}
    (hApart :
      (rs.all fun r => others.all fun other =>
        r.isApart other) = true)
    (hC : inRanges rs c = true) :
    inRanges others c = false := by
  rcases List.any_eq_true.mp hC with ⟨r, hR, hIn⟩
  have hRow := List.all_eq_true.mp hApart r hR
  rw [inRanges, List.any_eq_false]
  intro other hOther
  rw [CodeRange.not_contains_of_isApart
    (List.all_eq_true.mp hRow other hOther) hIn]
  exact Bool.false_ne_true

/- The range that a shift leads to. -/
def CodeShift.image
    (s : CodeShift) :
    CodeRange :=
  ⟨s.target, s.target + (s.source.last - s.source.first),
    s.source.step⟩

theorem CodeShift.contains_image
    {s : CodeShift}
    {n : Nat}
    (hN : s.source.contains n = true) :
    s.image.contains (s.apply n) = true := by
  rw [CodeRange.contains_iff] at hN ⊢
  simp only [image, apply, Nat.add_sub_cancel_left]
  omega

/- All of a range can be characters. -/
def CodeRange.IsScalar (r : CodeRange) : Prop :=
  r.last < 0xD800 ∨ 0xDFFF < r.first ∧ r.last < 0x110000

instance
    (r : CodeRange) :
    Decidable r.IsScalar := by
  unfold CodeRange.IsScalar
  infer_instance

/- So its code points are those of characters. -/
theorem CodeRange.IsScalar.toNat_ofNat
    {r : CodeRange}
    {n : Nat}
    (hScalar : r.IsScalar)
    (hN : r.contains n = true) :
    (Char.ofNat n).toNat = n := by
  rw [CodeRange.contains_iff] at hN
  have hValid : n.isValidChar := by
    unfold Nat.isValidChar
    rcases hScalar with hLow | hHigh
    · omega
    · omega
  rw [Char.ofNat, dif_pos hValid]
  rfl

------------------------------------------------------------
-- Settled Mappings
------------------------------------------------------------

/-
  The ranges that shifts lead to are apart from those that
  are mapped, and what a character expands to is its own
  image.
-/
structure Settled
    (shifts : List CodeShift)
    (expansions : List (Nat × List Nat)) :
    Prop where
  scalar : ∀ s ∈ shifts, s.image.IsScalar
  shifted :
    (shifts.all fun s => shifts.all fun other =>
      s.image.isApart other.source) = true
  unexpanded :
    ∀ s ∈ shifts, ∀ entry ∈ expansions,
      s.image.contains entry.1 = false
  expanded :
    ∀ entry ∈ expansions, ∀ code ∈ entry.2,
      caseForm shifts expansions (Char.ofNat code) =
        [Char.ofNat code]

/- The image of a character is that of a row, or itself. -/
theorem caseForm_cases
    (shifts : List CodeShift)
    (expansions : List (Nat × List Nat))
    (c : Char) :
    (∃ s ∈ shifts, s.source.contains c.toNat = true ∧
      caseForm shifts expansions c =
        [Char.ofNat (s.apply c.toNat)]) ∨
    (∃ codes, (c.toNat, codes) ∈ expansions ∧
      caseForm shifts expansions c = codes.map Char.ofNat) ∨
    caseForm shifts expansions c = [c] := by
  unfold caseForm
  cases hShift : shifts.find? (·.source.contains c.toNat) with
  | some s =>
      have hSource : s.source.contains c.toNat = true := by
        simpa using List.find?_some hShift
      exact .inl ⟨s, List.mem_of_find?_eq_some hShift,
        hSource, rfl⟩
  | none =>
      cases hLong : expansions.lookup c.toNat with
      | none => exact .inr (.inr rfl)
      | some codes =>
          rcases List.lookup_eq_some_iff.mp hLong with
            ⟨before, after, hEntries, -⟩
          exact .inr (.inl ⟨codes, by simp [hEntries], rfl⟩)

variable {shifts : List CodeShift}
variable {expansions : List (Nat × List Nat)}

/- A character in no row is its own image. -/
theorem caseForm_eq_self
    {c : Char}
    (hShifts :
      ∀ s ∈ shifts, s.source.contains c.toNat = false)
    (hExpansions :
      ∀ entry ∈ expansions, entry.1 ≠ c.toNat) :
    caseForm shifts expansions c = [c] := by
  rcases caseForm_cases shifts expansions c with
    ⟨s, hS, hSource, -⟩ | ⟨codes, hEntry, -⟩ | hSelf
  · rw [hShifts s hS] at hSource
    cases hSource
  · exact absurd rfl (hExpansions _ hEntry)
  · exact hSelf

/- What a settled mapping leads to is its own image. -/
theorem Settled.caseForm_of_mem
    (hSettled : Settled shifts expansions)
    {c d : Char}
    (hD : d ∈ caseForm shifts expansions c) :
    caseForm shifts expansions d = [d] := by
  rcases caseForm_cases shifts expansions c with
    ⟨s, hS, hSource, hForm⟩ | ⟨codes, hEntry, hForm⟩ | hForm
  · rw [hForm, List.mem_singleton] at hD
    have hImage := CodeShift.contains_image hSource
    have hCode : d.toNat = s.apply c.toNat := by
      rw [hD]
      exact (hSettled.scalar s hS).toNat_ofNat hImage
    rw [← hCode] at hImage
    have hApart :=
      List.all_eq_true.mp hSettled.shifted s hS
    apply caseForm_eq_self
    · intro other hOther
      exact CodeRange.not_contains_of_isApart
        (List.all_eq_true.mp hApart other hOther) hImage
    · rintro entry hEntry hSame
      rw [← hSame, hSettled.unexpanded s hS entry hEntry]
        at hImage
      cases hImage
  · rw [hForm] at hD
    rcases List.mem_map.mp hD with ⟨code, hCode, rfl⟩
    exact hSettled.expanded _ hEntry code hCode
  · rw [hForm, List.mem_singleton] at hD
    rw [hD]
    exact hForm

------------------------------------------------------------
-- Lower Case
------------------------------------------------------------

/- The mapping to lower case is settled. -/
theorem settled_lower :
    Settled lowerShifts lowerExpansions where
  scalar := by decide +kernel
  shifted := by decide +kernel
  unexpanded := by decide +kernel
  expanded := by decide +kernel

/- A lower-case form is in lower case. -/
theorem lowerForm_of_mem
    {c d : Char}
    (hD : d ∈ lowerForm c) :
    lowerForm d = [d] :=
  settled_lower.caseForm_of_mem hD

/- Every character has one. -/
theorem lowerForm_ne_nil
    (c : Char) :
    lowerForm c ≠ [] := by
  have hExpansions :
      ∀ entry ∈ lowerExpansions, entry.2 ≠ [] := by
    decide
  unfold lowerForm
  rcases caseForm_cases lowerShifts lowerExpansions c with
    ⟨s, -, -, hForm⟩ | ⟨codes, hEntry, hForm⟩ | hForm
  · simp [hForm]
  · simpa [hForm] using hExpansions _ hEntry
  · simp [hForm]

/- No character is both in lower case and in upper case. -/
theorem isUppercase_eq_false_of_isLowercase
    {c : Char}
    (hC : isLowercase c = true) :
    isUppercase c = false :=
  inRanges_eq_false_of_isApart (by decide +kernel) hC

/-
  Below the first code point that is not ASCII only the
  letters of one row have another form.
-/
theorem lowerForm_of_lt
    {c : Char}
    (hC : c.toNat < 0x80)
    (hCapital : c.toNat < 0x41 ∨ 0x5A < c.toNat) :
    lowerForm c = [c] := by
  have hRows :
      ∀ s ∈ lowerShifts,
        s.source.first = 0x41 ∧ s.source.last = 0x5A ∨
          0x80 ≤ s.source.first := by
    decide +kernel
  have hEntries :
      ∀ entry ∈ lowerExpansions, 0x80 ≤ entry.1 := by
    decide
  apply caseForm_eq_self
  · intro s hS
    rw [Bool.eq_false_iff]
    intro hIn
    rw [CodeRange.contains_iff] at hIn
    have hRow := hRows s hS
    omega
  · intro entry hEntry
    have hLong := hEntries entry hEntry
    omega

/- So a text does not get shorter, -/
theorem length_le_flatMap_lowerForm
    (cs : List Char) :
    cs.length ≤ (cs.flatMap lowerForm).length := by
  induction cs with
  | nil => exact Nat.le_refl 0
  | cons c cs ih =>
      have hForm :=
        List.length_pos_iff.mpr (lowerForm_ne_nil c)
      rw [List.flatMap_cons, List.length_append,
        List.length_cons]
      omega

/- And only one that is in lower case stays as it is. -/
theorem flatMap_lowerForm_eq_self_iff
    {cs : List Char} :
    cs.flatMap lowerForm = cs ↔
      ∀ c ∈ cs, lowerForm c = [c] := by
  induction cs with
  | nil => simp
  | cons c cs ih =>
      rw [List.forall_mem_cons, ← ih, List.flatMap_cons]
      constructor
      · intro hSame
        have hRest := length_le_flatMap_lowerForm cs
        have hLength := congrArg List.length hSame
        rw [List.length_append, List.length_cons] at hLength
        -- No room is left for a second character.
        obtain ⟨d, hForm⟩ : ∃ d, lowerForm c = [d] := by
          apply List.length_eq_one_iff.mp
          have hForm :=
            List.length_pos_iff.mpr (lowerForm_ne_nil c)
          omega
        rw [hForm, List.singleton_append,
          List.cons.injEq] at hSame
        exact ⟨by rw [hForm, hSame.1], hSame.2⟩
      · rintro ⟨hForm, hRest⟩
        rw [hForm, hRest]
        rfl

end ClientGen.Text
