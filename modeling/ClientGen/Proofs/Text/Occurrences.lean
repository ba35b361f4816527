import Mathlib.Data.List.Infix

/-
  How often a word occurs in a text.

  Main declarations include:
    * `occurrences`
    * `occurrences_append`
    * `occurrences_separator`
    * `occurrences_pos`
    * `Holds`
    * `Holds.append`

  A text may be cut anywhere but across the word.  Where no
  beginning of the word stands at the end of a text, none
  can be completed by what follows, and texts are searched
  one by one.
-/

namespace ClientGen.Text

/- The number of places at which the word begins. -/
def occurrences
    (w s : List Char) :
    Nat :=
  s.tails.countP (w.isPrefixOf ·)

variable {w s : List Char}

/- A word does not occur in the empty text. -/
theorem occurrences_nil
    (hSome : w ≠ []) :
    occurrences w [] = 0 := by
  cases w with
  | nil => exact absurd rfl hSome
  | cons c w => rfl

/- It begins with the text, or occurs later on. -/
theorem occurrences_cons
    (w s : List Char)
    (c : Char) :
    occurrences w (c :: s) =
      occurrences w s + if w <+: c :: s then 1 else 0 := by
  unfold occurrences
  rw [List.tails_cons, List.countP_cons]
  simp only [List.isPrefixOf_iff_prefix]

/- Without one of its characters it does not occur. -/
theorem occurrences_eq_zero
    {c : Char}
    (hWord : c ∈ w)
    (hText : c ∉ s) :
    occurrences w s = 0 := by
  induction s with
  | nil => exact occurrences_nil (List.ne_nil_of_mem hWord)
  | cons d s ih =>
      have hApart : ¬w <+: d :: s :=
        fun hBegins => hText (hBegins.subset hWord)
      rw [List.mem_cons, not_or] at hText
      rw [occurrences_cons, ih hText.2, if_neg hApart]

/-
  Texts that no occurrence lies across can be searched one
  after the other.
-/
theorem occurrences_append
    {a b : List Char}
    (hSome : w ≠ [])
    (hSeam :
      ∀ u v, u ≠ [] → v ≠ [] → u ++ v = w →
        u <:+ a → ¬v <+: b) :
    occurrences w (a ++ b) =
      occurrences w a + occurrences w b := by
  induction a with
  | nil => rw [occurrences_nil hSome, List.nil_append, Nat.zero_add]
  | cons c a ih =>
      have hRest :
          occurrences w (a ++ b) =
            occurrences w a + occurrences w b := by
        apply ih
        intro u v hU hV hWord hSuffix
        exact hSeam u v hU hV hWord
          (hSuffix.trans (List.suffix_cons c a))
      have hBegins :
          w <+: c :: (a ++ b) ↔ w <+: c :: a := by
        constructor
        · intro hAll
          rw [← List.cons_append] at hAll
          rcases List.prefix_or_prefix_of_prefix hAll
              (List.prefix_append (c :: a) b) with
            hWithin | ⟨v, hWord⟩
          · exact hWithin
          · rw [← hWord, List.prefix_append_right_inj] at hAll
            by_cases hV : v = []
            · rw [← hWord, hV, List.append_nil]
            · exact absurd hAll
                (hSeam (c :: a) v nofun hV hWord
                  List.suffix_rfl)
        · intro hWithin
          exact hWithin.trans (List.prefix_append (c :: a) b)
      rw [List.cons_append, occurrences_cons, occurrences_cons,
        hRest]
      simp only [hBegins]
      omega

/- No occurrence lies across what is not in the word. -/
theorem occurrences_separator
    {a b : List Char}
    {c : Char}
    (hSome : w ≠ [])
    (hApart : c ∉ w) :
    occurrences w (a ++ c :: b) =
      occurrences w a + occurrences w b := by
  have hFront : ¬w <+: c :: b := by
    cases w with
    | nil => exact absurd rfl hSome
    | cons d w =>
        rw [List.cons_prefix_cons]
        rintro ⟨rfl, -⟩
        exact hApart List.mem_cons_self
  rw [occurrences_append hSome, occurrences_cons, if_neg hFront,
    Nat.add_zero]
  intro u v _ hV hWord _ hPrefix
  cases v with
  | nil => exact hV rfl
  | cons d v =>
      rw [List.cons_prefix_cons] at hPrefix
      rw [← hWord, hPrefix.1] at hApart
      exact hApart (by simp)

/- A word that is part of a text occurs there. -/
theorem occurrences_pos
    (hInfix : w <:+: s) :
    0 < occurrences w s := by
  rcases hInfix with ⟨a, b, rfl⟩
  unfold occurrences
  rw [List.countP_pos_iff]
  refine ⟨w ++ b, ?_, ?_⟩
  · rw [List.mem_tails, List.append_assoc]
    exact List.suffix_append a (w ++ b)
  · rw [List.isPrefixOf_iff_prefix]
    exact List.prefix_append w b

------------------------------------------------------------
-- Texts on End
------------------------------------------------------------

/- No beginning of the word stands at the end of the text. -/
def EndsApart
    (w s : List Char) :
    Prop :=
  ∀ u ∈ w.inits, u ≠ [] → ¬u <:+ s

instance
    (w s : List Char) :
    Decidable (EndsApart w s) :=
  inferInstanceAs (Decidable (∀ u ∈ w.inits, _))

/- Such a text may end in a character that is not in it, -/
theorem endsApart_concat
    {c : Char}
    (hApart : c ∉ w)
    (front : List Char) :
    EndsApart w (front ++ [c]) := by
  intro u hU hSome hSuffix
  rw [List.mem_inits] at hU
  rcases List.suffix_concat_iff.mp hSuffix with
    rfl | ⟨v, rfl, _⟩
  · exact hSome rfl
  · exact hApart (hU.subset (by simp))

/- or lack the character that the word begins with. -/
theorem endsApart_of_head_not_mem
    {c : Char}
    (hText : c ∉ s) :
    EndsApart (c :: w) s := by
  intro u hU hSome hSuffix
  rw [List.mem_inits] at hU
  cases u with
  | nil => exact hSome rfl
  | cons d u =>
      rw [List.cons_prefix_cons] at hU
      exact hText (hSuffix.subset (by simp [hU.1]))

/- Two of them on end are one. -/
theorem EndsApart.append
    {a b : List Char}
    (hA : EndsApart w a)
    (hB : EndsApart w b) :
    EndsApart w (a ++ b) := by
  intro u hU hSome hSuffix
  rcases List.suffix_or_suffix_of_suffix hSuffix
      (List.suffix_append a b) with hWithin | ⟨v, rfl⟩
  · exact hB u hU hSome hWithin
  · -- Some of what is begun stands at the end of the first.
    rcases hSuffix with ⟨front, hFront⟩
    rw [← List.append_assoc, List.append_cancel_right_eq]
      at hFront
    rw [List.mem_inits] at hU
    by_cases hV : v = []
    · subst hV
      exact hB b ((List.mem_inits _ _).mpr hU) hSome
        List.suffix_rfl
    · exact hA v
        ((List.mem_inits _ _).mpr
          ((List.prefix_append v b).trans hU)) hV
        ⟨front, hFront⟩

/- The word occurs so often in the text, and is not begun. -/
structure Holds
    (w : List Char)
    (n : Nat)
    (s : List Char) :
    Prop where
  count : occurrences w s = n
  apart : EndsApart w s

instance
    (w : List Char)
    (n : Nat)
    (s : List Char) :
    Decidable (Holds w n s) :=
  decidable_of_iff (occurrences w s = n ∧ EndsApart w s)
    ⟨fun h => ⟨h.1, h.2⟩, fun h => ⟨h.count, h.apart⟩⟩

/- Nothing holds no word. -/
theorem holds_nil
    (hSome : w ≠ []) :
    Holds w 0 [] :=
  ⟨occurrences_nil hSome,
    fun _ _ hU hSuffix => hU (List.suffix_nil.mp hSuffix)⟩

/- Texts on end hold what each of them holds. -/
theorem Holds.append
    {a b : List Char}
    {m n : Nat}
    (hSome : w ≠ [])
    (hA : Holds w m a)
    (hB : Holds w n b) :
    Holds w (m + n) (a ++ b) := by
  refine ⟨?_, hA.apart.append hB.apart⟩
  rw [occurrences_append hSome, hA.count, hB.count]
  intro u v hU _ hWord hSuffix _
  refine hA.apart u ?_ hU hSuffix
  rw [List.mem_inits, ← hWord]
  exact List.prefix_append u v

/- So do texts that are not taken apart into characters. -/
theorem Holds.text_append
    {a b : String}
    {m n : Nat}
    (hSome : w ≠ [])
    (hA : Holds w m a.toList)
    (hB : Holds w n b.toList) :
    Holds w (m + n) (a ++ b).toList := by
  rw [String.toList_append]
  exact hA.append hSome hB

end ClientGen.Text
