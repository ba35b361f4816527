import ClientGen.Proofs.Code.NormalForm
import Mathlib.Data.List.Forall2

/-
  What a format means, item by item, and which item is to
  blame if it means nothing.

  Main declarations include:
    * `Format.Item.fault`
    * `Format.Faultless`
    * `Format.FirstFault`
    * `Format.mismatch_readItems`
    * `Format.faultless_iff`
    * `Format.itemAtoms`
    * `Code.ofFormat_outcome`

  An item takes the argument whose index is the number of
  takers in front of it.  So every item can be judged where
  it stands, without reading those before it, and reading
  stops at the first that is found at fault.
-/

namespace ClientGen.Java

namespace Format

------------------------------------------------------------
-- Items and Arguments
------------------------------------------------------------

/- The marks of the language. -/
def knownMarks :
    List Char :=
  ['T', 'N', 'S', 'L', '>', '<', '$']

/- A plain character, or one of the marks. -/
def Item.IsKnown : Item → Prop
  | .plain _ => True
  | .mark c => c ∈ knownMarks

instance
    (item : Item) :
    Decidable item.IsKnown := by
  cases item <;> unfold Item.IsKnown <;> infer_instance

/-
  Types are for `$T`, texts for `$N` and `$S`, and anything
  for `$L`.
-/
def Item.Takes : Item → Argument → Prop
  | .plain _, _ => False
  | .mark c, .type _ => c = 'T' ∨ c = 'L'
  | .mark c, .text _ => c = 'N' ∨ c = 'S' ∨ c = 'L'
  | .mark c, .code _ => c = 'L'

instance
    (item : Item)
    (argument : Argument) :
    Decidable (item.Takes argument) := by
  cases item <;> cases argument <;>
    unfold Item.Takes <;> infer_instance

/- The number of arguments that an item uses up. -/
def Item.cost
    (item : Item) :
    Nat :=
  if item.consumes then 1 else 0

/- The items that take an argument. -/
def takers
    (items : List Item) :
    List Item :=
  items.filter Item.consumes

@[simp]
theorem length_takers_cons
    (item : Item)
    (rest : List Item) :
    (takers (item :: rest)).length =
      item.cost + (takers rest).length := by
  unfold takers Item.cost
  by_cases hTakes : item.consumes = true <;>
    simp [hTakes, Nat.add_comm]

/- What takes an argument is a known mark. -/
theorem Item.IsKnown.of_consumes
    {item : Item}
    (hTakes : item.consumes = true) :
    item.IsKnown := by
  cases item with
  | plain c => trivial
  | mark c =>
      simp only [consumes, Bool.or_eq_true, beq_iff_eq]
        at hTakes
      simp only [IsKnown, knownMarks, List.mem_cons]
      tauto

/- A mark that takes an argument fits those it is for. -/
theorem fit_isSome_iff
    {c : Char}
    {argument : Argument}
    (hTakes : (Item.mark c).consumes = true) :
    (fit c argument).isSome = true ↔
      (Item.mark c).Takes argument := by
  simp only [Item.consumes, Bool.or_eq_true, beq_iff_eq]
    at hTakes
  rcases hTakes with ((rfl | rfl) | rfl) | rfl <;>
    cases argument <;> simp [fit, Item.Takes]

/- A mark that takes none has a meaning if it is known. -/
theorem standing_isSome_iff
    {c : Char}
    (hTakes : (Item.mark c).consumes = false) :
    (standing c).isSome = true ↔ (Item.mark c).IsKnown := by
  simp only [Item.consumes, Bool.or_eq_false_iff,
    beq_eq_false_iff_ne] at hTakes
  rcases hTakes with ⟨⟨⟨hT, hN⟩, hS⟩, hL⟩
  simp only [Item.IsKnown, knownMarks, List.mem_cons, hT, hN,
    hS, hL, false_or, List.not_mem_nil, or_false]
  fun_cases standing c <;> simp_all

------------------------------------------------------------
-- Faults
------------------------------------------------------------

/-
  What is wrong with an item that would take the argument of
  that index, if there is one.
-/
def Item.fault
    (index : Nat)
    (argument : Option Argument) :
    Item → Option Mismatch
  | .plain _ => none
  | .mark c =>
      if ¬(Item.mark c).IsKnown then some (.unknown c)
      else if (Item.mark c).consumes then
        match argument with
        | none => some .count
        | some argument =>
            if (Item.mark c).Takes argument then none
            else some (.kind c index)
      else none

/-
  What is wrong with an item behind others, if the first of
  all arguments has the given index.
-/
def faultBehind
    (start : Nat)
    (arguments : List Argument)
    (before : List Item)
    (item : Item) :
    Option Mismatch :=
  let taken := before.countP Item.consumes
  item.fault (start + taken) arguments[taken]?

/- Nothing is wrong with any of the items. -/
def Faultless
    (start : Nat)
    (arguments : List Argument)
    (items : List Item) :
    Prop :=
  ∀ before item after, items = before ++ item :: after →
    faultBehind start arguments before item = none

/- The first item with which something is wrong, and what. -/
def FirstFault
    (start : Nat)
    (arguments : List Argument)
    (items : List Item)
    (m : Mismatch) :
    Prop :=
  ∃ before item after, items = before ++ item :: after ∧
    Faultless start arguments before ∧
    faultBehind start arguments before item = some m

section

variable {start : Nat}
variable {arguments : List Argument}
variable {item : Item}
variable {rest : List Item}

/- Behind one more item there is one argument less. -/
theorem faultBehind_cons
    (before : List Item)
    (last : Item) :
    faultBehind start arguments (item :: before) last =
      faultBehind (start + item.cost)
        (arguments.drop item.cost) before last := by
  unfold faultBehind Item.cost
  by_cases hTakes : item.consumes = true
  · simp [hTakes, Nat.add_assoc, Nat.add_comm 1]
  · simp [hTakes]

@[simp]
theorem faultBehind_nil :
    faultBehind start arguments [] item =
      item.fault start arguments.head? := by
  simp [faultBehind, List.head?_eq_getElem?]

theorem faultless_nil :
    Faultless start arguments [] := by
  intro before item after hSplit
  cases before <;> cases hSplit

/- Items are judged from left to right. -/
theorem faultless_cons_iff :
    Faultless start arguments (item :: rest) ↔
      item.fault start arguments.head? = none ∧
        Faultless (start + item.cost)
          (arguments.drop item.cost) rest := by
  constructor
  · intro hAll
    refine ⟨?_, ?_⟩
    · simpa using hAll [] item rest rfl
    · rintro before last after rfl
      rw [← faultBehind_cons]
      exact hAll (item :: before) last after rfl
  · rintro ⟨hFirst, hRest⟩ before last after hSplit
    cases before with
    | nil =>
        cases hSplit
        simpa using hFirst
    | cons same before =>
        cases hSplit
        rw [faultBehind_cons]
        exact hRest before last after rfl

theorem not_firstFault_nil
    {m : Mismatch} :
    ¬FirstFault start arguments [] m := by
  rintro ⟨before, last, after, hSplit, -⟩
  cases before <;> cases hSplit

theorem firstFault_cons_iff
    {m : Mismatch} :
    FirstFault start arguments (item :: rest) m ↔
      item.fault start arguments.head? = some m ∨
        (item.fault start arguments.head? = none ∧
          FirstFault (start + item.cost)
            (arguments.drop item.cost) rest m) := by
  constructor
  · rintro ⟨before, last, after, hSplit, hBefore, hLast⟩
    cases before with
    | nil =>
        cases hSplit
        exact .inl (by simpa using hLast)
    | cons same before =>
        cases hSplit
        rcases faultless_cons_iff.mp hBefore with
          ⟨hFirst, hInner⟩
        rw [faultBehind_cons] at hLast
        exact .inr
          ⟨hFirst, before, last, after, rfl, hInner, hLast⟩
  · rintro (hFirst |
      ⟨hFirst, before, last, after, rfl, hInner, hLast⟩)
    · exact ⟨[], item, rest, rfl, faultless_nil,
        by simpa using hFirst⟩
    · refine ⟨item :: before, last, after, rfl,
        faultless_cons_iff.mpr ⟨hFirst, hInner⟩, ?_⟩
      rwa [faultBehind_cons]

end

------------------------------------------------------------
-- Reading
------------------------------------------------------------

/- Reading looks at the first item and goes on behind it. -/
theorem mismatch_readItems_cons
    (item : Item)
    (rest : List Item)
    (index : Nat)
    (arguments : List Argument) :
    (readItems (item :: rest) index arguments).mismatch =
      (item.fault index arguments.head?).or
        (readItems rest (index + item.cost)
          (arguments.drop item.cost)).mismatch := by
  cases item with
  | plain c =>
      simp [readItems, Item.fault, Item.cost, Item.consumes]
  | mark c =>
      conv_lhs => unfold readItems
      unfold Item.fault Item.cost
      by_cases hTakes : (Item.mark c).consumes = true
      · have hKnown := Item.IsKnown.of_consumes hTakes
        cases arguments with
        | nil => simp [hTakes, hKnown]
        | cons argument more =>
            have hFits :
                (fit c argument).isSome = true ↔
                  (Item.mark c).Takes argument :=
              fit_isSome_iff hTakes
            cases hFit : fit c argument with
            | none =>
                rw [hFit] at hFits
                simp only [Option.isSome_none,
                  Bool.false_eq_true, false_iff] at hFits
                simp [hTakes, hKnown, hFit, hFits]
            | some m =>
                rw [hFit] at hFits
                simp only [Option.isSome_some,
                  true_iff] at hFits
                simp [hTakes, hKnown, hFit, hFits]
      · have hStands :=
          standing_isSome_iff (Bool.eq_false_iff.mpr hTakes)
        cases hStanding : standing c with
        | none =>
            rw [hStanding] at hStands
            simp only [Option.isSome_none,
              Bool.false_eq_true, false_iff] at hStands
            simp [hTakes, hStands]
        | some m =>
            rw [hStanding] at hStands
            simp only [Option.isSome_some, true_iff] at hStands
            simp [hTakes, hStands]

/- An item without a fault has the argument that it takes. -/
theorem Item.cost_le_of_fault_eq_none
    {item : Item}
    {index : Nat}
    {arguments : List Argument}
    (hFault : item.fault index arguments.head? = none) :
    item.cost ≤ arguments.length := by
  cases arguments with
  | cons argument more =>
      unfold cost
      split <;> simp
  | nil =>
      unfold cost
      split
      · rename_i hTakes
        have hKnown := Item.IsKnown.of_consumes hTakes
        cases item with
        | plain c => cases hTakes
        | mark c => simp [fault, hKnown, hTakes] at hFault
      · simp

/-
  Reading tells the first fault.  Only if there is none are
  the arguments counted that no item has taken.
-/
theorem mismatch_readItems
    {items : List Item}
    {index : Nat}
    {arguments : List Argument}
    {m : Mismatch} :
    (readItems items index arguments).mismatch = some m ↔
      FirstFault index arguments items m ∨
        (Faultless index arguments items ∧
          (takers items).length < arguments.length ∧
          m = .count) := by
  induction items generalizing index arguments with
  | nil =>
      cases arguments <;>
        simp [readItems, not_firstFault_nil, faultless_nil,
          takers, eq_comm]
  | cons item rest ih =>
      rw [mismatch_readItems_cons, firstFault_cons_iff,
        faultless_cons_iff, length_takers_cons]
      cases hFault : item.fault index arguments.head? with
      | some first => simp
      | none =>
          have hEnough := Item.cost_le_of_fault_eq_none hFault
          have hLess :
              item.cost + (takers rest).length <
                  arguments.length ↔
                (takers rest).length <
                  (arguments.drop item.cost).length := by
            rw [List.length_drop]
            omega
          rw [Option.none_or, ih, hLess]
          simp

/- It tells nothing if all is in order and taken. -/
theorem mismatch_readItems_eq_none_iff
    {items : List Item}
    {index : Nat}
    {arguments : List Argument} :
    (readItems items index arguments).mismatch = none ↔
      Faultless index arguments items ∧
        (takers items).length = arguments.length := by
  induction items generalizing index arguments with
  | nil =>
      cases arguments <;>
        simp [readItems, faultless_nil, takers]
  | cons item rest ih =>
      rw [mismatch_readItems_cons, Option.or_eq_none_iff, ih,
        faultless_cons_iff, length_takers_cons,
        List.length_drop]
      constructor
      · rintro ⟨hFirst, hRest, hCount⟩
        have hEnough := Item.cost_le_of_fault_eq_none hFirst
        exact ⟨⟨hFirst, hRest⟩, by omega⟩
      · rintro ⟨⟨hFirst, hRest⟩, hCount⟩
        exact ⟨hFirst, hRest, by omega⟩

------------------------------------------------------------
-- Formats without a Fault
------------------------------------------------------------

/- Nothing is wrong with a known item that has what it takes. -/
theorem Item.fault_eq_none_iff
    {item : Item}
    {index : Nat}
    {argument : Option Argument} :
    item.fault index argument = none ↔
      item.IsKnown ∧
        (item.consumes = true →
          ∃ given, argument = some given ∧
            item.Takes given) := by
  cases item with
  | plain c => simp [fault, IsKnown, consumes]
  | mark c =>
      unfold fault
      by_cases hKnown : (Item.mark c).IsKnown
      · by_cases hTakes : (Item.mark c).consumes = true
        · cases argument <;> simp [hKnown, hTakes]
        · simp [hKnown, hTakes]
      · simp [hKnown]

/-
  Nothing is wrong, and no argument is left, if all items are
  known and the takers are as many as the arguments and take
  them, each its own.
-/
theorem faultless_iff
    {items : List Item}
    {start : Nat}
    {arguments : List Argument} :
    (Faultless start arguments items ∧
        (takers items).length = arguments.length) ↔
      (∀ item ∈ items, item.IsKnown) ∧
        List.Forall₂ Item.Takes (takers items) arguments := by
  induction items generalizing start arguments with
  | nil =>
      cases arguments <;>
        simp [faultless_nil, takers,
          List.forall₂_nil_left_iff]
  | cons item rest ih =>
      rw [faultless_cons_iff, Item.fault_eq_none_iff,
        List.forall_mem_cons]
      by_cases hTakes : item.consumes = true
      · have hCost : item.cost = 1 := if_pos hTakes
        have hTakers :
            takers (item :: rest) = item :: takers rest :=
          List.filter_cons_of_pos hTakes
        rw [hTakers, hCost]
        cases arguments with
        | nil => simp [hTakes, List.forall₂_nil_right_iff]
        | cons argument more =>
            have hRest := @ih (start + 1) more
            simp only [List.head?_cons, hTakes,
              Option.some.injEq, exists_eq_left', true_imp_iff,
              List.drop_succ_cons, List.drop_zero,
              List.length_cons, Nat.add_right_cancel_iff,
              List.forall₂_cons]
            tauto
      · have hCost : item.cost = 0 := if_neg hTakes
        have hTakers :
            takers (item :: rest) = takers rest :=
          List.filter_cons_of_neg hTakes
        have hRest := @ih start arguments
        rw [hTakers, hCost]
        simp only [hTakes, Bool.false_eq_true, false_imp_iff,
          and_true, Nat.add_zero, List.drop_zero]
        tauto

------------------------------------------------------------
-- What Items Write
------------------------------------------------------------

/- What an item writes that has taken an argument, or none. -/
def Item.atoms
    (argument : Option Argument) :
    Item → List Code.Atom
  | .plain c => [.char c]
  | .mark '$' => [.char '$']
  | .mark '>' => [.indent]
  | .mark '<' => [.unindent]
  | .mark c =>
      match argument with
      | some (.type t) => [.type t]
      | some (.code code) => Code.atoms code.parts
      | some (.text s) =>
          if c = 'S' then
            (stringLiteral s).toList.map .char
          else s.toList.map .char
      | none => []

/- What items write one after the other. -/
def itemAtoms :
    List Item → List Argument → List Code.Atom
  | [], _ => []
  | item :: rest, arguments =>
      item.atoms arguments.head? ++
        itemAtoms rest (arguments.drop item.cost)

/- What a mark makes of an argument is what it writes. -/
theorem atoms_fit
    {c : Char}
    {argument : Argument}
    {m : Meaning}
    (hFit : fit c argument = some m) :
    Code.atoms m.parts = (Item.mark c).atoms argument := by
  unfold fit at hFit
  split at hFit <;> cases hFit <;> simp [Item.atoms]

theorem atoms_standing
    {c : Char}
    {m : Meaning}
    (argument : Option Argument)
    (hStanding : standing c = some m) :
    Code.atoms m.parts = (Item.mark c).atoms argument := by
  unfold standing at hStanding
  split at hStanding <;> cases hStanding <;>
    simp [Item.atoms]

/- Items that are in order are read as what they write. -/
theorem atoms_readItems
    {items : List Item}
    {index : Nat}
    {arguments : List Argument}
    (hItems : Faultless index arguments items) :
    Code.atoms (readItems items index arguments).parts =
      itemAtoms items arguments := by
  induction items generalizing index arguments with
  | nil => cases arguments <;> rfl
  | cons item rest ih =>
      rcases faultless_cons_iff.mp hItems with
        ⟨hFirst, hRest⟩
      have hWritten := ih hRest
      rw [itemAtoms, ← hWritten]
      cases item with
      | plain c =>
          rw [readItems, atoms_parts_after]
          simp [Item.atoms, Item.cost, Item.consumes]
      | mark c =>
          rcases Item.fault_eq_none_iff.mp hFirst with
            ⟨hKnown, hArgument⟩
          unfold Item.cost
          conv_lhs => unfold readItems
          by_cases hTakes : (Item.mark c).consumes = true
          · rcases hArgument hTakes with
              ⟨argument, hHead, hFits⟩
            rcases List.head?_eq_some_iff.mp hHead with
              ⟨more, rfl⟩
            rcases Option.isSome_iff_exists.mp
                ((fit_isSome_iff hTakes).mpr hFits) with
              ⟨m, hFit⟩
            simp [hTakes, hFit, atoms_fit hFit]
          · rcases Option.isSome_iff_exists.mp
                ((standing_isSome_iff
                  (Bool.eq_false_iff.mpr hTakes)).mpr hKnown)
              with ⟨m, hStanding⟩
            simp [hTakes, hStanding,
              atoms_standing arguments.head? hStanding]

/- Lists that are related index by index. -/
theorem forall₂_iff_getElem?
    {items : List Item}
    {arguments : List Argument} :
    List.Forall₂ Item.Takes items arguments ↔
      items.length = arguments.length ∧
        ∀ (i : Nat) item argument,
          items[i]? = some item →
          arguments[i]? = some argument →
            item.Takes argument := by
  rw [List.forall₂_iff_get]
  simp only [List.getElem?_eq_some_iff, List.get_eq_getElem]
  constructor
  · rintro ⟨hLength, hAll⟩
    refine ⟨hLength, ?_⟩
    rintro i _ _ ⟨hItem, rfl⟩ ⟨hArgument, rfl⟩
    exact hAll i hItem hArgument
  · rintro ⟨hLength, hAll⟩
    exact ⟨hLength, fun i hItem hArgument =>
      hAll i _ _ ⟨hItem, rfl⟩ ⟨hArgument, rfl⟩⟩

------------------------------------------------------------
-- Counts
------------------------------------------------------------

/- A format takes as many arguments as it has takers. -/
theorem demand_eq
    (format : String) :
    demand format = (takers (items format.toList)).length :=
  List.countP_eq_length_filter

/- The arguments run out only in front of a taker. -/
theorem length_lt_of_firstFault_count
    {items : List Item}
    {start : Nat}
    {arguments : List Argument}
    (hFault : FirstFault start arguments items .count) :
    arguments.length < (takers items).length := by
  rcases hFault with ⟨before, item, after, rfl, -, hItem⟩
  have hTakes :
      item.consumes = true ∧
        arguments[before.countP Item.consumes]? = none := by
    simp only [faultBehind, Item.fault] at hItem
    cases item with
    | plain c => cases hItem
    | mark c =>
        simp only at hItem
        split at hItem
        · cases hItem
        · split at hItem
          · rename_i hTakes
            cases hGiven :
                arguments[before.countP Item.consumes]? with
            | none => exact ⟨hTakes, rfl⟩
            | some argument =>
                rw [hGiven] at hItem
                split at hItem <;> simp_all
          · cases hItem
  have hShort := List.getElem?_eq_none_iff.mp hTakes.2
  unfold takers
  rw [List.filter_append, List.length_append,
    List.filter_cons_of_pos hTakes.1, List.length_cons,
    ← List.countP_eq_length_filter]
  omega

end Format

------------------------------------------------------------
-- Outcomes
------------------------------------------------------------

/- A format that does not fit is reported. -/
theorem Code.ofFormat_eq_error_iff
    {format : String}
    {arguments : List Argument}
    {e : CodeError} :
    ofFormat format arguments = .error e ↔
      ∃ m, (Format.read format arguments).mismatch = some m ∧
        e = m.error format arguments := by
  simp only [ofFormat]
  cases (Format.read format arguments).mismatch <;>
    simp [eq_comm]

open Format in
/-
  A format makes code exactly if all of its items are known
  and its takers are as many as the arguments, each of which
  is taken by the taker of the same index.  The code is then
  what the items write.  Otherwise the first item at fault
  decides what is reported, and only if there is none are
  arguments left over.  Whenever a number of arguments is
  reported it is that of all takers, and another one than
  that of the arguments.
-/
theorem Code.ofFormat_outcome
    (format : String)
    (arguments : List Argument) :
    (∀ code, ofFormat format arguments = .ok code ↔
      (∀ item ∈ items format.toList, item.IsKnown) ∧
        (takers (items format.toList)).length =
          arguments.length ∧
        (∀ (i : Nat) taker argument,
          (takers (items format.toList))[i]? = some taker →
          arguments[i]? = some argument →
            taker.Takes argument) ∧
        code.Normal ∧
        atoms code.parts =
          itemAtoms (items format.toList) arguments) ∧
    (∀ e, ofFormat format arguments = .error e ↔
      (∃ m, FirstFault 0 arguments (items format.toList) m ∧
        e = m.error format arguments) ∨
      (Faultless 0 arguments (items format.toList) ∧
        (takers (items format.toList)).length <
          arguments.length ∧
        e = .argumentCount format
          (takers (items format.toList)).length
          arguments.length)) ∧
    (∀ f expected actual,
      ofFormat format arguments =
          .error (.argumentCount f expected actual) →
        f = format ∧
          expected =
            (takers (items format.toList)).length ∧
          actual = arguments.length ∧
          expected ≠ actual) := by
  have hMismatch :
      ∀ m, (read format arguments).mismatch = some m ↔
        FirstFault 0 arguments (items format.toList) m ∨
          (Faultless 0 arguments (items format.toList) ∧
            (takers (items format.toList)).length <
              arguments.length ∧
            m = .count) :=
    fun m => mismatch_readItems
  have hCount :
      Mismatch.count.error format arguments =
        .argumentCount format
          (takers (items format.toList)).length
          arguments.length := by
    rw [Mismatch.error, demand_eq]
  refine ⟨?accepted, ?refused, ?counted⟩
  case accepted =>
    intro code
    constructor
    · intro hCode
      rcases ofFormat_eq_ok_iff.mp hCode with ⟨hFits, rfl⟩
      rcases mismatch_readItems_eq_none_iff.mp
          (fits_iff.mp hFits) with ⟨hItems, hLength⟩
      rcases faultless_iff.mp ⟨hItems, hLength⟩ with
        ⟨hKnown, hTakes⟩
      refine ⟨hKnown, hLength, ?_, normal_ofParts _, ?_⟩
      · exact forall₂_iff_getElem?.mp hTakes |>.2
      · rw [atoms_ofParts]
        exact atoms_readItems hItems
    · rintro ⟨hKnown, hLength, hTakes, hNormal, hAtoms⟩
      rcases faultless_iff.mpr
          ⟨hKnown, forall₂_iff_getElem?.mpr
            ⟨hLength, hTakes⟩⟩ with ⟨hItems, -⟩
      refine ofFormat_eq_ok_iff.mpr ⟨?_, ?_⟩
      · exact fits_iff.mpr (mismatch_readItems_eq_none_iff.mpr
          ⟨hItems, hLength⟩)
      · rw [← hNormal.ofParts_parts]
        refine ofParts_eq_of_atoms ?_
        rw [hAtoms]
        exact atoms_readItems hItems
  case refused =>
    intro e
    rw [ofFormat_eq_error_iff]
    constructor
    · rintro ⟨m, hRead, rfl⟩
      rcases (hMismatch m).mp hRead with
        hFault | ⟨hItems, hLess, rfl⟩
      · exact .inl ⟨m, hFault, rfl⟩
      · exact .inr ⟨hItems, hLess, hCount⟩
    · rintro (⟨m, hFault, rfl⟩ | ⟨hItems, hLess, rfl⟩)
      · exact ⟨m, (hMismatch m).mpr (.inl hFault), rfl⟩
      · exact ⟨.count, (hMismatch .count).mpr
          (.inr ⟨hItems, hLess, rfl⟩), hCount.symm⟩
  case counted =>
    intro f expected actual hError
    rcases ofFormat_eq_error_iff.mp hError with
      ⟨m, hRead, hSame⟩
    have hMark : m = .count := by
      cases m with
      | count => rfl
      | _ => cases hSame
    subst hMark
    rw [hCount] at hSame
    cases hSame
    refine ⟨rfl, rfl, rfl, ?_⟩
    rcases (hMismatch .count).mp hRead with
      hFault | ⟨-, hLess, -⟩
    · exact (length_lt_of_firstFault_count hFault).ne'
    · exact hLess.ne

/- A call whose last argument is not given. -/
def shortCall : String :=
  "$T.of($S, $L)$"

def shortArguments : List Argument :=
  [.type (.class ⟨"java.util", "Map", []⟩), .text "a"]

open Format in
/-
  The argument that is missing comes before the mark that is
  cut off.
-/
theorem Code.ofFormat_outcome_shortCall :
    FirstFault 0 shortArguments (items shortCall.toList)
        .count ∧
      ofFormat shortCall shortArguments =
        .error (.argumentCount shortCall 3 2) := by
  have hBefore :
      Faultless 0 shortArguments
        (items "$T.of($S, ".toList) :=
    (mismatch_readItems_eq_none_iff.mp (by decide)).1
  have hFault :
      FirstFault 0 shortArguments (items shortCall.toList)
        .count :=
    ⟨items "$T.of($S, ".toList, .mark 'L',
      [.plain ')', .mark ' '], by decide, hBefore,
      by decide⟩
  refine ⟨hFault, ?_⟩
  exact ((Code.ofFormat_outcome shortCall shortArguments).2.1
    _).mpr (.inl ⟨.count, hFault, by decide⟩)

end ClientGen.Java
