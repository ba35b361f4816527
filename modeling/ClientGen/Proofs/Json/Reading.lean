import ClientGen.Json.Value
import ClientGen.Proofs.Json.Lexing

/-
  A value that was written is read again.

  Main declarations include:
    * `Value.isWhole`
    * `Value.isPlain`
    * `foldl_take_tokens`
    * `Document.ofText_spell`

  Reading goes from where a value is awaited, within any
  lists and objects still open, to where the value is
  complete in them.
-/

namespace ClientGen.Json

------------------------------------------------------------
-- Whole Values
------------------------------------------------------------

mutual

/- A value that was not cut short, at any depth. -/
def Value.isWhole : Value → Bool
  | .null => true
  | .bool _ => true
  | .number _ => true
  | .string _ => true
  | .array items ending =>
      ending == .closed && itemsWhole items
  | .object members ending =>
      ending == .closed && membersWhole members
  | .broken => false

/- All values of a list are whole. -/
def itemsWhole : List Value → Bool
  | [] => true
  | v :: rest => v.isWhole && itemsWhole rest

/- All members have whole values. -/
def membersWhole : List (Option String × Value) → Bool
  | [] => true
  | (_, v) :: rest => v.isWhole && membersWhole rest

end

------------------------------------------------------------
-- Plain Values
------------------------------------------------------------

mutual

/-
  A value that was not cut short and holds no numbers, and
  whose strings are all texts.
-/
def Value.isPlain : Value → Bool
  | .null => true
  | .bool _ => true
  | .number _ => false
  | .string s => s.isSome
  | .array items ending =>
      ending == .closed && itemsPlain items
  | .object members ending =>
      ending == .closed && membersPlain members
  | .broken => false

/- All values of a list are plain. -/
def itemsPlain : List Value → Bool
  | [] => true
  | v :: rest => v.isPlain && itemsPlain rest

/- All members have names and plain values. -/
def membersPlain : List (Option String × Value) → Bool
  | [] => true
  | (key, v) :: rest =>
      key.isSome && (v.isPlain && membersPlain rest)

end

/- A text is a plain value. -/
@[simp]
theorem Value.isPlain_ofString
    (s : String) :
    (Value.ofString s).isPlain = true :=
  rfl

/- Members with plain values are a plain object. -/
theorem Value.isPlain_ofMembers
    {members : List (String × Value)}
    (hPlain : ∀ m ∈ members, m.2.isPlain = true) :
    (Value.ofMembers members).isPlain = true := by
  unfold Value.ofMembers
  rw [Value.isPlain]
  rw [Bool.and_eq_true]
  refine ⟨rfl, ?_⟩
  induction members with
  | nil => rfl
  | cons m rest ih =>
      rcases List.forall_mem_cons.mp hPlain with
        ⟨hFirst, hRest⟩
      rw [List.map_cons, membersPlain, hFirst, ih hRest]
      rfl

mutual

/- A plain value is whole. -/
theorem Value.isWhole_of_isPlain :
    (v : Value) → v.isPlain = true → v.isWhole = true
  | .null, _ => rfl
  | .bool _, _ => rfl
  | .number _, _ => rfl
  | .string _, _ => rfl
  | .array items _, hPlain => by
      rw [Value.isPlain, Bool.and_eq_true] at hPlain
      rw [Value.isWhole, Bool.and_eq_true]
      exact ⟨hPlain.1, itemsWhole_of_plain items hPlain.2⟩
  | .object members _, hPlain => by
      rw [Value.isPlain, Bool.and_eq_true] at hPlain
      rw [Value.isWhole, Bool.and_eq_true]
      exact ⟨hPlain.1, membersWhole_of_plain members hPlain.2⟩
  | .broken, hPlain => hPlain

/- So are the values of a list. -/
theorem itemsWhole_of_plain :
    (items : List Value) → itemsPlain items = true →
      itemsWhole items = true
  | [], _ => rfl
  | v :: rest, hPlain => by
      rw [itemsPlain, Bool.and_eq_true] at hPlain
      rw [itemsWhole, Bool.and_eq_true]
      exact ⟨v.isWhole_of_isPlain hPlain.1,
        itemsWhole_of_plain rest hPlain.2⟩

/- So are the members of an object. -/
theorem membersWhole_of_plain :
    (members : List (Option String × Value)) →
      membersPlain members = true →
        membersWhole members = true
  | [], _ => rfl
  | (key, v) :: rest, hPlain => by
      rw [membersPlain, Bool.and_eq_true, Bool.and_eq_true]
        at hPlain
      rw [membersWhole, Bool.and_eq_true]
      exact ⟨v.isWhole_of_isPlain hPlain.2.1,
        membersWhole_of_plain rest hPlain.2.2⟩

end

------------------------------------------------------------
-- Tokens of Plain Values
------------------------------------------------------------

mutual

/- A plain value has plain tokens. -/
theorem Value.tokens_isPlain :
    (v : Value) → v.isPlain = true →
      ∀ t ∈ v.tokens, t.isPlain = true
  | .null, _ => by simp [Value.tokens, Token.isPlain]
  | .bool _, _ => by simp [Value.tokens, Token.isPlain]
  | .number _, hPlain => by cases hPlain
  | .string _, hPlain => by
      rw [Value.isPlain] at hPlain
      simpa [Value.tokens, Token.isPlain] using hPlain
  | .array items _, hPlain => by
      rw [Value.isPlain, Bool.and_eq_true] at hPlain
      have hItems := itemTokens_isPlain items hPlain.2
      simp only [Value.tokens, List.mem_cons, List.mem_append]
      rintro t (rfl | hMem | rfl | hNone)
      · rfl
      · exact hItems t hMem
      · rfl
      · cases hNone
  | .object members _, hPlain => by
      rw [Value.isPlain, Bool.and_eq_true] at hPlain
      have hMembers := memberTokens_isPlain members hPlain.2
      simp only [Value.tokens, List.mem_cons, List.mem_append]
      rintro t (rfl | hMem | rfl | hNone)
      · rfl
      · exact hMembers t hMem
      · rfl
      · cases hNone
  | .broken, hPlain => by cases hPlain

/- So do the values of a list. -/
theorem itemTokens_isPlain :
    (items : List Value) → itemsPlain items = true →
      ∀ t ∈ itemTokens items, t.isPlain = true
  | [], _ => by simp [itemTokens]
  | [v], hPlain => by
      rw [itemsPlain, Bool.and_eq_true] at hPlain
      exact v.tokens_isPlain hPlain.1
  | v :: next :: more, hPlain => by
      rw [itemsPlain, Bool.and_eq_true] at hPlain
      have hFirst := v.tokens_isPlain hPlain.1
      have hRest :=
        itemTokens_isPlain (next :: more) hPlain.2
      rw [itemTokens]
      simp only [List.mem_append, List.mem_cons]
      rintro t (hMem | rfl | hMem)
      · exact hFirst t hMem
      · rfl
      · exact hRest t hMem

/- So do the members of an object. -/
theorem memberTokens_isPlain :
    (members : List (Option String × Value)) →
      membersPlain members = true →
        ∀ t ∈ memberTokens members, t.isPlain = true
  | [], _ => by simp [memberTokens]
  | [(key, v)], hPlain => by
      rw [membersPlain, Bool.and_eq_true, Bool.and_eq_true]
        at hPlain
      have hFirst := v.tokens_isPlain hPlain.2.1
      simp only [memberTokens, List.mem_cons]
      rintro t (rfl | rfl | hMem)
      · exact hPlain.1
      · rfl
      · exact hFirst t hMem
  | (key, v) :: next :: more, hPlain => by
      rw [membersPlain, Bool.and_eq_true, Bool.and_eq_true]
        at hPlain
      have hFirst := v.tokens_isPlain hPlain.2.1
      have hRest :=
        memberTokens_isPlain (next :: more) hPlain.2.2
      rw [memberTokens]
      simp only [List.mem_append, List.mem_cons]
      rintro t (rfl | rfl | hMem | rfl | hMem)
      · exact hPlain.1
      · rfl
      · exact hFirst t hMem
      · rfl
      · exact hRest t hMem

end

------------------------------------------------------------
-- Reading Values
------------------------------------------------------------

/- Where a first item is awaited, any value can begin. -/
theorem foldl_take_firstItem
    {v : Value}
    (hWhole : v.isWhole = true)
    (rest : List Value)
    (frames : List Frame) :
    (itemTokens (v :: rest)).foldl Reader.take
        (.reading .firstItem frames) =
      (itemTokens (v :: rest)).foldl Reader.take
        (.reading .value frames) := by
  have hTokens :
      ∃ t more, itemTokens (v :: rest) = t :: more ∧
        t ≠ .endArray := by
    have hFirst :
        ∃ t more, v.tokens = t :: more ∧ t ≠ .endArray := by
      cases v with
      | null => exact ⟨_, _, rfl, by simp⟩
      | bool b => exact ⟨_, _, rfl, by simp⟩
      | number n => exact ⟨_, _, rfl, by simp⟩
      | string s => exact ⟨_, _, rfl, by simp⟩
      | array items ending => exact ⟨_, _, rfl, by simp⟩
      | object members ending => exact ⟨_, _, rfl, by simp⟩
      | broken => cases hWhole
    rcases hFirst with ⟨t, more, hTokens, hOther⟩
    cases rest with
    | nil => exact ⟨t, more, hTokens, hOther⟩
    | cons next others =>
        rw [itemTokens, hTokens]
        exact ⟨t, _, rfl, hOther⟩
  rcases hTokens with ⟨t, more, hTokens, hOther⟩
  rw [hTokens, List.foldl_cons, List.foldl_cons]
  simp only [Reader.take, if_neg hOther]

/- Where a first name is awaited, any name can come. -/
theorem foldl_take_firstKey
    (m : Option String × Value)
    (rest : List (Option String × Value))
    (frames : List Frame) :
    (memberTokens (m :: rest)).foldl Reader.take
        (.reading .firstKey frames) =
      (memberTokens (m :: rest)).foldl Reader.take
        (.reading .key frames) := by
  rcases m with ⟨key, v⟩
  cases rest with
  | nil => rfl
  | cons next more => rfl

mutual

/- The tokens of a value are read as that value. -/
theorem foldl_take_tokens :
    (v : Value) → v.isWhole = true →
      ∀ frames, v.tokens.foldl Reader.take
          (.reading .value frames) =
        Reader.complete v frames
  | .null, _, _ => rfl
  | .bool _, _, _ => rfl
  | .number _, _, _ => rfl
  | .string _, _, _ => rfl
  | .array items ending, hWhole, frames => by
      rw [Value.isWhole, Bool.and_eq_true, beq_iff_eq]
        at hWhole
      rcases hWhole with ⟨rfl, hItems⟩
      have hAll := foldl_take_itemTokens items hItems
      cases items with
      | nil => rfl
      | cons v rest =>
          rw [itemsWhole, Bool.and_eq_true] at hItems
          rw [Value.tokens, List.foldl_cons,
            List.foldl_append]
          simp only [Reader.take, Reader.takeValue]
          rw [foldl_take_firstItem hItems.1,
            hAll (List.cons_ne_nil v rest)]
          simp [Reader.take, Reader.takeSeparator]
  | .object members ending, hWhole, frames => by
      rw [Value.isWhole, Bool.and_eq_true, beq_iff_eq]
        at hWhole
      rcases hWhole with ⟨rfl, hMembers⟩
      have hAll := foldl_take_memberTokens members hMembers
      cases members with
      | nil => rfl
      | cons m rest =>
          rw [Value.tokens, List.foldl_cons,
            List.foldl_append]
          simp only [Reader.take, Reader.takeValue]
          rw [foldl_take_firstKey,
            hAll (List.cons_ne_nil m rest)]
          simp [Reader.take, Reader.takeSeparator]
  | .broken, hWhole, _ => by cases hWhole

/- The tokens of further values are read into a list. -/
theorem foldl_take_itemTokens :
    (items : List Value) → itemsWhole items = true →
      items ≠ [] →
        ∀ before frames,
          (itemTokens items).foldl Reader.take
              (.reading .value (.array before :: frames)) =
            .reading .separator
              (.array (items.reverse ++ before) :: frames)
  | [], _, hSome, _, _ => absurd rfl hSome
  | [v], hWhole, _, before, frames => by
      rw [itemsWhole, Bool.and_eq_true] at hWhole
      rw [itemTokens, foldl_take_tokens v hWhole.1]
      rfl
  | v :: next :: more, hWhole, _, before, frames => by
      rw [itemsWhole, Bool.and_eq_true] at hWhole
      rw [itemTokens, List.foldl_append,
        foldl_take_tokens v hWhole.1, List.foldl_cons]
      simp only [Reader.complete, Reader.take,
        Reader.takeSeparator]
      rw [foldl_take_itemTokens (next :: more) hWhole.2
        (List.cons_ne_nil next more)]
      simp

/- The tokens of further members are read into an object. -/
theorem foldl_take_memberTokens :
    (members : List (Option String × Value)) →
      membersWhole members = true → members ≠ [] →
        ∀ before frames,
          (memberTokens members).foldl Reader.take
              (.reading .key (.object before :: frames)) =
            .reading .separator
              (.object (members.reverse ++ before) :: frames)
  | [], _, hSome, _, _ => absurd rfl hSome
  | [(key, v)], hWhole, _, before, frames => by
      rw [membersWhole, Bool.and_eq_true] at hWhole
      rw [memberTokens, List.foldl_cons, List.foldl_cons]
      simp only [Reader.take, Reader.takeKey, if_true]
      rw [foldl_take_tokens v hWhole.1]
      rfl
  | (key, v) :: next :: more, hWhole, _, before, frames => by
      rw [membersWhole, Bool.and_eq_true] at hWhole
      rw [memberTokens, List.foldl_cons, List.foldl_cons]
      simp only [Reader.take, Reader.takeKey, if_true]
      rw [List.foldl_append, foldl_take_tokens v hWhole.1,
        List.foldl_cons]
      simp only [Reader.complete, Reader.take,
        Reader.takeSeparator]
      rw [foldl_take_memberTokens (next :: more) hWhole.2
        (List.cons_ne_nil next more)]
      simp

end

------------------------------------------------------------
-- Documents
------------------------------------------------------------

/- The document of a written value holds it and no more. -/
theorem Document.ofText_spell
    {v : Value}
    (hPlain : v.isPlain = true) :
    Document.ofText v.spell = ⟨v, false⟩ := by
  unfold Document.ofText Value.spell
  rw [String.toList_ofList,
    tokens_flatMap_spell (v.tokens_isPlain hPlain),
    foldl_take_tokens v (v.isWhole_of_isPlain hPlain)]
  rfl

end ClientGen.Json
