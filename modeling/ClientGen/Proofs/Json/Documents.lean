import ClientGen.Proofs.Json.Grammar
import ClientGen.Proofs.Json.Reading
import ClientGen.Proofs.Json.Records

/-
  The texts of a value, and that reading one is the same as
  finding the value that it is a text of.

  Main declarations include:
    * `Value.SpelledAs`
    * `Took`
    * `took_foldl_take`
    * `Document.ofText_eq_iff`
    * `Value.SpelledAs.unique`
    * `Record.exists_spelled_of_readDocument`

  A value has many texts, which differ in white space, in the
  escapes of strings and in the form of exponents.  A reader
  that is under way has taken the tokens in front of what its
  frames still wait for, and that goes on to hold with every
  further token.
-/

namespace ClientGen.Json

------------------------------------------------------------
-- Texts of Values
------------------------------------------------------------

/- The text is a way to write the value. -/
def Value.SpelledAs
    (v : Value)
    (text : String) :
    Prop :=
  v.isWhole = true ∧ TokensSpelled v.tokens text.toList

mutual

/- Numbers end before a divider, so what follows may be one. -/
theorem Value.separated_append :
    (v : Value) → ∀ more, Separated more →
      (∀ t ∈ more.head?, t.isDivider = true) →
        Separated (v.tokens ++ more)
  | .null, _, hMore, _ => hMore
  | .bool _, _, hMore, _ => hMore
  | .number _, [], _, _ => trivial
  | .number _, t :: _, hMore, hDivider =>
      ⟨hDivider t rfl, hMore⟩
  | .string _, _, hMore, _ => hMore
  | .array items _, more, hMore, _ => by
      rw [Value.tokens, List.cons_append, List.append_assoc]
      exact itemTokens_separated items _ hMore
        (by rintro t ⟨⟩; rfl)
  | .object members _, more, hMore, _ => by
      rw [Value.tokens, List.cons_append, List.append_assoc]
      exact memberTokens_separated members _ hMore
        (by rintro t ⟨⟩; rfl)
  | .broken, _, hMore, _ => hMore

/- So do the numbers of a list. -/
theorem itemTokens_separated :
    (items : List Value) → ∀ more, Separated more →
      (∀ t ∈ more.head?, t.isDivider = true) →
        Separated (itemTokens items ++ more)
  | [], _, hMore, _ => hMore
  | [v], more, hMore, hDivider =>
      v.separated_append more hMore hDivider
  | v :: next :: rest, more, hMore, hDivider => by
      rw [itemTokens, List.append_assoc]
      apply v.separated_append
      · exact itemTokens_separated (next :: rest) more hMore
          hDivider
      · rintro t ⟨⟩
        rfl

/- So do the numbers of an object. -/
theorem memberTokens_separated :
    (members : List (Option String × Value)) → ∀ more,
      Separated more →
        (∀ t ∈ more.head?, t.isDivider = true) →
          Separated (memberTokens members ++ more)
  | [], _, hMore, _ => hMore
  | [(_, v)], more, hMore, hDivider =>
      v.separated_append more hMore hDivider
  | (_, v) :: next :: rest, more, hMore, hDivider => by
      rw [memberTokens, List.cons_append, List.cons_append,
        List.append_assoc]
      apply v.separated_append
      · exact memberTokens_separated (next :: rest) more hMore
          hDivider
      · rintro t ⟨⟩
        rfl

end

/- The tokens of a value can be told apart in any text. -/
theorem Value.separated_tokens
    (v : Value) :
    Separated v.tokens := by
  have hAlone :=
    v.separated_append [] trivial (by rintro t ⟨⟩)
  rwa [List.append_nil] at hAlone

mutual

/- A whole value has good tokens only. -/
theorem Value.bad_not_mem_tokens :
    (v : Value) → v.isWhole = true → .bad ∉ v.tokens
  | .null, _ => by simp [Value.tokens]
  | .bool _, _ => by simp [Value.tokens]
  | .number _, _ => by simp [Value.tokens]
  | .string _, _ => by simp [Value.tokens]
  | .array items _, hWhole => by
      rw [Value.isWhole, Bool.and_eq_true] at hWhole
      have hItems := bad_not_mem_itemTokens items hWhole.2
      simp [Value.tokens, hItems]
  | .object members _, hWhole => by
      rw [Value.isWhole, Bool.and_eq_true] at hWhole
      have hMembers :=
        bad_not_mem_memberTokens members hWhole.2
      simp [Value.tokens, hMembers]
  | .broken, hWhole => by cases hWhole

/- So have the values of a list. -/
theorem bad_not_mem_itemTokens :
    (items : List Value) → itemsWhole items = true →
      .bad ∉ itemTokens items
  | [], _ => by simp [itemTokens]
  | [v], hWhole => by
      rw [itemsWhole, Bool.and_eq_true] at hWhole
      exact v.bad_not_mem_tokens hWhole.1
  | v :: next :: rest, hWhole => by
      rw [itemsWhole, Bool.and_eq_true] at hWhole
      have hFirst := v.bad_not_mem_tokens hWhole.1
      have hRest :=
        bad_not_mem_itemTokens (next :: rest) hWhole.2
      simp [itemTokens, hFirst, hRest]

/- So have the members of an object. -/
theorem bad_not_mem_memberTokens :
    (members : List (Option String × Value)) →
      membersWhole members = true →
        .bad ∉ memberTokens members
  | [], _ => by simp [memberTokens]
  | [(_, v)], hWhole => by
      rw [membersWhole, Bool.and_eq_true] at hWhole
      have hFirst := v.bad_not_mem_tokens hWhole.1
      simp [memberTokens, hFirst]
  | (_, v) :: next :: rest, hWhole => by
      rw [membersWhole, Bool.and_eq_true] at hWhole
      have hFirst := v.bad_not_mem_tokens hWhole.1
      have hRest :=
        bad_not_mem_memberTokens (next :: rest) hWhole.2
      simp [memberTokens, hFirst, hRest]

end

/- A text of a value is read as that value and no more. -/
theorem Value.SpelledAs.ofText
    {v : Value}
    {text : String}
    (hText : v.SpelledAs text) :
    Document.ofText text = ⟨v, false⟩ := by
  unfold Document.ofText
  rw [tokens_eq_of_spelled hText.2 v.separated_tokens,
    foldl_take_tokens v hText.1]
  rfl

/- White space in front of a text does not matter. -/
theorem Value.SpelledAs.spacing_append
    {v : Value}
    {space text : String}
    (hText : v.SpelledAs text)
    (hSpace : IsSpacing space.toList) :
    v.SpelledAs (space ++ text) := by
  refine ⟨hText.1, ?_⟩
  rw [String.toList_append]
  exact hText.2.spacing_append hSpace

/- So no text is a text of two values. -/
theorem Value.SpelledAs.unique
    {v w : Value}
    {text : String}
    (hV : v.SpelledAs text)
    (hW : w.SpelledAs text) :
    v = w := by
  have hSame := hV.ofText.symm.trans hW.ofText
  cases hSame
  rfl

------------------------------------------------------------
-- Frames
------------------------------------------------------------

/- Values with a comma after each. -/
def listedItems
    (items : List Value) :
    List Token :=
  items.flatMap fun v => v.tokens ++ [.comma]

/- Members with a comma after each. -/
def listedMembers
    (members : List Member) :
    List Token :=
  members.flatMap fun (key, v) =>
    .string key :: .colon :: (v.tokens ++ [.comma])

/- The tokens before the next value or name in a frame. -/
def Frame.lead : Frame → List Token
  | .array items => .beginArray :: listedItems items.reverse
  | .object members =>
      .beginObject :: listedMembers members.reverse
  | .member members key =>
      .beginObject :: (listedMembers members.reverse ++
        [.string key, .colon])

/- The tokens of all frames, outermost first. -/
def leads
    (frames : List Frame) :
    List Token :=
  frames.reverse.flatMap Frame.lead

/- A frame that waits for a value and holds whole ones. -/
def Frame.AwaitsValue : Frame → Prop
  | .array items => itemsWhole items = true
  | .object _ => False
  | .member members _ => membersWhole members = true

/- The tokens of the innermost frame come last. -/
theorem leads_cons
    (frame : Frame)
    (frames : List Frame) :
    leads (frame :: frames) = leads frames ++ frame.lead := by
  simp [leads]

/- A comma ends the last of some values. -/
theorem itemTokens_append_comma :
    {items : List Value} → items ≠ [] →
      itemTokens items ++ [.comma] = listedItems items
  | [], hSome => absurd rfl hSome
  | [v], _ => by simp [itemTokens, listedItems]
  | v :: next :: rest, _ => by
      have hRest :=
        itemTokens_append_comma (List.cons_ne_nil next rest)
      rw [itemTokens, List.append_assoc, List.cons_append,
        hRest]
      simp [listedItems]

/- A comma ends the last of some members. -/
theorem memberTokens_append_comma :
    {members : List Member} → members ≠ [] →
      memberTokens members ++ [.comma] = listedMembers members
  | [], hSome => absurd rfl hSome
  | [(_, v)], _ => by simp [memberTokens, listedMembers]
  | (_, v) :: next :: rest, _ => by
      have hRest :=
        memberTokens_append_comma (List.cons_ne_nil next rest)
      rw [memberTokens, List.cons_append, List.cons_append,
        List.append_assoc, List.cons_append, hRest]
      simp [listedMembers]

/- Values are whole in any order. -/
theorem itemsWhole_eq_true_iff
    {items : List Value} :
    itemsWhole items = true ↔
      ∀ v ∈ items, v.isWhole = true := by
  induction items with
  | nil => simp [itemsWhole]
  | cons v rest ih => simp [itemsWhole, ih]

/- So are members. -/
theorem membersWhole_eq_true_iff
    {members : List Member} :
    membersWhole members = true ↔
      ∀ m ∈ members, m.2.isWhole = true := by
  induction members with
  | nil => simp [membersWhole]
  | cons m rest ih => simp [membersWhole, ih]

/- A list that is closed is whole if its values are. -/
theorem isWhole_closedArray
    {items : List Value}
    (hWhole : itemsWhole items = true) :
    (Value.array items.reverse .closed).isWhole = true := by
  rw [itemsWhole_eq_true_iff] at hWhole
  rw [Value.isWhole, Bool.and_eq_true]
  refine ⟨rfl, itemsWhole_eq_true_iff.mpr ?_⟩
  intro v hV
  exact hWhole v (List.mem_reverse.mp hV)

/- So is an object. -/
theorem isWhole_closedObject
    {members : List Member}
    (hWhole : membersWhole members = true) :
    (Value.object members.reverse .closed).isWhole = true := by
  rw [membersWhole_eq_true_iff] at hWhole
  rw [Value.isWhole, Bool.and_eq_true]
  refine ⟨rfl, membersWhole_eq_true_iff.mpr ?_⟩
  intro m hM
  exact hWhole m (List.mem_reverse.mp hM)

------------------------------------------------------------
-- What Has Been Taken
------------------------------------------------------------

/-
  The tokens that a reader has taken on its way to a state.
  Behind a value or a name, the frame already counts on the
  comma or colon that may come next.
-/
inductive Took : List Token → Reader → Prop where
  | value
      {frames : List Frame}
      (hFrames : ∀ f ∈ frames, f.AwaitsValue) :
      Took (leads frames) (.reading .value frames)
  | firstItem
      {outer : List Frame}
      (hOuter : ∀ f ∈ outer, f.AwaitsValue) :
      Took (leads (.array [] :: outer))
        (.reading .firstItem (.array [] :: outer))
  | firstKey
      {outer : List Frame}
      (hOuter : ∀ f ∈ outer, f.AwaitsValue) :
      Took (leads (.object [] :: outer))
        (.reading .firstKey (.object [] :: outer))
  | key
      {members : List Member}
      {outer : List Frame}
      (hMembers : membersWhole members = true)
      (hOuter : ∀ f ∈ outer, f.AwaitsValue) :
      Took (leads (.object members :: outer))
        (.reading .key (.object members :: outer))
  | colon
      {ts : List Token}
      {frames : List Frame}
      (hFrames : ∀ f ∈ frames, f.AwaitsValue)
      (hTokens : leads frames = ts ++ [.colon]) :
      Took ts (.reading .colon frames)
  | itemEnd
      {ts : List Token}
      {items : List Value}
      {outer : List Frame}
      (hSome : items ≠ [])
      (hItems : itemsWhole items = true)
      (hOuter : ∀ f ∈ outer, f.AwaitsValue)
      (hTokens :
        leads (.array items :: outer) = ts ++ [.comma]) :
      Took ts (.reading .separator (.array items :: outer))
  | memberEnd
      {ts : List Token}
      {members : List Member}
      {outer : List Frame}
      (hSome : members ≠ [])
      (hMembers : membersWhole members = true)
      (hOuter : ∀ f ∈ outer, f.AwaitsValue)
      (hTokens :
        leads (.object members :: outer) = ts ++ [.comma]) :
      Took ts (.reading .separator (.object members :: outer))
  | finished
      {v : Value}
      (hWhole : v.isWhole = true) :
      Took v.tokens (.finished v)
  | trailing
      (ts : List Token)
      (v : Value) :
      Took ts (.trailing v)
  | stopped
      (ts : List Token)
      {v : Value}
      (hStopped : v.isComplete = false) :
      Took ts (.stopped v)

/- What is abandoned is not complete. -/
theorem isComplete_abandon
    (frames : List Frame) :
    (abandon frames).isComplete = false := by
  suffices hFold :
      ∀ inner : Option Value,
        (∀ v ∈ inner, v.isComplete = false) →
          ((frames.foldl
              (fun inner frame =>
                some (frame.abandoned inner))
              inner).getD .broken).isComplete = false from
    hFold none (by rintro v ⟨⟩)
  induction frames with
  | nil =>
      intro inner hInner
      cases inner with
      | none => rfl
      | some v => exact hInner v rfl
  | cons frame frames ih =>
      intro inner _
      rw [List.foldl_cons]
      apply ih
      rintro v ⟨⟩
      cases frame <;> rfl

/- A reader stops at any token that does not fit. -/
theorem Took.stop
    (ts : List Token)
    (frames : List Frame) :
    Took ts (Reader.stop frames) :=
  .stopped ts (isComplete_abandon frames)

/- A whole value is taken into the frame that awaits it. -/
theorem Took.complete
    {v : Value}
    {frames : List Frame}
    (hWhole : v.isWhole = true)
    (hFrames : ∀ f ∈ frames, f.AwaitsValue) :
    Took (leads frames ++ v.tokens)
      (Reader.complete v frames) := by
  cases frames with
  | nil => exact .finished hWhole
  | cons frame outer =>
      rcases List.forall_mem_cons.mp hFrames with
        ⟨hFrame, hOuter⟩
      cases frame with
      | array items =>
          refine .itemEnd (List.cons_ne_nil v items) ?_ hOuter
            ?_
          · rw [itemsWhole, hWhole, Bool.true_and]
            exact hFrame
          · simp [leads_cons, Frame.lead, listedItems]
      | object members => exact hFrame.elim
      | member members key =>
          refine .memberEnd (List.cons_ne_nil _ members) ?_
            hOuter ?_
          · rw [membersWhole, hWhole, Bool.true_and]
            exact hFrame
          · simp [leads_cons, Frame.lead, listedMembers]

/- Any token is taken where a value is awaited. -/
theorem Took.takeValue
    {frames : List Frame}
    (hFrames : ∀ f ∈ frames, f.AwaitsValue)
    (t : Token) :
    Took (leads frames ++ [t])
      (Reader.takeValue t frames) := by
  cases t with
  | null => exact .complete (v := .null) rfl hFrames
  | bool b => exact .complete (v := .bool b) rfl hFrames
  | number n => exact .complete (v := .number n) rfl hFrames
  | string s => exact .complete (v := .string s) rfl hFrames
  | beginArray =>
      have hLeads :
          leads frames ++ [.beginArray] =
            leads (.array [] :: frames) := by
        simp [leads_cons, Frame.lead, listedItems]
      rw [hLeads]
      exact .firstItem hFrames
  | beginObject =>
      have hLeads :
          leads frames ++ [.beginObject] =
            leads (.object [] :: frames) := by
        simp [leads_cons, Frame.lead, listedMembers]
      rw [hLeads]
      exact .firstKey hFrames
  | _ => exact .stop _ frames

/- So it is where the name of a member is awaited. -/
theorem Took.takeKey
    {members : List Member}
    {outer : List Frame}
    (hMembers : membersWhole members = true)
    (hOuter : ∀ f ∈ outer, f.AwaitsValue)
    (t : Token) :
    Took (leads (.object members :: outer) ++ [t])
      (Reader.takeKey t (.object members :: outer)) := by
  cases t with
  | string key =>
      refine .colon ?_ ?_
      · exact List.forall_mem_cons.mpr ⟨hMembers, hOuter⟩
      · simp [leads_cons, Frame.lead]
  | _ => exact .stop _ _

/- So it is behind a value of a list. -/
theorem Took.takeItemEnd
    {ts : List Token}
    {items : List Value}
    {outer : List Frame}
    (hSome : items ≠ [])
    (hItems : itemsWhole items = true)
    (hOuter : ∀ f ∈ outer, f.AwaitsValue)
    (hTokens :
      leads (.array items :: outer) = ts ++ [.comma])
    (t : Token) :
    Took (ts ++ [t])
      (Reader.takeSeparator t (.array items :: outer)) := by
  cases t with
  | comma =>
      rw [← hTokens]
      exact .value
        (List.forall_mem_cons.mpr ⟨hItems, hOuter⟩)
  | endArray =>
      have hReverse : items.reverse ≠ [] := by
        simpa using hSome
      have hTs :
          ts = leads outer ++
            .beginArray :: itemTokens items.reverse := by
        rw [leads_cons, Frame.lead,
          ← itemTokens_append_comma hReverse,
          ← List.cons_append, ← List.append_assoc] at hTokens
        exact (List.append_cancel_right hTokens).symm
      have hClosed :=
        Took.complete (isWhole_closedArray hItems) hOuter
      rw [Value.tokens] at hClosed
      rw [hTs, List.append_assoc, List.cons_append]
      exact hClosed
  | _ => exact .stop _ _

/- So it is behind a member of an object. -/
theorem Took.takeMemberEnd
    {ts : List Token}
    {members : List Member}
    {outer : List Frame}
    (hSome : members ≠ [])
    (hMembers : membersWhole members = true)
    (hOuter : ∀ f ∈ outer, f.AwaitsValue)
    (hTokens :
      leads (.object members :: outer) = ts ++ [.comma])
    (t : Token) :
    Took (ts ++ [t])
      (Reader.takeSeparator t (.object members :: outer)) := by
  cases t with
  | comma =>
      rw [← hTokens]
      exact .key hMembers hOuter
  | endObject =>
      have hReverse : members.reverse ≠ [] := by
        simpa using hSome
      have hTs :
          ts = leads outer ++
            .beginObject :: memberTokens members.reverse := by
        rw [leads_cons, Frame.lead,
          ← memberTokens_append_comma hReverse,
          ← List.cons_append, ← List.append_assoc] at hTokens
        exact (List.append_cancel_right hTokens).symm
      have hClosed :=
        Took.complete (isWhole_closedObject hMembers) hOuter
      rw [Value.tokens] at hClosed
      rw [hTs, List.append_assoc, List.cons_append]
      exact hClosed
  | _ => exact .stop _ _

/- One more token has been taken. -/
theorem Took.take
    {ts : List Token}
    {r : Reader}
    (hTook : Took ts r)
    (t : Token) :
    Took (ts ++ [t]) (r.take t) := by
  cases hTook with
  | value hFrames => exact .takeValue hFrames t
  | @firstItem outer hOuter =>
      unfold Reader.take
      by_cases hEnd : t = .endArray
      · subst hEnd
        have hClosed :=
          Took.complete (v := .array [] .closed) rfl hOuter
        rw [leads_cons, List.append_assoc]
        exact hClosed
      · simp only [if_neg hEnd]
        apply Took.takeValue
        exact List.forall_mem_cons.mpr ⟨rfl, hOuter⟩
  | @firstKey outer hOuter =>
      unfold Reader.take
      by_cases hEnd : t = .endObject
      · subst hEnd
        have hClosed :=
          Took.complete (v := .object [] .closed) rfl hOuter
        rw [leads_cons, List.append_assoc]
        exact hClosed
      · simp only [if_neg hEnd]
        exact .takeKey rfl hOuter t
  | key hMembers hOuter => exact .takeKey hMembers hOuter t
  | colon hFrames hTokens =>
      unfold Reader.take
      by_cases hColon : t = .colon
      · subst hColon
        simp only [if_true]
        rw [← hTokens]
        exact .value hFrames
      · simp only [if_neg hColon]
        exact .stop _ _
  | itemEnd hSome hItems hOuter hTokens =>
      exact .takeItemEnd hSome hItems hOuter hTokens t
  | memberEnd hSome hMembers hOuter hTokens =>
      exact .takeMemberEnd hSome hMembers hOuter hTokens t
  | finished hWhole => exact .trailing _ _
  | trailing ts v => exact .trailing _ v
  | stopped ts hStopped => exact .stopped _ hStopped

/- All the tokens of a run have been taken. -/
theorem took_foldl_take
    {before : List Token}
    {r : Reader}
    (hTook : Took before r)
    (ts : List Token) :
    Took (before ++ ts) (ts.foldl Reader.take r) := by
  induction ts generalizing before r with
  | nil =>
      rw [List.append_nil]
      exact hTook
  | cons t ts ih =>
      rw [List.foldl_cons, ← List.singleton_append,
        ← List.append_assoc]
      exact ih (hTook.take t)

------------------------------------------------------------
-- Documents
------------------------------------------------------------

/- A document that is complete has the text of its value. -/
theorem Document.spelled_of_ofText
    {v : Value}
    {text : String}
    (hText : Document.ofText text = ⟨v, false⟩)
    (hComplete : v.isComplete = true) :
    v.SpelledAs text := by
  have hStart : Took (leads []) (.reading .value []) :=
    .value (List.forall_mem_nil _)
  have hTook :
      Took (tokens text.toList)
        ((tokens text.toList).foldl Reader.take
          (.reading .value [])) :=
    took_foldl_take hStart _
  unfold Document.ofText at hText
  generalize
    (tokens text.toList).foldl Reader.take
      (.reading .value []) = r at hTook hText
  generalize hTs : tokens text.toList = ts at hTook
  cases r with
  | reading awaited frames =>
      cases hText
      rw [isComplete_abandon] at hComplete
      cases hComplete
  | finished w =>
      cases hText
      cases hTook with
      | finished hWhole =>
          refine ⟨hWhole, ?_⟩
          rw [← hTs]
          apply tokensSpelled_tokens
          rw [hTs]
          exact v.bad_not_mem_tokens hWhole
  | trailing w => cases hText
  | stopped w =>
      cases hText
      cases hTook with
      | stopped _ hStopped =>
          rw [hStopped] at hComplete
          cases hComplete

/- A whole value is complete. -/
theorem Value.isComplete_of_isWhole
    {v : Value}
    (hWhole : v.isWhole = true) :
    v.isComplete = true := by
  cases v with
  | array items ending =>
      rw [Value.isWhole, Bool.and_eq_true] at hWhole
      exact hWhole.1
  | object members ending =>
      rw [Value.isWhole, Bool.and_eq_true] at hWhole
      exact hWhole.1
  | broken => cases hWhole
  | _ => rfl

/- The texts of a value are those that are read as it. -/
theorem Document.ofText_eq_iff
    {v : Value}
    {text : String} :
    Document.ofText text = ⟨v, false⟩ ∧ v.isComplete = true ↔
      v.SpelledAs text := by
  constructor
  · rintro ⟨hText, hComplete⟩
    exact Document.spelled_of_ofText hText hComplete
  · intro hText
    exact ⟨hText.ofText, v.isComplete_of_isWhole hText.1⟩

/- A plain value has the text it is written as. -/
theorem Value.spelledAs_spell
    {v : Value}
    (hPlain : v.isPlain = true) :
    v.SpelledAs v.spell := by
  have hComplete : v.isComplete = true :=
    v.isComplete_of_isWhole (v.isWhole_of_isPlain hPlain)
  exact Document.spelled_of_ofText
    (Document.ofText_spell hPlain) hComplete

------------------------------------------------------------
-- Records
------------------------------------------------------------

namespace Record

variable {α : Type}

/- Members are read up to the end of their object. -/
theorem closed_of_readMembersInto
    {r : Record α}
    {ending : Ending}
    {members : List Member}
    {seen : List String}
    {x y : α}
    (hRead : r.readMembersInto ending members seen x = .ok y) :
    ending = .closed := by
  induction members generalizing seen x with
  | nil => exact (readMembersInto_nil_eq_ok_iff.mp hRead).1
  | cons m rest ih =>
      rcases m with ⟨key, v⟩
      cases key with
      | none => cases hRead
      | some name =>
          rcases readMembersInto_cons_eq_ok_iff.mp hRead with
            ⟨-, -, hRest⟩ | ⟨f, set, -, -, -, hRest⟩
          · exact ih hRest
          · exact ih hRest

/- Items are read up to the end of their list. -/
theorem closed_of_readItemsInto
    {r : Record α}
    {ending : Ending}
    {fields : List (Field α)}
    {items : List Value}
    {index : Nat}
    {x y : α}
    (hRead :
      r.readItemsInto ending fields items index x = .ok y) :
    ending = .closed := by
  induction fields generalizing items index x with
  | nil =>
      cases ending with
      | closed => rfl
      | stopped => simp [readItemsInto] at hRead
  | cons f fields ih =>
      cases items with
      | nil =>
          cases ending with
          | closed => rfl
          | stopped => cases hRead
      | cons v items =>
          rcases readItemsInto_cons_eq_ok_iff.mp hRead with
            ⟨set, -, hRest⟩
          exact ih hRest

/- A record is read from a value that is complete. -/
theorem isComplete_of_read
    {r : Record α}
    {v : Value}
    {x : α}
    (hRead : r.read v = .ok x) :
    v.isComplete = true := by
  cases v with
  | array items ending =>
      have hClosed := closed_of_readItemsInto hRead
      rw [hClosed]
      rfl
  | object members ending =>
      have hClosed := closed_of_readMembersInto hRead
      rw [hClosed]
      rfl
  | _ => cases hRead

/- A record is read from any text of a value it is read from. -/
theorem readDocument_of_spelled
    {r : Record α}
    {v : Value}
    {text : String}
    {x : α}
    (hText : v.SpelledAs text)
    (hRead : r.read v = .ok x) :
    r.readDocument text = .ok x := by
  unfold readDocument
  rw [hText.ofText]
  simp only [hRead]
  rfl

/- A record that has been read had the text of a value. -/
theorem exists_spelled_of_readDocument
    {r : Record α}
    {text : String}
    {x : α}
    (hRead : r.readDocument text = .ok x) :
    ∃ v : Value, v.SpelledAs text ∧ r.read v = .ok x := by
  unfold readDocument at hRead
  cases hDocument : Document.ofText text with
  | mk v hasMore =>
      rw [hDocument] at hRead
      cases hValue : r.read v with
      | error e =>
          simp only [hValue] at hRead
          cases hRead
      | ok y =>
          cases hasMore with
          | true =>
              simp only [hValue] at hRead
              cases hRead
          | false =>
              simp only [hValue] at hRead
              cases hRead
              have hComplete := isComplete_of_read hValue
              refine ⟨v, ?_, hValue⟩
              exact Document.spelled_of_ofText hDocument
                hComplete

end Record

end ClientGen.Json
