import ClientGen.Proofs.Json.Documents
import Mathlib.Data.List.Forall2
import Mathlib.Data.List.Nodup
import Mathlib.Data.List.Pairwise
import Mathlib.Logic.Relation

/-
  Ways to present the same data, and that records are read
  from all of them alike.

  Main declarations include:
    * `Form`
    * `Restated`
    * `Respects`
    * `Record.Fits`
    * `Record.readMembersInto_perm`
    * `Record.Fits.respects`
    * `Record.Fits.read_restated`

  A form says which objects are records and which are maps.
  The members of a record may come in any order, with others
  that it has no field for, and without those that only say
  what goes without saying.  Nothing of that holds of a map,
  whose entries stay where they are.
-/

namespace ClientGen.Json

------------------------------------------------------------
-- Forms
------------------------------------------------------------

/-
  What kind of data a value stands for.  A field of a record
  has a name, the form of its value and, if it may be left
  out, the value that says the same.
-/
inductive Form where
  | plain
  | record (fields : List (String × Form × Option Value))
  | entries (each : Form)

/- A value that some text is a text of. -/
def Value.IsWellFormed
    (v : Value) :
    Prop :=
  ∃ text, v.SpelledAs text

/-
  A value whose presentation differs from that of another in
  one place, which may be at any depth.
-/
inductive Restated : Form → Value → Value → Prop where
  | reorder
      {fields : List (String × Form × Option Value)}
      {members others : List Member}
      (hPerm : members.Perm others) :
      Restated (.record fields) (.object members .closed)
        (.object others .closed)
  | add
      {fields : List (String × Form × Option Value)}
      {before after : List Member}
      {name : String}
      {v : Value}
      (hNew : name ∉ fields.map Prod.fst)
      (hGood : v.IsWellFormed) :
      Restated (.record fields)
        (.object (before ++ after) .closed)
        (.object (before ++ (some name, v) :: after) .closed)
  | leaveOut
      {fields : List (String × Form × Option Value)}
      {before after : List Member}
      {name : String}
      {form : Form}
      {v : Value}
      (hField : (name, form, some v) ∈ fields) :
      Restated (.record fields)
        (.object (before ++ (some name, v) :: after) .closed)
        (.object (before ++ after) .closed)
  | member
      {fields : List (String × Form × Option Value)}
      {before after : List Member}
      {name : String}
      {form : Form}
      {absent : Option Value}
      {v w : Value}
      (hField : (name, form, absent) ∈ fields)
      (hInner : Restated form v w) :
      Restated (.record fields)
        (.object (before ++ (some name, v) :: after) .closed)
        (.object (before ++ (some name, w) :: after) .closed)
  | item
      {fields : List (String × Form × Option Value)}
      {before after : List Value}
      {name : String}
      {form : Form}
      {absent : Option Value}
      {v w : Value}
      (hField :
        fields[before.length]? = some (name, form, absent))
      (hInner : Restated form v w) :
      Restated (.record fields)
        (.array (before ++ v :: after) .closed)
        (.array (before ++ w :: after) .closed)
  | entry
      {each : Form}
      {before after : List Member}
      {key : Option String}
      {v w : Value}
      (hInner : Restated each v w) :
      Restated (.entries each)
        (.object (before ++ (key, v) :: after) .closed)
        (.object (before ++ (key, w) :: after) .closed)

/- What can be read of a value can be read of it restated. -/
def Respects
    {β : Type}
    (form : Form)
    (read : Value → Except ReadError β) :
    Prop :=
  ∀ v w x, Restated form v w → read v = .ok x →
    read w = .ok x

------------------------------------------------------------
-- Plain Values and Maps
------------------------------------------------------------

section

variable {α β : Type}

/- There is but one way to present plain data. -/
theorem Respects.plain
    (read : Value → Except ReadError β) :
    Respects .plain read := by
  intro v w x hRestated
  cases hRestated

/- What is made of the result does not matter. -/
theorem Respects.map
    {form : Form}
    {read : Value → Except ReadError α}
    (hRead : Respects form read)
    (f : α → β) :
    Respects form fun v => (read v).map f := by
  intro v w x hRestated hOk
  cases hV : read v with
  | error e =>
      simp only [hV] at hOk
      cases hOk
  | ok a =>
      simp only [hV] at hOk
      simp only [hRead v w a hRestated hV]
      exact hOk

/- An entry can be presented anew wherever it stands. -/
theorem readMembers_restated
    {each : Form}
    {read : Value → Except ReadError α}
    (hRead : Respects each read)
    {key : Option String}
    {v w : Value}
    (hInner : Restated each v w)
    {before after : List Member}
    {entries : List (String × α)}
    (hOk :
      readMembers read .closed (before ++ (key, v) :: after) =
        .ok entries) :
    readMembers read .closed (before ++ (key, w) :: after) =
      .ok entries := by
  induction before generalizing entries with
  | nil =>
      rcases readMembers_cons_eq_ok_iff.mp hOk with
        ⟨name, a, more, hKey, hV, hRest⟩
      exact readMembers_cons_eq_ok_iff.mpr
        ⟨name, a, more, hKey, hRead v w a hInner hV, hRest⟩
  | cons m before ih =>
      rcases readMembers_cons_eq_ok_iff.mp hOk with
        ⟨name, a, more, hKey, hFirst, hRest, hEntries⟩
      exact readMembers_cons_eq_ok_iff.mpr
        ⟨name, a, more, hKey, hFirst, ih hRest, hEntries⟩

/- A map is read alike from entries presented anew. -/
theorem Respects.entries
    {each : Form}
    {read : Value → Except ReadError α}
    (hRead : Respects each read) :
    Respects (.entries each) (readEntries read) := by
  intro v w x hRestated hOk
  cases hRestated with
  | entry hInner => exact readMembers_restated hRead hInner hOk

end

------------------------------------------------------------
-- Fields
------------------------------------------------------------

variable {α : Type}

/- Whichever of the two fields is set first. -/
def Field.Commute
    (f g : Field α) :
    Prop :=
  ∀ v w set other, f.read v = .ok set →
    g.read w = .ok other →
      ∀ x, set (other x) = other (set x)

instance : Std.Symm (@Field.Commute α) where
  symm _ _ hCommute v w set other hF hG x :=
    (hCommute w v other set hG hF x).symm

/-
  The field is read as its form says, and the value that may
  be left out sets what is there in the blank record.
-/
structure Field.Fits
    (blank : α)
    (entry : String × Form × Option Value)
    (f : Field α) :
    Prop where
  key : entry.1 = f.key
  respects : Respects entry.2.1 f.read
  absent :
    ∀ v ∈ entry.2.2, f.isRequired = false ∧
      ∃ set, f.read v = .ok set ∧ set blank = blank

/- Fields that set different parts of a record commute. -/
theorem Field.Commute.of
    {β γ : Type}
    {key name : String}
    {isRequired isNeeded : Bool}
    {read : Value → Except ReadError β}
    {readOther : Value → Except ReadError γ}
    {set : β → α → α}
    {other : γ → α → α}
    (hSet : ∀ b c x, set b (other c x) = other c (set b x)) :
    (Field.of key isRequired read set).Commute
      (Field.of name isNeeded readOther other) := by
  intro v w f g hF hG x
  simp only [Field.of] at hF hG
  cases hV : read v with
  | error e =>
      rw [hV] at hF
      cases hF
  | ok b =>
      cases hW : readOther w with
      | error e =>
          rw [hW] at hG
          cases hG
      | ok c =>
          rw [hV] at hF
          rw [hW] at hG
          cases hF
          cases hG
          exact hSet b c x

/- A field that has to be there. -/
theorem Field.Fits.required
    {β : Type}
    {blank : α}
    {key : String}
    {isRequired : Bool}
    {form : Form}
    {read : Value → Except ReadError β}
    {set : β → α → α}
    (hRead : Respects form read) :
    Field.Fits blank (key, form, none)
      (Field.of key isRequired read set) where
  key := rfl
  respects := hRead.map set
  absent := by
    rintro v ⟨⟩

/- A field that can be left out. -/
theorem Field.Fits.optional
    {β : Type}
    {blank : α}
    {key : String}
    {form : Form}
    {v : Value}
    {b : β}
    {read : Value → Except ReadError β}
    {set : β → α → α}
    (hRead : Respects form read)
    (hAbsent : read v = .ok b)
    (hBlank : set b blank = blank) :
    Field.Fits blank (key, form, some v)
      (Field.of key false read set) where
  key := rfl
  respects := hRead.map set
  absent := by
    rintro w ⟨⟩
    refine ⟨rfl, set b, ?_, hBlank⟩
    simp only [Field.of, hAbsent]
    rfl

------------------------------------------------------------
-- Seen Fields
------------------------------------------------------------

namespace Record

variable {r : Record α}

/-
  Fewer fields may have been seen, as long as no field that
  has to be there is among those no longer seen.
-/
theorem readMembersInto_of_subset
    {members : List Member}
    {seen fewer : List String}
    {x y : α}
    (hFewer : fewer ⊆ seen)
    (hRequired :
      ∀ f ∈ r.fields, f.isRequired = true → f.key ∈ seen →
        f.key ∈ fewer)
    (hRead :
      r.readMembersInto .closed members seen x = .ok y) :
    r.readMembersInto .closed members fewer x = .ok y := by
  induction members generalizing seen fewer x with
  | nil =>
      rcases readMembersInto_nil_eq_ok_iff.mp hRead with
        ⟨-, hMissing, hSame⟩
      refine readMembersInto_nil_eq_ok_iff.mpr
        ⟨rfl, ?_, hSame⟩
      rw [missing?, List.find?_eq_none] at hMissing ⊢
      intro f hF hUnseen
      simp only [Bool.and_eq_true, Bool.not_eq_true',
        List.contains_eq_mem, decide_eq_false_iff_not]
        at hUnseen
      have hSeen := hMissing f hF
      simp only [Bool.and_eq_true, Bool.not_eq_true',
        List.contains_eq_mem, decide_eq_false_iff_not,
        not_and, not_not] at hSeen
      exact hUnseen.2
        (hRequired f hF hUnseen.1 (hSeen hUnseen.1))
  | cons m rest ih =>
      rcases m with ⟨key, v⟩
      cases key with
      | none => cases hRead
      | some name =>
          rcases readMembersInto_cons_eq_ok_iff.mp hRead with
            ⟨hUnknown, hComplete, hRest⟩ |
              ⟨f, set, hField, hUnseen, hV, hRest⟩
          · exact readMembersInto_cons_eq_ok_iff.mpr
              (.inl ⟨hUnknown, hComplete,
                ih hFewer hRequired hRest⟩)
          · refine readMembersInto_cons_eq_ok_iff.mpr
              (.inr ⟨f, set, hField, ?_, hV,
                ih ?_ ?_ hRest⟩)
            · exact fun hMem => hUnseen (hFewer hMem)
            · exact List.cons_subset_cons name hFewer
            · intro g hG hNeeded hMem
              rcases List.mem_cons.mp hMem with hSame | hSeen
              · exact hSame ▸ List.mem_cons_self
              · exact List.mem_cons_of_mem name
                  (hRequired g hG hNeeded hSeen)

------------------------------------------------------------
-- Order of Members
------------------------------------------------------------

/- Two members that follow each other can change places. -/
theorem readMembersInto_swap
    (hCommute : r.fields.Pairwise Field.Commute)
    {m n : Member}
    {rest : List Member}
    {seen : List String}
    {x y : α}
    (hRead :
      r.readMembersInto .closed (m :: n :: rest) seen x =
        .ok y) :
    r.readMembersInto .closed (n :: m :: rest) seen x =
      .ok y := by
  rcases m with ⟨key, v⟩
  rcases n with ⟨other, w⟩
  cases key with
  | none => cases hRead
  | some name =>
      cases other with
      | none =>
          rcases readMembersInto_cons_eq_ok_iff.mp hRead with
            ⟨-, -, hRest⟩ | ⟨f, set, -, -, -, hRest⟩
          · cases hRest
          · cases hRest
      | some other =>
          simp only [readMembersInto_cons_eq_ok_iff]
            at hRead ⊢
          rcases hRead with
            ⟨hM, hV, hRest⟩ | ⟨f, set, hF, hUnseen, hV, hRest⟩
          · rcases hRest with
              ⟨hN, hW, hRest⟩ |
                ⟨g, change, hG, hUnseen, hW, hRest⟩
            · exact .inl ⟨hN, hW, .inl ⟨hM, hV, hRest⟩⟩
            · exact .inr ⟨g, change, hG, hUnseen, hW,
                .inl ⟨hM, hV, hRest⟩⟩
          · rcases hRest with
              ⟨hN, hW, hRest⟩ |
                ⟨g, change, hG, hOther, hW, hRest⟩
            · exact .inl ⟨hN, hW,
                .inr ⟨f, set, hF, hUnseen, hV, hRest⟩⟩
            · rw [List.mem_cons, not_or] at hOther
              have hApart : f ≠ g := by
                rintro rfl
                have hName : f.key = name := by
                  simpa using List.find?_some hF
                have hSame : f.key = other := by
                  simpa using List.find?_some hG
                exact hOther.1 (hSame.symm.trans hName)
              have hOrder :=
                hCommute.forall
                  (List.mem_of_find?_eq_some hF)
                  (List.mem_of_find?_eq_some hG) hApart v w set
                  change hV hW
              refine .inr ⟨g, change, hG, hOther.2, hW,
                .inr ⟨f, set, hF, ?_, hV, ?_⟩⟩
              · rw [List.mem_cons, not_or]
                exact ⟨Ne.symm hOther.1, hUnseen⟩
              · rw [hOrder]
                apply readMembersInto_of_subset ?_ ?_ hRest
                · intro key
                  simp only [List.mem_cons]
                  tauto
                · intro h _ _
                  simp only [List.mem_cons]
                  tauto

/- The members of a record can come in any order. -/
theorem readMembersInto_perm
    (hCommute : r.fields.Pairwise Field.Commute)
    {members others : List Member}
    (hPerm : members.Perm others)
    {seen : List String}
    {x y : α}
    (hRead :
      r.readMembersInto .closed members seen x = .ok y) :
    r.readMembersInto .closed others seen x = .ok y := by
  induction hPerm generalizing seen x with
  | nil => exact hRead
  | cons m _ ih =>
      rcases m with ⟨key, v⟩
      cases key with
      | none => cases hRead
      | some name =>
          rw [readMembersInto_cons_eq_ok_iff] at hRead ⊢
          rcases hRead with
            ⟨hM, hV, hRest⟩ | ⟨f, set, hF, hUnseen, hV, hRest⟩
          · exact .inl ⟨hM, hV, ih hRest⟩
          · exact .inr ⟨f, set, hF, hUnseen, hV, ih hRest⟩
  | swap m n rest => exact readMembersInto_swap hCommute hRead
  | trans _ _ ihFirst ihSecond =>
      exact ihSecond (ihFirst hRead)

------------------------------------------------------------
-- Records
------------------------------------------------------------

/-
  The record has the fields of a form: they have different
  names, and it does not matter in which order they are set.
-/
structure Fits
    (r : Record α)
    (fields : List (String × Form × Option Value)) :
    Prop where
  keys : (r.fields.map Field.key).Nodup
  commute : r.fields.Pairwise Field.Commute
  each : List.Forall₂ (Field.Fits r.blank) fields r.fields

variable {fields : List (String × Form × Option Value)}

/- The names of the form are those of the record. -/
theorem Fits.map_fst
    (hFits : r.Fits fields) :
    fields.map Prod.fst = r.fields.map Field.key := by
  have hEach := hFits.each
  clear hFits
  generalize r.fields = own at hEach
  induction hEach with
  | nil => rfl
  | cons hFirst _ ih =>
      rw [List.map_cons, List.map_cons, hFirst.key, ih]

/- A name that the form does not have is no field's. -/
theorem Fits.field?_eq_none
    (hFits : r.Fits fields)
    {name : String}
    (hNew : name ∉ fields.map Prod.fst) :
    r.field? name = none := by
  rw [hFits.map_fst] at hNew
  rw [field?, List.find?_eq_none]
  intro f hF hSame
  apply hNew
  rw [List.mem_map]
  exact ⟨f, hF, by simpa using hSame⟩

/- A name of the form is that of the field that fits it. -/
theorem Fits.exists_field
    (hFits : r.Fits fields)
    {entry : String × Form × Option Value}
    (hEntry : entry ∈ fields) :
    ∃ f, r.field? entry.1 = some f ∧
      Field.Fits r.blank entry f := by
  have hMem :
      ∃ f ∈ r.fields, Field.Fits r.blank entry f := by
    have hEach := hFits.each
    clear hFits
    generalize r.fields = own at hEach
    induction hEach with
    | nil => cases hEntry
    | @cons _ f _ own hFirst _ ih =>
        rcases List.mem_cons.mp hEntry with rfl | hRest
        · exact ⟨f, List.mem_cons_self, hFirst⟩
        · rcases ih hRest with ⟨g, hG, hFit⟩
          exact ⟨g, List.mem_cons_of_mem f hG, hFit⟩
  rcases hMem with ⟨f, hF, hFit⟩
  refine ⟨f, ?_, hFit⟩
  rcases List.append_of_mem hF with ⟨before, after, hSplit⟩
  rw [hFit.key]
  apply field?_eq_some hSplit
  intro other hOther hSame
  have hKeys := hFits.keys
  rw [hSplit, List.map_append, List.nodup_append] at hKeys
  exact hKeys.2.2 _ (List.mem_map_of_mem hOther) _
    (List.mem_map_of_mem List.mem_cons_self) hSame

/- A member without a field can be added. -/
theorem Fits.readMembersInto_add
    (hFits : r.Fits fields)
    {before after : List Member}
    {name : String}
    {v : Value}
    (hNew : name ∉ fields.map Prod.fst)
    (hGood : v.IsWellFormed)
    {seen : List String}
    {x y : α}
    (hRead :
      r.readMembersInto .closed (before ++ after) seen x =
        .ok y) :
    r.readMembersInto .closed
        (before ++ (some name, v) :: after) seen x =
      .ok y := by
  rcases hGood with ⟨text, hText⟩
  have hComplete := v.isComplete_of_isWhole hText.1
  apply readMembersInto_perm hFits.commute
    List.perm_middle.symm
  exact readMembersInto_cons_eq_ok_iff.mpr
    (.inl ⟨hFits.field?_eq_none hNew, hComplete, hRead⟩)

/- A member that only says what is so anyway can go. -/
theorem Fits.readMembersInto_leaveOut
    (hFits : r.Fits fields)
    {before after : List Member}
    {name : String}
    {form : Form}
    {v : Value}
    (hField : (name, form, some v) ∈ fields)
    {y : α}
    (hRead :
      r.readMembersInto .closed
          (before ++ (some name, v) :: after) [] r.blank =
        .ok y) :
    r.readMembersInto .closed (before ++ after) [] r.blank =
      .ok y := by
  rcases hFits.exists_field hField with ⟨f, hF, hFit⟩
  rcases hFit.absent v rfl with ⟨hOptional, set, hV, hBlank⟩
  have hFront :=
    readMembersInto_perm hFits.commute List.perm_middle hRead
  rcases readMembersInto_cons_eq_ok_iff.mp hFront with
    ⟨hNone, -, -⟩ | ⟨g, change, hG, -, hW, hRest⟩
  · cases hNone.symm.trans hF
  · cases hG.symm.trans hF
    cases hW.symm.trans hV
    rw [hBlank] at hRest
    apply readMembersInto_of_subset (List.nil_subset _) ?_ hRest
    intro other hOther hNeeded hSeen
    have hKey : other.key = name := List.mem_singleton.mp hSeen
    have hSame : other = f := by
      apply List.inj_on_of_nodup_map hFits.keys hOther
        (List.mem_of_find?_eq_some hF)
      exact hKey.trans hFit.key
    rw [hSame, hOptional] at hNeeded
    cases hNeeded

/- The value of a member can be presented anew. -/
theorem Fits.readMembersInto_member
    (hFits : r.Fits fields)
    {before after : List Member}
    {name : String}
    {form : Form}
    {absent : Option Value}
    {v w : Value}
    (hField : (name, form, absent) ∈ fields)
    (hInner : Restated form v w)
    {seen : List String}
    {x y : α}
    (hRead :
      r.readMembersInto .closed
          (before ++ (some name, v) :: after) seen x =
        .ok y) :
    r.readMembersInto .closed
        (before ++ (some name, w) :: after) seen x =
      .ok y := by
  rcases hFits.exists_field hField with ⟨f, hF, hFit⟩
  have hFront :=
    readMembersInto_perm hFits.commute List.perm_middle hRead
  apply readMembersInto_perm hFits.commute
    List.perm_middle.symm
  rw [readMembersInto_cons_eq_ok_iff] at hFront ⊢
  rcases hFront with
    ⟨hNone, -, -⟩ | ⟨g, set, hG, hUnseen, hV, hRest⟩
  · cases hNone.symm.trans hF
  · cases hG.symm.trans hF
    exact .inr ⟨f, set, hF, hUnseen,
      hFit.respects v w set hInner hV, hRest⟩

/- So can an item in a list of the fields. -/
theorem readItemsInto_restated
    {blank : α}
    {entries : List (String × Form × Option Value)}
    {own : List (Field α)}
    (hEach : List.Forall₂ (Field.Fits blank) entries own)
    {before after : List Value}
    {name : String}
    {form : Form}
    {absent : Option Value}
    {v w : Value}
    (hField :
      entries[before.length]? = some (name, form, absent))
    (hInner : Restated form v w)
    {index : Nat}
    {x y : α}
    (hRead :
      r.readItemsInto .closed own (before ++ v :: after) index
          x =
        .ok y) :
    r.readItemsInto .closed own (before ++ w :: after) index
        x =
      .ok y := by
  induction before generalizing entries own index x with
  | nil =>
      cases hEach with
      | nil => cases hField
      | cons hFirst _ =>
          cases hField
          rcases readItemsInto_cons_eq_ok_iff.mp hRead with
            ⟨set, hV, hRest⟩
          exact readItemsInto_cons_eq_ok_iff.mpr
            ⟨set, hFirst.respects v w set hInner hV, hRest⟩
  | cons u before ih =>
      cases hEach with
      | nil => cases hField
      | cons _ hOthers =>
          rcases readItemsInto_cons_eq_ok_iff.mp hRead with
            ⟨set, hV, hRest⟩
          exact readItemsInto_cons_eq_ok_iff.mpr
            ⟨set, hV, ih hOthers hField hRest⟩

/- A record is read alike however it is presented. -/
theorem Fits.respects
    (hFits : r.Fits fields) :
    Respects (.record fields) r.read := by
  intro v w x hRestated hRead
  cases hRestated with
  | reorder hPerm =>
      exact readMembersInto_perm hFits.commute hPerm hRead
  | add hNew hGood =>
      exact hFits.readMembersInto_add hNew hGood hRead
  | leaveOut hField =>
      exact hFits.readMembersInto_leaveOut hField hRead
  | member hField hInner =>
      exact hFits.readMembersInto_member hField hInner hRead
  | item hField hInner =>
      exact readItemsInto_restated hFits.each hField hInner
        hRead

/- So is a record after any number of changes. -/
theorem Fits.read_restated
    (hFits : r.Fits fields)
    {v w : Value}
    (hRestated :
      Relation.ReflTransGen (Restated (.record fields)) v w)
    {x : α}
    (hRead : r.read v = .ok x) :
    r.read w = .ok x := by
  induction hRestated with
  | refl => exact hRead
  | tail _ hStep ih =>
      exact hFits.respects _ _ x hStep ih

end Record

end ClientGen.Json
