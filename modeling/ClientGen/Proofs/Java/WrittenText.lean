import ClientGen.Java.Imports
import ClientGen.Java.Page
import ClientGen.Proofs.Code.Atoms
import ClientGen.Proofs.Java.Lexical
import ClientGen.Proofs.Text.Occurrences

/-
  What code writes, and what a page shows of it.

  Main declarations include:
    * `Code.written`
    * `SpellsNames`
    * `not_mem_spell`
    * `Page.putParts_induction`
    * `occurrences_renderParts`
    * `Code.WritesWord`
    * `suffix_renderParts`

  A page shows what was written, line by line, with margins
  in between.  A word without spaces is found on the page as
  often as in the text without margins, and lines end as
  they were written.
-/

namespace ClientGen.Java

open ClientGen.Text Code

------------------------------------------------------------
-- Written Text
------------------------------------------------------------

namespace Code

/- What one atom writes. -/
def Atom.written
    (spellClass : ClassName → String) :
    Atom → List Char
  | .char c => [c]
  | .type t => (t.spell spellClass).toList
  | _ => []

/- What parts write, without the margins of lines. -/
def written
    (spellClass : ClassName → String)
    (parts : List Part) :
    List Char :=
  (atoms parts).flatMap (Atom.written spellClass)

variable {spellClass : ClassName → String}

@[simp]
theorem written_nil :
    written spellClass [] = [] :=
  rfl

@[simp]
theorem written_append
    (a b : List Part) :
    written spellClass (a ++ b) =
      written spellClass a ++ written spellClass b := by
  simp [written]

@[simp]
theorem written_text_cons
    (s : String)
    (rest : List Part) :
    written spellClass (.text s :: rest) =
      s.toList ++ written spellClass rest := by
  simp [written, Atom.written, List.flatMap_map]

@[simp]
theorem written_type_cons
    (t : TypeName)
    (rest : List Part) :
    written spellClass (.type t :: rest) =
      (t.spell spellClass).toList ++
        written spellClass rest :=
  rfl

@[simp]
theorem written_indent_cons
    (rest : List Part) :
    written spellClass (.indent :: rest) =
      written spellClass rest :=
  rfl

@[simp]
theorem written_unindent_cons
    (rest : List Part) :
    written spellClass (.unindent :: rest) =
      written spellClass rest :=
  rfl

/- A fragment writes what its parts write. -/
@[simp]
theorem written_ofParts
    (parts : List Part) :
    written spellClass (ofParts parts).parts =
      written spellClass parts := by
  unfold written
  rw [atoms_ofParts]

end Code

------------------------------------------------------------
-- Spellings
------------------------------------------------------------

/- Classes are spelled within their packages or in full. -/
def SpellsNames
    (spellClass : ClassName → String) :
    Prop :=
  ∀ c, spellClass c = c.relative ∨ spellClass c = c.canonical

/- So they are where no file is known. -/
theorem spellsNames_relative :
    SpellsNames ClassName.relative :=
  fun _ => .inl rfl

/- So they are in a file. -/
theorem Scope.spellsNames
    (scope : Scope) :
    SpellsNames scope.spell := by
  intro c
  unfold spell
  by_cases hOnly : scope.IsOnly c.outermost
  · exact .inl (if_pos hOnly)
  · exact .inr (if_neg hOnly)

variable {spellClass : ClassName → String}
variable {d : Char}

/- The marks that types are written with, besides names. -/
def typeMarks :
    List Char :=
  ['.', '<', '>', ',', ' ', '[', ']']

/- Characters that no type is written with. -/
structure IsForeign (d : Char) : Prop where
  isNoPart : isIdentifierPart d = false
  isNoMark : d ∉ typeMarks

/- They are none of the marks, -/
theorem IsForeign.ne
    {mark : Char}
    (hForeign : IsForeign d)
    (hMark : mark ∈ typeMarks) :
    d ≠ mark := by
  rintro rfl
  exact hForeign.isNoMark hMark

/- and in no word. -/
theorem IsForeign.not_mem_word
    {word : String}
    (hForeign : IsForeign d)
    (hWord : word.toList.all isIdentifierPart = true) :
    d ∉ word.toList := by
  intro hMem
  have hPart := List.all_eq_true.mp hWord d hMem
  rw [hForeign.isNoPart] at hPart
  cases hPart

/- A legal class is written without them. -/
theorem ClassName.IsLegal.not_mem_spell
    {c : ClassName}
    (hC : c.IsLegal)
    (hSpells : SpellsNames spellClass)
    (hForeign : IsForeign d) :
    d ∉ (spellClass c).toList := by
  have hDot := hForeign.ne (by decide : '.' ∈ typeMarks)
  rcases hSpells c with hName | hName
  · rw [hName]
    exact hC.not_mem_relative hForeign.isNoPart hDot
  · rw [hName]
    exact hC.not_mem_canonical hForeign.isNoPart hDot

/- So are names in a row. -/
theorem not_mem_joinWith_comma
    {names : List String}
    (hNames : ∀ name ∈ names, d ∉ name.toList)
    (hForeign : IsForeign d) :
    d ∉ (joinWith ", " names).toList := by
  have hComma := hForeign.ne (by decide : ',' ∈ typeMarks)
  have hSpace := hForeign.ne (by decide : ' ' ∈ typeMarks)
  fun_induction joinWith ", " names with
  | case1 => exact List.not_mem_nil
  | case2 name => exact hNames name (by simp)
  | case3 name next more ih =>
      rw [List.forall_mem_cons] at hNames
      have hRest := ih hNames.2
      simp [hNames.1, hRest, hComma, hSpace]

mutual

/- A legal type is written without them, -/
theorem not_mem_spell
    (hSpells : SpellsNames spellClass)
    (hForeign : IsForeign d) :
    (t : TypeName) → t.IsLegal →
      d ∉ (t.spell spellClass).toList
  | .void, _ => by
      rw [TypeName.spell]
      exact hForeign.not_mem_word (by decide)
  | .primitive kind, hLegal => by
      rw [TypeName.isLegal_primitive_iff] at hLegal
      rw [TypeName.spell]
      exact hForeign.not_mem_word
        (List.all_eq_true.mpr
          (all_isIdentifierPart_of_form hLegal).2)
  | .class c, hLegal =>
      (TypeName.isLegal_class_iff.mp hLegal).not_mem_spell hSpells
        hForeign
  | .generic raw arguments, hLegal => by
      rw [TypeName.isLegal_generic_iff] at hLegal
      have hRaw := hLegal.1.not_mem_spell hSpells hForeign
      have hArguments :=
        not_mem_joinWith_comma
          (not_mem_spellAll hSpells hForeign arguments
            hLegal.2) hForeign
      have hOpen := hForeign.ne (by decide : '<' ∈ typeMarks)
      have hClose := hForeign.ne (by decide : '>' ∈ typeMarks)
      simp [TypeName.spell, hRaw, hArguments, hOpen, hClose]
  | .array component, hLegal => by
      have hComponent :=
        not_mem_spell hSpells hForeign
          component (TypeName.isLegal_array_iff.mp hLegal)
      have hOpen := hForeign.ne (by decide : '[' ∈ typeMarks)
      have hClose := hForeign.ne (by decide : ']' ∈ typeMarks)
      simp [TypeName.spell, hComponent, hOpen, hClose]
  | .variable name bounds, hLegal => by
      have hName := (TypeName.isLegal_variable_iff.mp hLegal).1
      exact hForeign.not_mem_word
        (List.all_eq_true.mpr (all_isIdentifierPart hName).2)

/- and so is each of a list. -/
theorem not_mem_spellAll
    (hSpells : SpellsNames spellClass)
    (hForeign : IsForeign d) :
    (types : List TypeName) → (∀ t ∈ types, t.IsLegal) →
      ∀ name ∈ TypeName.spellAll spellClass types,
        d ∉ name.toList
  | [], _ => nofun
  | t :: rest, hLegal => by
      rw [List.forall_mem_cons] at hLegal
      rw [TypeName.spellAll, List.forall_mem_cons]
      exact ⟨not_mem_spell hSpells hForeign t
          hLegal.1,
        not_mem_spellAll hSpells hForeign rest hLegal.2⟩

end

------------------------------------------------------------
-- Pages
------------------------------------------------------------

variable {p : Page}
variable {x : List Char}

/-
  What holds of a page and of the text it is to show holds
  after more has been written, if a character keeps it up
  and levels make no difference.
-/
theorem Page.putParts_induction
    {P : Page → List Char → Prop}
    (hChar :
      ∀ p x c, P p x → P (p.putChar c) (x ++ [c]))
    (hLevel :
      ∀ p x level, P p x → P { p with level } x)
    (hHolds : P p x)
    (parts : List Part) :
    P (p.putParts spellClass parts)
      (x ++ written spellClass parts) := by
  have hText :
      ∀ (s : List Char) p x, P p x →
        P (s.foldl putChar p) (x ++ s) := by
    intro s
    induction s with
    | nil =>
        intro p x hHolds
        rwa [List.append_nil]
    | cons c s ih =>
        intro p x hHolds
        have hRest := ih _ _ (hChar p x c hHolds)
        rwa [List.append_assoc, List.singleton_append]
          at hRest
  induction parts generalizing p x with
  | nil =>
      rw [written_nil, List.append_nil]
      exact hHolds
  | cons part parts ih =>
      have hStep :
          p.putParts spellClass (part :: parts) =
            (p.putPart spellClass part).putParts spellClass
              parts :=
        rfl
      rw [hStep]
      cases part with
      | text s =>
          rw [written_text_cons, ← List.append_assoc]
          exact ih (hText _ p x hHolds)
      | type t =>
          rw [written_type_cons, ← List.append_assoc]
          exact ih (hText _ p x hHolds)
      | indent => exact ih (hLevel p x (p.level + 1) hHolds)
      | unindent => exact ih (hLevel p x (p.level - 1) hHolds)

/- A line begins where there is no text or another ended. -/
def Page.IsOrderly (p : Page) : Prop :=
  p.atLineStart = true →
    p.text.toList = [] ∨
      ∃ front, p.text.toList = front ++ ['\n']

/- So it is behind every character. -/
theorem Page.isOrderly_putChar
    (p : Page)
    (c : Char) :
    (p.putChar c).IsOrderly := by
  unfold Page.putChar
  by_cases hFeed : c = '\n'
  · subst hFeed
    exact fun _ => .inr ⟨p.text.toList, by simp⟩
  · intro hStart
    cases hAt : p.atLineStart <;> simp [hFeed, hAt] at hStart

------------------------------------------------------------
-- Words on Pages
------------------------------------------------------------

/-
  As far as the word can tell, the page shows the text: what
  has been set down differs from it in margins only.
-/
structure Page.Shows
    (w : List Char)
    (p : Page)
    (x : List Char) :
    Prop where
  orderly : p.IsOrderly
  same :
    ∀ rest,
      occurrences w (p.text.toList ++ rest) =
        occurrences w (x ++ rest)

/- A word of more than spaces and line ends. -/
structure IsSolid (w : List Char) : Prop where
  nonempty : w ≠ []
  space : ' ' ∉ w
  newline : '\n' ∉ w

variable {w : List Char}

/- It is not found in margins. -/
theorem IsSolid.occurrences_margin
    (hSolid : IsSolid w)
    (level : Nat)
    (rest : List Char) :
    occurrences w ((Page.margin level).toList ++ rest) =
      occurrences w rest := by
  have hSpace :
      ∀ rest,
        occurrences w (' ' :: rest) = occurrences w rest := by
    intro rest
    have hCut :
        occurrences w ([] ++ ' ' :: rest) =
          occurrences w [] + occurrences w rest :=
      occurrences_separator hSolid.nonempty hSolid.space
    rwa [occurrences_nil hSolid.nonempty, Nat.zero_add]
      at hCut
  induction level with
  | zero => rfl
  | succ level ih =>
      simp [Page.margin, hSpace, ih]

/- So it is not found in the margin of a new line. -/
theorem IsSolid.occurrences_line
    (hSolid : IsSolid w)
    (hOrderly : p.IsOrderly)
    (hStart : p.atLineStart = true)
    (rest : List Char) :
    occurrences w
        (p.text.toList ++
          ((Page.margin p.level).toList ++ rest)) =
      occurrences w (p.text.toList ++ rest) := by
  rcases hOrderly hStart with hText | ⟨front, hText⟩
  · rw [hText]
    exact hSolid.occurrences_margin p.level rest
  · rw [hText, List.append_assoc, List.append_assoc,
      List.singleton_append, List.singleton_append,
      occurrences_separator hSolid.nonempty hSolid.newline,
      occurrences_separator hSolid.nonempty hSolid.newline,
      hSolid.occurrences_margin]

/- The page shows one more character. -/
theorem Page.Shows.putChar
    (hSolid : IsSolid w)
    (hShows : p.Shows w x)
    (c : Char) :
    (p.putChar c).Shows w (x ++ [c]) := by
  have hSame := hShows.same
  refine ⟨p.isOrderly_putChar c, fun rest => ?_⟩
  unfold Page.putChar
  by_cases hFeed : c = '\n'
  · simpa [hFeed] using hSame ('\n' :: rest)
  · cases hStart : p.atLineStart with
    | false => simpa [hFeed, hStart] using hSame (c :: rest)
    | true =>
        have hLine :=
          (hSolid.occurrences_line hShows.orderly hStart
            (c :: rest)).trans (hSame (c :: rest))
        simpa [hFeed] using hLine

/-
  A word without spaces is found in rendered code as often
  as in what the code writes.
-/
theorem occurrences_renderParts
    (hSolid : IsSolid w)
    (spellClass : ClassName → String)
    (parts : List Part) :
    occurrences w (renderParts spellClass parts).toList =
      occurrences w (written spellClass parts) := by
  have hBlank : Page.blank.Shows w [] :=
    ⟨fun _ => .inl rfl, fun _ => rfl⟩
  have hShown :
      ((Page.blank.putParts spellClass parts).Shows w
        ([] ++ written spellClass parts)) :=
    Page.putParts_induction
      (fun _ _ c hShows => hShows.putChar hSolid c)
      (fun _ _ _ hShows => ⟨hShows.orderly, hShows.same⟩)
      hBlank parts
  have hSame := hShown.same []
  rwa [List.append_nil, List.append_nil, List.nil_append]
    at hSame

------------------------------------------------------------
-- Words in Parts
------------------------------------------------------------

/-
  However classes are spelled, the parts write the word that
  often and do not begin it at their end.
-/
def Code.WritesWord
    (w : List Char)
    (n : Nat)
    (parts : List Part) :
    Prop :=
  ∀ spellClass, SpellsNames spellClass →
    Holds w n (written spellClass parts)

section WritesWord

variable {m n : Nat}
variable {a b : List Part}

/- Parts on end write what each of them writes. -/
theorem Code.WritesWord.append
    (hSome : w ≠ [])
    (hA : WritesWord w m a)
    (hB : WritesWord w n b) :
    WritesWord w (m + n) (a ++ b) := by
  intro spellClass hSpells
  rw [written_append]
  exact (hA spellClass hSpells).append hSome
    (hB spellClass hSpells)

/- A text writes what it holds. -/
theorem writesWord_text
    {s : String}
    (hText : Holds w n s.toList) :
    WritesWord w n [.text s] := by
  intro spellClass _
  rwa [written_text_cons, written_nil, List.append_nil]

/- Changes of indentation write nothing. -/
theorem writesWord_indent
    (hSome : w ≠ []) :
    WritesWord w 0 [.indent] ∧ WritesWord w 0 [.unindent] :=
  ⟨fun _ _ => holds_nil hSome, fun _ _ => holds_nil hSome⟩

/- Parts that do not write the word do not on end. -/
theorem writesWord_of_forall
    (hSome : w ≠ [])
    (hParts : ∀ part ∈ a, WritesWord w 0 [part]) :
    WritesWord w 0 a := by
  induction a with
  | nil => exact fun _ _ => holds_nil hSome
  | cons part a ih =>
      rw [List.forall_mem_cons] at hParts
      exact hParts.1.append hSome (ih hParts.2)

/-
  A legal type does not write a word with a character that
  is foreign to types, if it ends in none of the word's.
-/
theorem writesWord_type
    {t : TypeName}
    {c : Char}
    (hForeign : IsForeign d)
    (hWord : d ∈ w)
    (hLegal : t.IsLegal)
    (hApart : c ∉ w)
    (hLast :
      ∀ spellClass, SpellsNames spellClass →
        [c] <:+ (t.spell spellClass).toList) :
    WritesWord w 0 [.type t] := by
  intro spellClass hSpells
  rw [written_type_cons, written_nil, List.append_nil]
  refine ⟨?_, ?_⟩
  · exact occurrences_eq_zero hWord
      (not_mem_spell hSpells hForeign t hLegal)
  · rcases hLast spellClass hSpells with ⟨front, hFront⟩
    rw [← hFront]
    exact endsApart_concat hApart front

/- Generic types end in a bracket. -/
theorem writesWord_generic
    {raw : ClassName}
    {arguments : List TypeName}
    (hForeign : IsForeign d)
    (hWord : d ∈ w)
    (hLegal : (TypeName.generic raw arguments).IsLegal)
    (hApart : '>' ∉ w) :
    WritesWord w 0 [.type (.generic raw arguments)] := by
  refine writesWord_type hForeign hWord hLegal hApart ?_
  intro spellClass _
  rw [TypeName.spell, String.toList_append]
  exact List.suffix_append _ _

/- Classes end as their simple names do. -/
theorem writesWord_inPackage
    {package simple : String}
    {c : Char}
    (hForeign : IsForeign d)
    (hWord : d ∈ w)
    (hLegal : (ClassName.inPackage package simple).IsLegal)
    (hLast : [c] <:+ simple.toList)
    (hApart : c ∉ w) :
    WritesWord w 0
      [.type (.class (ClassName.inPackage package simple))] := by
  refine writesWord_type hForeign hWord
    (TypeName.isLegal_class_iff.mpr hLegal) hApart ?_
  intro spellClass hSpells
  have hRelative :
      (ClassName.inPackage package simple).relative = simple :=
    rfl
  rw [TypeName.spell]
  rcases hSpells (ClassName.inPackage package simple) with
    hSpelled | hSpelled
  · rw [hSpelled, hRelative]
    exact hLast
  · rw [hSpelled, ClassName.canonical, hRelative]
    split_ifs
    · exact hLast
    · rw [String.toList_append]
      exact hLast.trans (List.suffix_append _ _)

/- What the parts write is shown when they are rendered. -/
theorem Code.WritesWord.occurrences_renderParts
    (hSolid : IsSolid w)
    (hWrites : WritesWord w n a)
    (hSpells : SpellsNames spellClass) :
    occurrences w
      (renderParts spellClass (ofParts a).parts).toList = n := by
  rw [Java.occurrences_renderParts hSolid, written_ofParts]
  exact (hWrites spellClass hSpells).count

end WritesWord

------------------------------------------------------------
-- Ends of Lines on Pages
------------------------------------------------------------

/- The page ends as the text does, as far as lines go. -/
structure Page.EndsLike
    (p : Page)
    (x : List Char) :
    Prop where
  orderly : p.IsOrderly
  within : ∀ u, '\n' ∉ u → u <:+ x → u <:+ p.text.toList
  ended :
    ∀ u, '\n' ∉ u → u ++ ['\n'] <:+ x →
      u ++ ['\n'] <:+ p.text.toList

/- It does so after one more character. -/
theorem Page.EndsLike.putChar
    (hEnds : p.EndsLike x)
    (c : Char) :
    (p.putChar c).EndsLike (x ++ [c]) := by
  refine ⟨p.isOrderly_putChar c, ?_, ?_⟩
  · intro u hLine hSuffix
    rcases List.suffix_concat_iff.mp hSuffix with
      rfl | ⟨v, rfl, hV⟩
    · exact List.nil_suffix
    · rw [List.mem_append, not_or, List.mem_singleton]
        at hLine
      have hOther : c ≠ '\n' := Ne.symm hLine.2
      have hFront := hEnds.within v hLine.1 hV
      unfold Page.putChar
      cases hStart : p.atLineStart with
      | false =>
          simpa [hOther, List.suffix_concat_iff] using hFront
      | true =>
          -- Nothing of the line has been written before.
          have hNone : v = [] := by
            rcases hEnds.orderly hStart with
              hText | ⟨front, hText⟩
            · rw [hText] at hFront
              exact List.suffix_nil.mp hFront
            · rw [hText, List.suffix_concat_iff] at hFront
              rcases hFront with hNil | ⟨u, rfl, _⟩
              · exact hNil
              · exact absurd (by simp) hLine.1
          subst hNone
          refine ⟨p.text.toList ++
            (Page.margin p.level).toList, ?_⟩
          simp [hOther]
  · intro u hLine hSuffix
    have hLength : ['\n'].length = [c].length :=
      rfl
    have hBoth :=
      (List.suffix_append_inj_of_length_eq hLength).mp hSuffix
    have hFeed : c = '\n' :=
      (List.singleton_inj.mp hBoth.2).symm
    have hFront := hEnds.within u hLine hBoth.1
    unfold Page.putChar
    rw [if_pos hFeed, hFeed, String.toList_push]
    exact (List.suffix_append_inj_of_length_eq rfl).mpr
      ⟨hFront, rfl⟩

/-
  Rendered code ends with a line that ends as the line that
  was written.
-/
theorem suffix_renderParts
    {u : List Char}
    {parts : List Part}
    (hLine : '\n' ∉ u)
    (hEnds : u ++ ['\n'] <:+ written spellClass parts) :
    u ++ ['\n'] <:+ (renderParts spellClass parts).toList := by
  have hBlank : Page.blank.EndsLike [] :=
    ⟨fun _ => .inl rfl, fun _ _ hSuffix => hSuffix,
      fun _ _ hSuffix => hSuffix⟩
  have hShown :
      (Page.blank.putParts spellClass parts).EndsLike
        ([] ++ written spellClass parts) :=
    Page.putParts_induction
      (fun _ _ c hEnds => hEnds.putChar c)
      (fun _ _ _ hEnds =>
        ⟨hEnds.orderly, hEnds.within, hEnds.ended⟩)
      hBlank parts
  exact hShown.ended u hLine hEnds

end ClientGen.Java
