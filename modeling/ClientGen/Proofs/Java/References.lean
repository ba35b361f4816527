import ClientGen.Proofs.Java.PageLines
import ClientGen.Proofs.Java.WrittenText
import Mathlib.Data.List.Forall2

/-
  What code writes, with its references to classes left open.

  Main declarations include:
    * `Stretch`
    * `TypeName.stretches`
    * `Code.Part.stretches`
    * `classes_stretches`
    * `written_eq_spelledAll`
    * `WithMargins`
    * `withMargins_renderParts`

  Code is a row of texts and of classes that are still to be
  spelled.  A page shows that row as it is spelled, with
  margins before its lines.
-/

namespace ClientGen.Java

open ClientGen.Text Code

------------------------------------------------------------
-- Stretches of Code
------------------------------------------------------------

/- A stretch of what code writes: a text, or a class. -/
inductive Stretch where
  | text (s : String)
  | class (c : ClassName)
  deriving DecidableEq, Repr

namespace Stretch

/- The class of a stretch, if it is one. -/
def classes : Stretch → List ClassName
  | .text _ => []
  | .class c => [c]

/- A stretch as text. -/
def spelled
    (spellClass : ClassName → String) :
    Stretch → String
  | .text s => s
  | .class c => spellClass c

/- Stretches as one text. -/
def spelledAll
    (spellClass : ClassName → String)
    (stretches : List Stretch) :
    String :=
  String.join (stretches.map (spelled spellClass))

variable {spellClass : ClassName → String}

@[simp]
theorem spelledAll_nil :
    spelledAll spellClass [] = "" :=
  rfl

@[simp]
theorem spelledAll_text_cons
    (s : String)
    (rest : List Stretch) :
    spelledAll spellClass (.text s :: rest) =
      s ++ spelledAll spellClass rest :=
  String.join_cons

@[simp]
theorem spelledAll_class_cons
    (c : ClassName)
    (rest : List Stretch) :
    spelledAll spellClass (.class c :: rest) =
      spellClass c ++ spelledAll spellClass rest :=
  String.join_cons

@[simp]
theorem spelledAll_append
    (a b : List Stretch) :
    spelledAll spellClass (a ++ b) =
      spelledAll spellClass a ++ spelledAll spellClass b := by
  unfold spelledAll
  rw [List.map_append, String.join_append]

end Stretch

mutual

/- What a type writes where it is used. -/
def TypeName.stretches : TypeName → List Stretch
  | .void => [.text "void"]
  | .primitive kind => [.text kind.keyword]
  | .class c => [.class c]
  | .generic raw arguments =>
      .class raw :: .text "<" ::
        (TypeName.stretchesAll arguments ++ [.text ">"])
  | .array component => component.stretches ++ [.text "[]"]
  | .variable name _ => [.text name]

/- What types in a row write, with commas between them. -/
def TypeName.stretchesAll : List TypeName → List Stretch
  | [] => []
  | [t] => t.stretches
  | t :: next :: more =>
      t.stretches ++
        .text ", " :: TypeName.stretchesAll (next :: more)

end

/- What a part of code writes. -/
def Code.Part.stretches : Code.Part → List Stretch
  | .text s => [.text s]
  | .type t => t.stretches
  | .indent => []
  | .unindent => []

------------------------------------------------------------
-- Classes in Stretches
------------------------------------------------------------

mutual

/- The classes are the ones that a type writes, in order. -/
theorem TypeName.classes_stretches :
    (t : TypeName) →
      t.stretches.flatMap Stretch.classes = t.written
  | .void => rfl
  | .primitive _ => rfl
  | .class _ => rfl
  | .generic raw arguments => by
      have hArguments :=
        TypeName.classes_stretchesAll arguments
      simp [stretches, written, Stretch.classes, hArguments]
  | .array component => by
      have hComponent := TypeName.classes_stretches component
      simp [stretches, written, Stretch.classes, hComponent]
  | .variable _ _ => rfl

/- So are those of types in a row. -/
theorem TypeName.classes_stretchesAll :
    (types : List TypeName) →
      (TypeName.stretchesAll types).flatMap Stretch.classes =
        TypeName.writtenAll types
  | [] => rfl
  | [t] => by
      have hOnly := TypeName.classes_stretches t
      simp [stretchesAll, writtenAll, hOnly]
  | t :: next :: more => by
      have hFirst := TypeName.classes_stretches t
      have hRest :=
        TypeName.classes_stretchesAll (next :: more)
      rw [stretchesAll, writtenAll, List.flatMap_append,
        List.flatMap_cons, hFirst, hRest]
      rfl

end

/- And those of code. -/
theorem classes_stretches
    (parts : List Part) :
    (parts.flatMap Part.stretches).flatMap Stretch.classes =
      parts.flatMap Part.written := by
  rw [List.flatMap_assoc]
  refine List.flatMap_congr fun part _ => ?_
  cases part with
  | text s => rfl
  | type t => exact t.classes_stretches
  | indent => rfl
  | unindent => rfl

------------------------------------------------------------
-- Spelled Stretches
------------------------------------------------------------

section

variable {spellClass : ClassName → String}

mutual

/- A type is spelled stretch by stretch. -/
theorem TypeName.spell_eq_spelledAll :
    (t : TypeName) →
      t.spell spellClass =
        Stretch.spelledAll spellClass t.stretches
  | .void => by simp [spell, stretches]
  | .primitive _ => by simp [spell, stretches]
  | .class _ => by simp [spell, stretches]
  | .generic raw arguments => by
      have hArguments :=
        TypeName.joinWith_spellAll arguments
      simp [spell, stretches, hArguments, String.append_assoc]
  | .array component => by
      have hComponent :=
        TypeName.spell_eq_spelledAll component
      simp [spell, stretches, hComponent]
  | .variable _ _ => by simp [spell, stretches]

/- So are types with commas between them. -/
theorem TypeName.joinWith_spellAll :
    (types : List TypeName) →
      joinWith ", " (TypeName.spellAll spellClass types) =
        Stretch.spelledAll spellClass
          (TypeName.stretchesAll types)
  | [] => rfl
  | [t] => TypeName.spell_eq_spelledAll t
  | t :: next :: more => by
      have hFirst := TypeName.spell_eq_spelledAll t
      have hRest :=
        TypeName.joinWith_spellAll (next :: more)
      simp only [spellAll] at hRest
      simp [spellAll, joinWith, stretchesAll, hFirst, hRest,
        String.append_assoc]

end

/- What code writes is the text of its stretches. -/
theorem written_eq_spelledAll
    (parts : List Part) :
    Code.written spellClass parts =
      (Stretch.spelledAll spellClass
        (parts.flatMap Part.stretches)).toList := by
  induction parts with
  | nil => rfl
  | cons part parts ih =>
      cases part with
      | text s => simp [Part.stretches, ih]
      | type t =>
          simp [Part.stretches, ih, t.spell_eq_spelledAll]
      | indent => simpa [Part.stretches] using ih
      | unindent => simpa [Part.stretches] using ih

end

------------------------------------------------------------
-- Margins
------------------------------------------------------------

/- A line behind four spaces for each of some levels. -/
def BehindMargin (line shown : List Char) : Prop :=
  ∃ level, shown = List.replicate (4 * level) ' ' ++ line

/- The lines of a text are shown, each behind a margin. -/
def WithMargins (text shown : String) : Prop :=
  List.Forall₂ BehindMargin (pieces '\n' text.toList)
    (pieces '\n' shown.toList)

/-
  The page shows the text in lines that have ended and one
  that has not, which is empty where nothing of it is there.
-/
structure Page.ShowsLines
    (p : Page)
    (x : List Char)
    (lines shown : List (List Char))
    (line last : List Char) :
    Prop where
  text : pieces '\n' x = lines ++ [line]
  page : pieces '\n' p.text.toList = shown ++ [last]
  ended : List.Forall₂ BehindMargin lines shown
  unended : BehindMargin line last
  start : p.atLineStart = true → line = [] ∧ last = []

section

variable {p : Page}
variable {x line last : List Char}
variable {lines shown : List (List Char)}

/- A line feed ends the line that has not ended. -/
theorem Page.ShowsLines.putChar_newline
    (hShows : p.ShowsLines x lines shown line last) :
    (p.putChar '\n').ShowsLines (x ++ ['\n'])
      (lines ++ [line]) (shown ++ [last]) [] [] where
  text := by
    rw [pieces_append_cons, hShows.text]
    rfl
  page := by
    have hText :
        (p.putChar '\n').text.toList =
          p.text.toList ++ ['\n'] := by
      simp [putChar]
    rw [hText, pieces_append_cons, hShows.page]
    rfl
  ended :=
    List.rel_append hShows.ended (.cons hShows.unended .nil)
  unended := ⟨0, rfl⟩
  start := fun _ => ⟨rfl, rfl⟩

/- Any other character goes on with it. -/
theorem Page.ShowsLines.putChar_of_ne
    {c : Char}
    (hShows : p.ShowsLines x lines shown line last)
    (hC : c ≠ '\n') :
    ∃ next,
      (p.putChar c).ShowsLines (x ++ [c]) lines shown
        (line ++ [c]) next := by
  have hLine : '\n' ∉ [c] := by simpa using Ne.symm hC
  cases hStart : p.atLineStart with
  | false =>
      have hPut := putChar_within hStart hC
      refine ⟨last ++ [c], ?_, ?_, hShows.ended, ?_, ?_⟩
      · exact pieces_append_of_not_mem hShows.text hLine
      · rw [hPut, String.toList_push]
        exact pieces_append_of_not_mem hShows.page hLine
      · rcases hShows.unended with ⟨level, rfl⟩
        exact ⟨level, List.append_assoc _ _ _⟩
      · simp [hPut, hStart]
  | true =>
      -- The margin is set down with the first character.
      rcases hShows.start hStart with ⟨rfl, rfl⟩
      have hPut := putChar_beginning hStart hC
      have hMargin :
          (p.putChar c).text.toList =
            p.text.toList ++ (marginChars p.level ++ [c]) := by
        simp [hPut, marginChars]
      refine ⟨marginChars p.level ++ [c], ?_, ?_,
        hShows.ended, ?_, ?_⟩
      · exact pieces_append_of_not_mem hShows.text hLine
      · rw [hMargin]
        refine pieces_append_of_not_mem hShows.page ?_
        simpa [marginChars_eq] using Ne.symm hC
      · exact ⟨p.level, by rw [marginChars_eq]; rfl⟩
      · simp [hPut]

end

/- Code is rendered as its stretches, behind margins. -/
theorem withMargins_renderParts
    (spellClass : ClassName → String)
    (parts : List Part) :
    WithMargins
      (Stretch.spelledAll spellClass
        (parts.flatMap Part.stretches))
      (renderParts spellClass parts) := by
  have hBlank : Page.blank.ShowsLines [] [] [] [] [] :=
    ⟨rfl, rfl, .nil, ⟨0, rfl⟩, fun _ => ⟨rfl, rfl⟩⟩
  have hShown :
      ∃ lines shown line last,
        (Page.blank.putParts spellClass parts).ShowsLines
          ([] ++ Code.written spellClass parts) lines shown
          line last := by
    refine Page.putParts_induction
      (P := fun p x => ∃ lines shown line last,
        p.ShowsLines x lines shown line last) ?_ ?_
      ⟨_, _, _, _, hBlank⟩ parts
    · rintro p x c ⟨lines, shown, line, last, hShows⟩
      by_cases hC : c = '\n'
      · subst hC
        exact ⟨_, _, _, _, hShows.putChar_newline⟩
      · rcases hShows.putChar_of_ne hC with ⟨next, hNext⟩
        exact ⟨_, _, _, _, hNext⟩
    · rintro p x level ⟨lines, shown, line, last, hShows⟩
      exact ⟨lines, shown, line, last, hShows.text,
        hShows.page, hShows.ended, hShows.unended,
        hShows.start⟩
  rcases hShown with ⟨lines, shown, line, last, hShows⟩
  unfold WithMargins
  rw [← written_eq_spelledAll, renderParts, hShows.page,
    ← List.nil_append (Code.written spellClass parts),
    hShows.text]
  exact List.rel_append hShows.ended
    (.cons hShows.unended .nil)

end ClientGen.Java
