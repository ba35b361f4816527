import ClientGen.Proofs.Code.NormalForm
import ClientGen.Proofs.Java.PageLines
import ClientGen.Proofs.Text.Pieces

/-
  Code that is set down in one go or in many.

  Main declarations include:
    * `Page.emit`
    * `Page.put_eq_emit`
    * `Page.putParts_map_part`
    * `Page.putParts_ofParts`
    * `Page.putBlocks`
    * `Page.putParts_join`
    * `emission_action`

  A page after some code depends on the characters, types and
  changes of level alone.  Where one text ends and the next
  begins makes no difference, be it in the middle of a line,
  beside its end or on an empty one.
-/

namespace ClientGen.Java

open ClientGen.Text

namespace Page

------------------------------------------------------------
-- Line by Line
------------------------------------------------------------

/-
  Go on with a piece of a line.  The margin comes with the
  first piece of the line that is not empty.
-/
def putPiece
    (p : Page)
    (piece : List Char) :
    Page :=
  if piece = [] then p
  else
    { p with
      text :=
        p.text ++
          (if p.atLineStart then margin p.level else "") ++
          String.ofList piece
      atLineStart := false }

/- End a line. -/
def endLine
    (p : Page) :
    Page :=
  { p with text := p.text.push '\n', atLineStart := true }

/- Set down pieces with the end of a line between each two. -/
def putPieces
    (p : Page) :
    List (List Char) → Page
  | [] => p
  | [piece] => p.putPiece piece
  | piece :: next :: more =>
      (p.putPiece piece).endLine.putPieces (next :: more)

/- Set down a text by cutting it into lines. -/
def emit
    (p : Page)
    (s : String) :
    Page :=
  p.putPieces (pieces '\n' s.toList)

@[simp]
theorem putPiece_nil
    (p : Page) :
    p.putPiece [] = p :=
  if_pos rfl

/- A line feed is what ends a line. -/
theorem putChar_newline
    (p : Page) :
    p.putChar '\n' = p.endLine :=
  if_pos rfl

/- A piece can be set down behind its first character. -/
theorem putPiece_putChar
    {c : Char}
    (hFeed : c ≠ '\n')
    (p : Page)
    (piece : List Char) :
    (p.putChar c).putPiece piece = p.putPiece (c :: piece) := by
  cases hStart : p.atLineStart with
  | true =>
      cases piece <;>
        simp [putChar, putPiece, hFeed, hStart, String.ext_iff]
  | false =>
      cases piece <;>
        simp [putChar, putPiece, hFeed, hStart, String.ext_iff]

/- Further pieces only see the page behind the first one. -/
theorem putPieces_cons_congr
    {p q : Page}
    {piece other : List Char}
    (hFirst : p.putPiece piece = q.putPiece other)
    (more : List (List Char)) :
    p.putPieces (piece :: more) =
      q.putPieces (other :: more) := by
  cases more with
  | nil => exact hFirst
  | cons next more =>
      rw [putPieces, putPieces, hFirst]

/- A text is set down line by line. -/
theorem put_eq_emit
    (p : Page)
    (s : String) :
    p.put s = p.emit s := by
  unfold put emit
  generalize s.toList = chars
  induction chars generalizing p with
  | nil => rfl
  | cons c chars ih =>
      rw [List.foldl_cons, ih]
      cases hRest : pieces '\n' chars with
      | nil => exact absurd hRest (pieces_ne_nil chars)
      | cons piece more =>
          by_cases hFeed : c = '\n'
          · subst hFeed
            rw [pieces_separator_cons, hRest, putChar_newline,
              putPieces, putPiece_nil]
          · rw [pieces_cons_of_ne hFeed hRest]
            exact putPieces_cons_congr
              (putPiece_putChar hFeed p piece) more

example :
    (Page.mk "a" 1 false).emit "b\n\nc" =
      ⟨"ab\n\n    c", 1, false⟩ := by
  decide

------------------------------------------------------------
-- Texts in Pieces
------------------------------------------------------------

variable {spellClass : ClassName → String}

/- A part is set down by setting down its atoms. -/
theorem putParts_atoms
    (p : Page)
    (part : Code.Part) :
    p.putParts spellClass (part.atoms.map Code.Atom.part) =
      p.putPart spellClass part := by
  cases part with
  | text s =>
      have hChar :
          ∀ (q : Page) (c : Char),
            q.putPart spellClass (Code.Atom.char c).part =
              q.putChar c := by
        intro q c
        simp [Code.Atom.part, putPart, put]
      rw [putParts, Code.Part.atoms_text, List.map_map,
        List.foldl_map]
      simp only [Function.comp_apply, hChar]
      rfl
  | type t => rfl
  | indent => rfl
  | unindent => rfl

/- Texts may be cut into single characters. -/
theorem putParts_map_part
    (p : Page)
    (parts : List Code.Part) :
    p.putParts spellClass
        ((Code.atoms parts).map Code.Atom.part) =
      p.putParts spellClass parts := by
  induction parts generalizing p with
  | nil => rfl
  | cons part parts ih =>
      rw [Code.atoms_cons, List.map_append, putParts_append,
        putParts_atoms, ih]
      rfl

/- So pages behind code are known by its atoms. -/
theorem putParts_eq_of_atoms
    {a b : List Code.Part}
    (hAtoms : Code.atoms a = Code.atoms b)
    (p : Page) :
    p.putParts spellClass a = p.putParts spellClass b := by
  rw [← putParts_map_part p a, hAtoms, putParts_map_part]

/- Texts on end may be put together. -/
theorem putParts_ofParts
    (p : Page)
    (parts : List Code.Part) :
    p.putParts spellClass (Code.ofParts parts).parts =
      p.putParts spellClass parts :=
  putParts_eq_of_atoms (Code.atoms_ofParts parts) p

------------------------------------------------------------
-- Blocks in Turn
------------------------------------------------------------

/- Set down blocks with a text between each two. -/
def putBlocks
    (spellClass : ClassName → String)
    (separator : String)
    (p : Page) :
    List Code → Page
  | [] => p
  | [code] => p.putParts spellClass code.parts
  | code :: next :: more =>
      putBlocks spellClass separator
        ((p.putParts spellClass code.parts).put separator)
        (next :: more)

/- That is to set down what they are joined to. -/
theorem putParts_join
    (p : Page)
    (blocks : List Code)
    (separator : String) :
    p.putParts spellClass (Code.join blocks separator).parts =
      p.putBlocks spellClass separator blocks := by
  rw [Code.join, putParts_ofParts]
  fun_induction Code.joinedParts separator blocks
    generalizing p with
  | case1 => rfl
  | case2 code => rfl
  | case3 code next more ih =>
      rw [putParts_append, putBlocks, ← ih]
      rfl

end Page

/-
  Texts act on pages, whatever stands there, at any level and
  anywhere on a line.  A text is set down line by line, the
  empty one changes nothing, and one text behind another is
  both of them together.  So texts in code may be cut or put
  together at any place, even into single characters or into
  the normal form, and joined blocks do what the blocks do in
  turn.
-/
theorem emission_action :
    (∀ (p : Page) (s : String), p.put s = p.emit s) ∧
    (∀ p : Page, p.put "" = p) ∧
    (∀ (p : Page) (s t : String),
      (p.put s).put t = p.put (s ++ t)) ∧
    ∀ (spellClass : ClassName → String) (p : Page),
      (∀ before s t after,
        p.putParts spellClass
            (before ++ .text s :: .text t :: after) =
          p.putParts spellClass
            (before ++ .text (s ++ t) :: after)) ∧
      (∀ parts,
        p.putParts spellClass
              ((Code.atoms parts).map Code.Atom.part) =
            p.putParts spellClass parts ∧
          p.putParts spellClass (Code.ofParts parts).parts =
            p.putParts spellClass parts) ∧
      (∀ a b : Code,
        (p.putParts spellClass a.parts).putParts spellClass
            b.parts =
          p.putParts spellClass (Code.join [a, b] "").parts) ∧
      ∀ (blocks : List Code) (separator : String),
        p.putBlocks spellClass separator blocks =
          p.putParts spellClass
            (Code.join blocks separator).parts := by
  refine ⟨Page.put_eq_emit, fun _ => rfl, ?action, ?code⟩
  case action =>
    intro p s t
    exact (p.put_append s t).symm
  intro spellClass p
  refine ⟨?cut, ?normal, ?pair, ?blocks⟩
  case cut =>
    intro before s t after
    exact Page.putParts_eq_of_atoms (by simp) p
  case normal =>
    intro parts
    exact ⟨Page.putParts_map_part p parts,
      Page.putParts_ofParts p parts⟩
  case pair =>
    intro a b
    exact (Page.putParts_join p [a, b] "").symm
  case blocks =>
    intro blocks separator
    exact (Page.putParts_join p blocks separator).symm

end ClientGen.Java
