import ClientGen.Java.Code

/-
  Code on the page: lines that begin with the indentation of
  their level.

  Key definitions include:
    * `Page`
    * `Page.putChar`
    * `Page.put`
    * `Page.putPart`
    * `Page.putParts`
    * `Code.render`

  The margin of a line is set down with the first character
  of the line, so an empty line stays empty and a change of
  level before that character still counts.
-/

namespace ClientGen.Java

------------------------------------------------------------
-- Pages
------------------------------------------------------------

/-
  What has been set down, the level of lines to come, and
  whether the next character begins a line.
-/
structure Page where
  text : String
  level : Nat
  atLineStart : Bool
  deriving DecidableEq, Repr

namespace Page

/- An empty page. -/
def blank : Page :=
  ⟨"", 0, true⟩

/- The space before a line of some level. -/
def margin : Nat → String
  | 0 => ""
  | level + 1 => "    " ++ margin level

/- Set down one character. -/
def putChar
    (p : Page)
    (c : Char) :
    Page :=
  if c = '\n' then
    { p with text := p.text.push c, atLineStart := true }
  else if p.atLineStart then
    { p with
      text := (p.text ++ margin p.level).push c
      atLineStart := false }
  else
    { p with text := p.text.push c }

/- Set down a text. -/
def put
    (p : Page)
    (s : String) :
    Page :=
  s.toList.foldl putChar p

/- Set down one part of code, with a spelling of classes. -/
def putPart
    (spellClass : ClassName → String)
    (p : Page) :
    Code.Part → Page
  | .text s => p.put s
  | .type t => p.put (t.spell spellClass)
  | .indent => { p with level := p.level + 1 }
  | .unindent => { p with level := p.level - 1 }

/- Set down the parts of code one after the other. -/
def putParts
    (spellClass : ClassName → String)
    (p : Page)
    (parts : List Code.Part) :
    Page :=
  parts.foldl (putPart spellClass) p

end Page

------------------------------------------------------------
-- Rendering
------------------------------------------------------------

/- Parts as the text of a page of their own. -/
def renderParts
    (spellClass : ClassName → String)
    (parts : List Code.Part) :
    String :=
  (Page.blank.putParts spellClass parts).text

/- A fragment as text, with classes named within packages. -/
def Code.render
    (code : Code) :
    String :=
  renderParts ClassName.relative code.parts

/- A type as text, with classes named within packages. -/
def TypeName.render
    (t : TypeName) :
    String :=
  t.spell ClassName.relative

end ClientGen.Java
