/-!
# Places in a YAML text and syntax errors

A mark is a place in a YAML text: the number of UTF-8 bytes before it, and its line and
column in characters, all counted from 0. Messages write a mark with line and column counted from 1,
and leave out a mark that is the very start of the text, which is also what a mark that
was never set looks like.

A syntax error names its problem and where it was found, and, for most problems, what was
being read and where that began. A character that the reader refuses has no mark but a
byte offset instead. The message joins the parts as `problem at line L column C, context
at line L column C`, leaving out the place of the context when it is the place of the
problem.
-/

namespace PlanetTiles.Yaml

/-- A place in a YAML text, counted from 0. -/
structure Mark where
  /-- UTF-8 bytes before the place -/
  index : Nat
  /-- line of the place -/
  line : Nat
  /-- column of the place -/
  column : Nat
  deriving DecidableEq, Repr, Inhabited

namespace Mark

/-- The start of the text. -/
def start : Mark := ⟨0, 0, 0⟩

/-- The mark is at line 0, column 0: messages leave it out. -/
def isStart (m : Mark) : Bool :=
  m.line == 0 && m.column == 0

/-- The mark as messages write it. -/
def text (m : Mark) : String :=
  "line " ++ toString (m.line + 1) ++ " column " ++ toString (m.column + 1)

/-- The mark after ` at `, or nothing for the start of the text. -/
def suffix (m : Mark) : String :=
  if m.isStart then "" else " at " ++ m.text

end Mark

/-- What went wrong in reading a YAML text, where, and while reading what. -/
structure SyntaxError where
  /-- the problem -/
  problem : String
  /-- where it was found -/
  mark : Mark
  /-- the byte offset of a refused character, 0 otherwise -/
  offset : Nat := 0
  /-- what was being read, and where that began -/
  context : Option (String × Mark) := none
  deriving DecidableEq, Repr

/-- The text of a syntax error. -/
def SyntaxError.message (e : SyntaxError) : String :=
  let place :=
    if !e.mark.isStart then " at " ++ e.mark.text
    else if e.offset ≠ 0 then " at position " ++ toString e.offset
    else ""
  let context := match e.context with
    | none => ""
    | some (what, m) =>
      ", " ++ what ++
        if !m.isStart && (m.line != e.mark.line || m.column != e.mark.column) then
          " at " ++ m.text
        else ""
  e.problem ++ place ++ context

end PlanetTiles.Yaml
