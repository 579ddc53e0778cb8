import TableScript.Text.Character
import TableScript.Text.Cut

/-! The lines of a script that count. Blank lines and lines that begin with two slashes are left out;
every other line keeps its number and its indentation, so that a place in it can be found again.
Slashes after other content belong to the line. -/

namespace TableScript

structure SourceLine where
  text : String
  /-- Counted from one, over all lines of the script. -/
  number : Nat
  indent : Nat
deriving Repr, DecidableEq

namespace SourceLine

def columnOf (line : SourceLine) (offset : Int) : Int :=
  line.indent + offset + 1

def isComment (content : List Char) : Bool :=
  (Text.after? ['/', '/'] content).isSome

def ofRaw? (number : Nat) (raw : List Char) : Option SourceLine :=
  let content := Text.trim raw
  if content.isEmpty || isComment content then none
  else some ⟨String.ofList content, number, raw.length - (Text.trimStart raw).length⟩

/-- The lines of the script that count, in order. -/
def ofScript (script : String) : List SourceLine :=
  ((script.toList.splitOn '\n').zipIdx 1).filterMap fun (raw, number) => ofRaw? number raw

end SourceLine

end TableScript
