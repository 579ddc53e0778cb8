import TableScript.Position
import TableScript.Read.State

namespace TableScript

/-- A cursor over the lines of a script, for going through them by hand. It may be moved past either end. -/
structure Cursor where
  lines : List SourceLine
  position : Int := 0
  state : ReadState := {}
deriving Repr, DecidableEq

namespace Cursor

def ofScript (script : String) : Cursor :=
  { lines := SourceLine.ofScript script }

def hasNext (cursor : Cursor) : Bool :=
  cursor.position + 1 < cursor.lines.length

/-- The line at the cursor, or the last line when the cursor is behind it. A script without lines
has none. -/
def current (cursor : Cursor) : Except OutOfRange (Option SourceLine) :=
  if cursor.lines.isEmpty then .ok none
  else (atPosition cursor.lines (min cursor.position (cursor.lines.length - 1))).map some

/-- Moves on by one line. The line may be missing; the cursor has moved all the same. -/
def advance (cursor : Cursor) : Cursor × Except OutOfRange SourceLine :=
  let moved := { cursor with position := cursor.position + 1 }
  (moved, atPosition cursor.lines moved.position)

def stepBack (cursor : Cursor) : Cursor :=
  { cursor with position := cursor.position - 1 }

/-- Where a diagnostic belongs: an offset into a line, or the beginning where there is no line. -/
def place (line : Option SourceLine) (offset : Int) : Int × Int :=
  match line with
  | some line => (line.number, line.columnOf (max offset 0))
  | none => (1, 1)

def record (cursor : Cursor) (severity : Severity) (kind : DiagnosticKind) (message : String)
    (position : Option Int) (offset : Int) : Except OutOfRange (Cursor × Diagnostic) := do
  let line ←
    match position with
    | some position => (atPosition cursor.lines position).map some
    | none => cursor.current
  let (number, column) := place line offset
  let diagnostic := Diagnostic.make severity kind number column message none
  pure ({ cursor with state := cursor.state.record diagnostic }, diagnostic)

end Cursor

end TableScript
