namespace TableScript

def greatestIndex : Nat := 0x7FFFFFFFFFFFFFFF

def noIndex : String :=
  "cannot fit 'int' into an index-sized integer"

structure OutOfRange where
  position : Int
deriving Repr, DecidableEq

def OutOfRange.message (outside : OutOfRange) : String :=
  if -(greatestIndex : Int) - 1 ≤ outside.position ∧ outside.position ≤ greatestIndex then
    "list index out of range"
  else noIndex

/-- How far from the front a position is in a list of that length. Below zero it counts from the end. -/
def positionIndex (length : Nat) (position : Int) : Except OutOfRange Nat :=
  let index := if position < 0 then position + length else position
  if 0 ≤ index ∧ index < length then .ok index.toNat else .error ⟨position⟩

def atPosition {α : Type} (list : List α) (position : Int) : Except OutOfRange α := do
  let index ← positionIndex list.length position
  match list[index]? with
  | some found => .ok found
  | none => .error ⟨position⟩

end TableScript

namespace TableScript.Text

/-- The longest run that memory holds where nothing else is said. -/
def usualMemory : Nat := 0x100000000

inductive RunError where
  | uncountable
  | unholdable
deriving Repr, DecidableEq

/-- Memory that runs out has nothing to say. -/
def RunError.message : RunError → String
  | .uncountable => noIndex
  | .unholdable => ""

/-- Whether there is a run of that many spaces where memory holds runs of that length. -/
def checkRun (memory count : Nat) : Except RunError Unit :=
  if greatestIndex < count then .error .uncountable
  else if memory < count then .error .unholdable
  else .ok ()

def spaces (count : Nat) : String :=
  String.ofList (List.replicate count ' ')

end TableScript.Text
