import TableScript.Read.Script
import TableScript.Write.Script

namespace TableScript

structure RoundTrip where
  isValid : Bool
  errors : List String
  /-- The script in between; empty if none could be written. -/
  text : String
deriving Repr, DecidableEq

namespace RoundTrip

/-- The names that are in the first list and not in the second, sorted, each once. -/
def missingNames (names others : List String) : List String :=
  ((names.filter fun name => !others.contains name).eraseDups).mergeSort (· ≤ ·)

def nameErrors (label : String) (names : List String) : List String :=
  if names.isEmpty then [] else [label ++ Text.join ", " names]

def countErrors (label : String) (expected got : Nat) : List String :=
  if expected = got then []
  else [label ++ " mismatch: expected " ++ toString expected ++ ", got " ++ toString got]

/-- Schemas are compared by the number of their tables, the names of their tables and the number of their
references. -/
def differences (schema : Schema) (reading : Reading) : List String :=
  let names := schema.tables.map Table.qualifiedName
  let namesRead := reading.tables.map Table.qualifiedName
  (reading.errors.map fun error =>
      "Parse error at line " ++ toString error.line ++ ": " ++ error.message) ++
    countErrors "Table count" schema.tables.length reading.tables.length ++
    nameErrors "Missing tables after round trip: " (missingNames names namesRead) ++
    nameErrors "Unexpected tables after round trip: " (missingNames namesRead names) ++
    countErrors "Reference count" schema.references.length reading.references.length

def ofWriting (schema : Schema) (writing : Writing) : RoundTrip :=
  if writing.succeeded then
    let errors := differences schema (.ofScript {} writing.text)
    ⟨errors.isEmpty, errors, writing.text⟩
  else ⟨false, writing.warnings, ""⟩

end RoundTrip

end TableScript
