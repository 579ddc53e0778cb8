import TableScript.Model.Schema
import TableScript.Read.Reference
import TableScript.Read.Table

/-! Reading a whole script, line by line. Every step deals with one line of the top level and with
the lines that belong to it, and hands on the lines behind them. A problem is recorded and the
reading goes on; only a failure of a step ends it, and then everything read before the step stays. -/

namespace TableScript

/-- Which steps are not let begin, and why: the reason for each kind of line that is held up. -/
abbrev Interrupts := LineKind → Option String

def Interrupts.none : Interrupts := fun _ => Option.none

namespace ReadState

def readKind (policy : Policy) (state : ReadState) (kind : LineKind) (line : SourceLine)
    (following : List SourceLine) : Except AlreadyDeclared (ReadState × List SourceLine) :=
  match kind with
  | .table => readTable policy state line following
  | .ref => .ok (readReference policy state line, following)
  | .enum => .ok ((state.noticeBlock .enum kind.featureTag line).skipBlock line following)
  | .project => .ok ((state.noticeBlock .project kind.featureTag line).skipBlock line following)
  | .tableGroup =>
      .ok ((state.noticeBlock .tableGroup kind.featureTag line).skipBlock line following)
  | .indexes => .ok ((state.noticeBlock .indexes kind.featureTag line).skipBlock line following)
  | .columnLike | .note | .brace | .unknown =>
      .ok (state.report (.unknownLine line.text) line, following)

/-- One step: reads what a line of the top level begins, unless lines of its kind are held up. -/
def step (policy : Policy) (interrupts : Interrupts) (state : ReadState) (line : SourceLine)
    (following : List SourceLine) : Except Failure (ReadState × List SourceLine) :=
  let kind := LineKind.classify false line.text.toList
  match interrupts kind with
  | some reason => .error (.interrupted reason)
  | none =>
      match readKind policy state kind line following with
      | .ok done => .ok done
      | .error refusal => .error (.alreadyDeclared refusal)

theorem readKind_suffix {policy : Policy} {state after : ReadState} {kind : LineKind}
    {line : SourceLine} {following rest : List SourceLine}
    (done : readKind policy state kind line following = .ok (after, rest)) :
    rest <:+ following := by
  cases kind with
  | table => exact readTable_suffix done
  | enum | project | tableGroup | indexes =>
      cases done
      exact Skipped.ofHeader_suffix line following
  | ref | columnLike | note | brace | unknown =>
      cases done
      exact List.suffix_refl _

theorem step_suffix {policy : Policy} {interrupts : Interrupts} {state after : ReadState}
    {line : SourceLine} {following rest : List SourceLine}
    (done : step policy interrupts state line following = .ok (after, rest)) :
    rest <:+ following := by
  unfold step at done
  dsimp only at done
  split at done
  · cases done
  · split at done
    · rename_i _ result read
      cases done
      exact readKind_suffix read
    · cases done

/-- Reads the lines of a script, up to the first step that fails. The answer has the line of that
step and the failure. -/
def readLines (policy : Policy) (interrupts : Interrupts) (state : ReadState) :
    List SourceLine → ReadState × Option (SourceLine × Failure)
  | [] => (state, none)
  | line :: following =>
      match _done : step policy interrupts state line following with
      | .ok (after, rest) => readLines policy interrupts after rest
      | .error failure => (state, some (line, failure))
termination_by lines => lines.length
decreasing_by
  have := (step_suffix _done).length_le
  simp only [List.length_cons]
  omega

def stop (state : ReadState) (line : Option SourceLine) (failure : Failure) : ReadState :=
  match line with
  | some line => state.report (.stopped failure.message) line
  | none => state

/-- Reads all lines and then looks after the inline references, unless a step failed. A failure at
the very end belongs to the last line. -/
def ofLines (policy : Policy) (interrupts : Interrupts) (lines : List SourceLine) : ReadState :=
  match readLines policy interrupts {} lines with
  | (state, some (line, failure)) => state.stop line failure
  | (state, none) =>
      match checkInlines policy.targetCheck state with
      | .ok state => state
      | .error (state, failure) => state.stop lines.getLast? failure

/-- The features of a script: what its schema holds, then what was skipped. -/
def featuresUsed (state : ReadState) : List String :=
  let tables := state.catalog.tables
  let columns := tables.flatMap (·.columns)
  let used : List (Bool × String) := [
    (true, "tables"),
    (true, "columns"),
    (!state.references.isEmpty, "references"),
    (tables.any fun table => isGiven table.note, "table_notes"),
    (columns.any fun column => isGiven column.note, "column_notes"),
    (columns.any (·.primaryKey), "primary_keys"),
    (columns.any (·.foreignKey), "foreign_keys"),
    (tables.any fun table => isGiven table.schema, "schemas"),
    (tables.any (fun table => !table.properties.isEmpty) ||
      columns.any (fun column => !column.properties.isEmpty), "custom_properties")]
  (used.filter Prod.fst).map Prod.snd ++ state.features

end ReadState

/-- What reading a script gives. -/
structure Reading where
  tables : List Table
  references : List Reference
  errors : List Diagnostic
  warnings : List Diagnostic
  /-- How many lines count. -/
  lineCount : Nat
  features : List String
deriving Repr, DecidableEq

namespace Reading

/-- Reads a script in which lines of some kinds are held up. -/
def ofInterrupted (policy : Policy) (interrupts : Interrupts) (script : String) : Reading :=
  let lines := SourceLine.ofScript script
  let state := ReadState.ofLines policy interrupts lines
  { tables := state.catalog.tables
    references := state.references
    errors := state.journal.errors
    warnings := state.journal.warnings
    lineCount := lines.length
    features := state.featuresUsed }

def ofScript (policy : Policy) (script : String) : Reading :=
  ofInterrupted policy .none script

/-- The script has no errors; warnings do not count. -/
def succeeded (reading : Reading) : Bool :=
  reading.errors.isEmpty

/-- Errors and warnings by their place in the script; at one place errors come first. -/
def diagnostics (reading : Reading) : List Diagnostic :=
  (reading.errors ++ reading.warnings).mergeSort Diagnostic.notAfter

def schema (reading : Reading) (now : Timestamp) : Schema :=
  { tables := reading.tables, references := reading.references, metadata := .fresh now }

end Reading

end TableScript
