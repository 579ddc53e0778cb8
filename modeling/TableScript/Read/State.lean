import TableScript.Catalog
import TableScript.Model.Reference
import TableScript.Read.Problem
import TableScript.SourceLine

namespace TableScript

/-- What ends the reading of a script before its end. -/
inductive Failure where
  /-- A step was not let begin. -/
  | interrupted (reason : String)
  | alreadyDeclared (refusal : AlreadyDeclared)
  /-- A reference was to be dropped that was not there. -/
  | unlisted (reference : Reference)
deriving Repr, DecidableEq

def Failure.message : Failure → String
  | .interrupted reason => reason
  | .alreadyDeclared refusal => refusal.message
  | .unlisted reference => "Reference '" ++ reference.id ++ "' is not listed"

/-- An inline reference with the column that declares it and the line where it stands. -/
structure InlineUse where
  reference : Reference
  columnId : String
  line : SourceLine
deriving Repr, DecidableEq

structure ReadState where
  catalog : Catalog := .empty
  references : List Reference := []
  inlineUses : List InlineUse := []
  journal : Journal := []
  features : List String := []
  tablesNumbered : Nat := 0
  columnsNumbered : Nat := 0
  referencesNumbered : Nat := 0
deriving Repr, DecidableEq

namespace ReadState

/-- A new table identifier. Identifiers are numbered from zero, without gaps. -/
def numberTable (state : ReadState) : String × ReadState :=
  ("table_" ++ toString state.tablesNumbered,
    { state with tablesNumbered := state.tablesNumbered + 1 })

def numberColumn (state : ReadState) : String × ReadState :=
  ("col_" ++ toString state.columnsNumbered,
    { state with columnsNumbered := state.columnsNumbered + 1 })

def numberReference (state : ReadState) : String × ReadState :=
  ("ref_" ++ toString state.referencesNumbered,
    { state with referencesNumbered := state.referencesNumbered + 1 })

def record (state : ReadState) (diagnostic : Diagnostic) : ReadState :=
  { state with journal := state.journal ++ [diagnostic] }

def reportAs (state : ReadState) (severity : Severity) (problem : Problem) (line : SourceLine)
    (offset : Nat) : ReadState :=
  state.record
    (.make severity problem.kind line.number (line.columnOf offset) problem.message none)

def reportAt (state : ReadState) (problem : Problem) (line : SourceLine) (offset : Nat) :
    ReadState :=
  state.reportAs problem.severity problem line offset

def report (state : ReadState) (problem : Problem) (line : SourceLine) : ReadState :=
  state.reportAt problem line 0

/-- Notes that the script has a feature; a feature is noted once. -/
def addFeature (state : ReadState) (tag : String) : ReadState :=
  if tag ∈ state.features then state else { state with features := state.features ++ [tag] }

end ReadState

end TableScript
