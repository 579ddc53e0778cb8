import TableScript.Text.Cut
import TableScript.Text.Shown

namespace TableScript

structure UnknownLabel where
  label : String
  family : String
deriving Repr, DecidableEq

def UnknownLabel.message (unknown : UnknownLabel) : String :=
  Text.shown unknown.label ++ " is not a valid " ++ unknown.family

inductive Severity where
  | error
  | warning
deriving Repr, DecidableEq

namespace Severity

def label : Severity → String
  | .error => "error"
  | .warning => "warning"

def ofLabel (label : String) : Except UnknownLabel Severity :=
  match [error, warning].find? (·.label == label) with
  | some severity => .ok severity
  | none => .error ⟨label, "Severity"⟩

end Severity

inductive DiagnosticKind where
  /-- A line does not follow the grammar of its construct. -/
  | structural
  /-- A bad name, a table declared twice, a reference to nowhere. -/
  | semantic
  /-- A construct that is recognised and skipped. -/
  | unsupportedConstruct
  | unknownSetting
  /-- A line that no construct begins with. -/
  | unrecognized
  /-- Reading stopped. -/
  | internal
deriving Repr, DecidableEq

namespace DiagnosticKind

def label : DiagnosticKind → String
  | .structural => "structural"
  | .semantic => "semantic"
  | .unsupportedConstruct => "unsupported_construct"
  | .unknownSetting => "unknown_setting"
  | .unrecognized => "unrecognized"
  | .internal => "internal"

def ofLabel (label : String) : Except UnknownLabel DiagnosticKind :=
  match [structural, semantic, unsupportedConstruct, unknownSetting, unrecognized,
      internal].find? (·.label == label) with
  | some kind => .ok kind
  | none => .error ⟨label, "DiagnosticKind"⟩

end DiagnosticKind

def adviceTable : List (String × String) :=
  let identifierRule :=
    "must start with a letter or underscore and contain only letters, numbers, and underscores"
  [ ("Invalid table name", "Table names " ++ identifierRule),
    ("Invalid schema name", "Schema names " ++ identifierRule),
    ("Invalid column name",
      "Column names " ++ identifierRule ++ "; quote the name to use other characters"),
    ("Duplicate table name", "Each table must have a unique name within its schema"),
    ("Referenced table not found",
      "Make sure the referenced table is defined before creating references to it"),
    ("Referenced column not found", "Make sure the column is declared in the referenced table"),
    ("Invalid column definition", "Columns are written as: <name> <type> [settings]"),
    ("Invalid reference syntax", "References are written as: Ref: table.column > table.column"),
    ("Missing closing brace", "Close the table body with a line containing only '\x7d'") ]

def advice? (message : String) : Option String :=
  (adviceTable.find? fun entry =>
    (Text.after? entry.1.toList message.toList).isSome).map Prod.snd

structure Diagnostic where
  line : Int
  column : Int
  message : String
  severity : Severity
  kind : DiagnosticKind
  suggestion : Option String := none
deriving Repr, DecidableEq

namespace Diagnostic

/-- A diagnostic with the advice that its message calls for, unless other advice is given. -/
def make (severity : Severity) (kind : DiagnosticKind) (line column : Int) (message : String)
    (suggestion : Option String) : Diagnostic :=
  { line, column, message, severity, kind, suggestion := suggestion <|> advice? message }

def isError (diagnostic : Diagnostic) : Bool :=
  diagnostic.severity == .error

def shown (diagnostic : Diagnostic) : String :=
  toString diagnostic.line ++ ":" ++ toString diagnostic.column ++ ": " ++
    diagnostic.severity.label ++ ": " ++ diagnostic.message

def notAfter (first second : Diagnostic) : Bool :=
  first.line < second.line || (first.line == second.line && first.column ≤ second.column)

end Diagnostic

/-- Diagnostics in the order in which they were found. -/
abbrev Journal := List Diagnostic

namespace Journal

def ofSeverity (journal : Journal) (severity : Severity) : List Diagnostic :=
  journal.filter (·.severity == severity)

def errors (journal : Journal) : List Diagnostic :=
  journal.ofSeverity .error

def warnings (journal : Journal) : List Diagnostic :=
  journal.ofSeverity .warning

def hasErrors (journal : Journal) : Bool :=
  journal.any Diagnostic.isError

structure Summary where
  errors : Nat
  warnings : Nat
deriving Repr, DecidableEq

def summary (journal : Journal) : Summary :=
  ⟨journal.errors.length, journal.warnings.length⟩

end Journal

end TableScript
