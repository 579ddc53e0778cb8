import TableScript.Diagnostic

namespace TableScript

inductive SkippedBlock where
  | enum
  | project
  | tableGroup
  | indexes
deriving Repr, DecidableEq

def SkippedBlock.notice : SkippedBlock → String
  | .enum => "Enum definitions are not fully supported"
  | .project => "Project definitions are not modeled"
  | .tableGroup => "Table groups are not supported"
  | .indexes => "Index definitions are not modeled"

inductive SettingOwner where
  | table
  | column
  | reference
deriving Repr, DecidableEq

def SettingOwner.label : SettingOwner → String
  | .table => "table"
  | .column => "column"
  | .reference => "reference"

inductive Problem where
  | badTableHeader (line : String)
  | badSchemaName (name : String)
  | badTableName (name : String)
  | duplicateTable (name : String)
  | unclosedTable (name : String)
  | unclosedBlock (header : String)
  | unknownTableContent (line : String)
  | badNote (line : String)
  | badColumn (line : String)
  | badColumnName (name : String)
  | ignoredText (text : String)
  | missingValue (key : String)
  | unknownSetting (owner : SettingOwner) (key : String)
  | badInlineReference (value : String)
  | badReference (line : String)
  | missingTable (name : String)
  | missingColumn (table column : String)
  | unknownAction (action : String)
  | skippedBlock (block : SkippedBlock) (line : String)
  | unknownLine (line : String)
  | stopped (reason : String)
deriving Repr, DecidableEq

namespace Problem

def message : Problem → String
  | badTableHeader line => "Invalid table definition syntax: " ++ line
  | badSchemaName name => "Invalid schema name: " ++ name
  | badTableName name => "Invalid table name: " ++ name
  | duplicateTable name => "Duplicate table name: " ++ name
  | unclosedTable name => "Missing closing brace for table: " ++ name
  | unclosedBlock header => "Missing closing brace for block: " ++ header
  | unknownTableContent line => "Unrecognized table content: " ++ line
  | badNote line => "Invalid note syntax: " ++ line
  | badColumn line => "Invalid column definition: " ++ line
  | badColumnName name => "Invalid column name: " ++ name
  | ignoredText text => "Unexpected content after column definition ignored: " ++ text
  | missingValue key => "Missing value for setting: " ++ key
  | unknownSetting owner key => "Unknown " ++ owner.label ++ " setting: " ++ key
  | badInlineReference value => "Invalid inline reference: " ++ value
  | badReference line => "Invalid reference syntax: " ++ line
  | missingTable name => "Referenced table not found: " ++ name
  | missingColumn table column => "Referenced column not found: " ++ table ++ "." ++ column
  | unknownAction action => "Unknown referential action: " ++ action
  | skippedBlock block line => block.notice ++ ": " ++ line
  | unknownLine line => "Unrecognized syntax: " ++ line
  | stopped reason => "Fatal parsing error: " ++ reason

def kind : Problem → DiagnosticKind
  | badSchemaName _ | badTableName _ | duplicateTable _ | badColumnName _ | missingTable _
  | missingColumn _ _ => .semantic
  | unknownSetting _ _ | unknownAction _ => .unknownSetting
  | unknownTableContent _ | unknownLine _ => .unrecognized
  | skippedBlock _ _ => .unsupportedConstruct
  | stopped _ => .internal
  | _ => .structural

def severity : Problem → Severity
  | unknownTableContent _ | ignoredText _ | missingValue _ | unknownSetting _ _
  | unknownAction _ | skippedBlock _ _ | unknownLine _ => .warning
  | _ => .error

end Problem

end TableScript
