import TableScript.Lexeme
import TableScript.Model.Schema
import TableScript.Text.Cut
import TableScript.Text.Shown
import TableScript.Write.Layout

namespace TableScript

inductive WriteError where
  | badTableName (name : String)
  | badSchemaName (name : String)
  | badType (type : String)
  | badColumnName (name : String)
  /-- The bodies of tables cannot be indented as far as the layout asks for. -/
  | badIndent (error : Text.RunError)
deriving Repr, DecidableEq

namespace WriteError

def message : WriteError → String
  | .badTableName name => "Invalid table name: " ++ name
  | .badSchemaName name => "Invalid schema name: " ++ name
  | .badType type => "Column type cannot be expressed: " ++ Text.shown type
  | .badColumnName name => "Column name cannot be quoted: " ++ name
  | .badIndent error => error.message

/-- What the schema cannot say is expected to come up, what the layout cannot do is not. -/
def report (error : WriteError) : String :=
  match error with
  | .badIndent _ => "Unexpected generation error: " ++ error.message
  | _ => "Generation failed: " ++ error.message

end WriteError

namespace Write

def quoted (text : String) : String :=
  String.ofList (Text.quote text.toList)

/-- A default value: numbers as they are, values that carry quotes as they are, others in quotes. -/
def defaultValue (value : String) : String :=
  if Lexeme.isNumber value.toList || Text.isQuoted value.toList then value else quoted value

/-- The name of a column: bare if it may be, otherwise in the quotes that it does not hold. -/
def columnName (column : Column) : Except WriteError String :=
  let name := column.name
  if !column.quotedName && Lexeme.isIdentifier name.toList then .ok name
  else if !name.toList.contains '"' then .ok ("\"" ++ name ++ "\"")
  else if !name.toList.contains '\'' then .ok ("'" ++ name ++ "'")
  else .error (.badColumnName name)

/-- A property as a setting; a flag that is not set is not written. -/
def property? (entry : String × PropertyValue) : Option String :=
  match entry.2 with
  | .flag true => some entry.1
  | .flag false => none
  | .text value =>
      some (entry.1 ++ ": " ++ if Lexeme.isBareValue value.toList then value else quoted value)

def properties (layout : Layout) (properties : Properties) : List String :=
  if layout.properties then properties.filterMap property? else []

def note? (layout : Layout) (note : Option String) : Option String :=
  match note with
  | some text => if text ≠ "" && layout.comments then some (quoted text) else none
  | none => none

/-- The settings of a column; `references` are those that are written with it. -/
def columnSettings (layout : Layout) (column : Column) (references : List Reference) :
    List String :=
  (if column.primaryKey then ["pk"] else []) ++
    (if column.notNull then ["not null"] else []) ++
    (if column.unique then ["unique"] else []) ++
    (column.default.toList.map fun value => "default: " ++ defaultValue value) ++
    ((note? layout column.note).toList.map fun note => "note: " ++ note) ++
    (references.map fun reference =>
      "ref: " ++ reference.cardinality.symbol ++ " " ++ reference.target.written) ++
    properties layout column.properties

/-- Settings in brackets with a space in front; nothing if there are none. -/
def bracketed (settings : List String) : String :=
  if settings.isEmpty then "" else " [" ++ Text.join ", " settings ++ "]"

def columnLine (layout : Layout) (column : Column) (references : List Reference) :
    Except WriteError String :=
  if Lexeme.isColumnType column.type.toList then do
    let name ← columnName column
    pure (name ++ " " ++ column.type ++ bracketed (columnSettings layout column references))
  else .error (.badType column.type)

def tableName (table : Table) : Except WriteError String :=
  if !Lexeme.isIdentifier table.name.toList then .error (.badTableName table.name)
  else
    match table.schema with
    | none => .ok table.name
    | some schema =>
        if Lexeme.isIdentifier schema.toList then .ok (schema ++ "." ++ table.name)
        else .error (.badSchemaName schema)

/-- The lines of a table. `referencesOf` gives the references that are written with a column. -/
def tableLines (layout : Layout) (referencesOf : Column → List Reference) (table : Table) :
    Except WriteError (List String) := do
  let name ← tableName table
  layout.checkIndent.mapError .badIndent
  let header := "Table " ++ name ++ bracketed (properties layout table.properties) ++ " \x7b"
  let columns ← table.columns.mapM fun column => do
    let line ← columnLine layout column (referencesOf column)
    pure (layout.indent ++ line)
  let notes := (note? layout table.note).toList.map fun note =>
    layout.indent ++ "Note: " ++ note
  pure (header :: columns ++ notes ++ ["\x7d"])

end Write

end TableScript
