import TableScript.Lexeme
import TableScript.Model.Schema
import TableScript.Text.Cut
import TableScript.Text.LetterCase

namespace TableScript.Ddl

def double (mark : Char) (text : List Char) : List Char :=
  text.flatMap fun c => if c = mark then [mark, mark] else [c]

/-- A name; one that is not plain stands in double quotes. -/
def identifier (name : String) : String :=
  if Lexeme.isIdentifier name.toList then name
  else String.ofList ('"' :: double '"' name.toList ++ ['"'])

def valueKeywords : List String :=
  ["current_timestamp", "current_date", "current_time", "true", "false", "null"]

/-- A default value: numbers and calls without arguments as they are, keywords in capitals, all
others as texts in quotes. -/
def defaultValue (value : String) : String :=
  if Lexeme.isNumber value.toList || Lexeme.isCall value.toList then value
  else if String.ofList (Text.lower value.toList) ∈ valueKeywords then
    String.ofList (Text.upper value.toList)
  else String.ofList ('\'' :: double '\'' value.toList ++ ['\''])

def tableName (table : Table) : String :=
  match table.schema with
  | some schema =>
      if schema = "" then identifier table.name
      else identifier schema ++ "." ++ identifier table.name
  | none => identifier table.name

def columnDefinition (column : Column) (isKey : Bool) : String :=
  Text.join " "
    ([identifier column.name, column.type] ++
      (if isKey then ["PRIMARY KEY"] else []) ++
      (if column.notNull then ["NOT NULL"] else []) ++
      (if column.unique then ["UNIQUE"] else []) ++
      column.default.toList.map fun value => "DEFAULT " ++ defaultValue value)

/-- The statement that creates a table. One key column is declared as such; several make one key
of the table. -/
def createTable (table : Table) : String :=
  let keys := table.columns.filter (·.primaryKey)
  let several := keys.length > 1
  let columns := table.columns.map fun column =>
    "  " ++ columnDefinition column (column.primaryKey && !several)
  let key :=
    if several then
      ["  PRIMARY KEY (" ++ Text.join ", " (keys.map fun column => identifier column.name) ++ ")"]
    else []
  "CREATE TABLE " ++ tableName table ++ " (\n" ++ Text.join ",\n" (columns ++ key) ++ "\n)"

/-- The end of a reference that holds the key and the end that the key refers to. References from
many to one are written the other way round. -/
def keyEnds (reference : Reference) : Endpoint × Endpoint :=
  match reference.cardinality with
  | .manyToOne => (reference.target, reference.source)
  | _ => (reference.source, reference.target)

def actionClause (event : String) (action : Option String) : String :=
  match action with
  | some text =>
      if text = "" then "" else " ON " ++ event ++ " " ++ String.ofList (Text.upper text.toList)
  | none => ""

/-- The statement that adds a foreign key from a column of one table to a column of another. -/
def keyStatement (reference : Reference) (holder referred : Endpoint) (owner target : Table) : String :=
  let constraint :=
    if isGiven reference.name then reference.name.getD ""
    else "fk_" ++ owner.name ++ "_" ++ holder.column
  "ALTER TABLE " ++ tableName owner ++ " ADD CONSTRAINT " ++ identifier constraint ++
    " FOREIGN KEY (" ++ identifier holder.column ++ ") REFERENCES " ++ tableName target ++
    " (" ++ identifier referred.column ++ ")" ++ actionClause "DELETE" reference.onDelete ++
    actionClause "UPDATE" reference.onUpdate

/-- The foreign key of a reference. A reference from many to many has none, nor has one to or from a table
that is not there. -/
def foreignKey? (schema : Schema) (reference : Reference) : Option String :=
  if reference.cardinality = .manyToMany then none
  else
    let (holder, referred) := keyEnds reference
    match schema.table? holder.table holder.schema, schema.table? referred.table referred.schema with
    | some owner, some target => some (keyStatement reference holder referred owner target)
    | _, _ => none

/-- The dialects of SQL that are taken for known where nothing else is said; the empty name stands for the
general one. -/
def dialects : List String :=
  [ "", "athena", "bigquery", "clickhouse", "databricks", "dax", "doris", "dremio", "drill",
    "druid", "duckdb", "dune", "exasol", "fabric", "hive", "materialize", "mysql", "oracle",
    "postgres", "presto", "prql", "redshift", "risingwave", "singlestore", "snowflake", "solr",
    "spark", "spark2", "sqlite", "starrocks", "tableau", "teradata", "trino", "tsql" ]

structure UnknownDialect where
  name : String
deriving Repr, DecidableEq

def UnknownDialect.message (unknown : UnknownDialect) : String :=
  "Unknown dialect '" ++ unknown.name ++ "'."

/-- Brings a statement into the form of a dialect, or says why it cannot. -/
abbrev Normalizer := String → Except String String

def Normalizer.identity : Normalizer := .ok

def holds (text fragment : List Char) : Bool :=
  match text with
  | [] => fragment.isEmpty
  | c :: rest => (Text.after? fragment (c :: rest)).isSome || holds rest fragment

/-- Refuses the statements that hold one of the fragments and leaves the others as they are. -/
def Normalizer.refusing (fragments : List String) : Normalizer := fun statement =>
  if fragments.any fun fragment => holds statement.toList fragment.toList then
    .error "bad statement"
  else .ok statement

structure Statement where
  subject : String
  text : String
deriving Repr, DecidableEq

structure Export where
  statements : List String
  warnings : List String
  dialect : String
deriving Repr, DecidableEq

def Export.sql (exported : Export) : String :=
  Text.join "\n\n" (exported.statements.map (· ++ ";"))

def noKeyForm : String :=
  "Reference has no foreign key form: "

/-- Adds the foreign key of a reference to the statements. Of a reference that has none there is a warning. -/
def takeReference (schema : Schema) (progress : Export × List Statement) (reference : Reference) :
    Export × List Statement :=
  let (exported, rendered) := progress
  match foreignKey? schema reference with
  | none => ({ exported with warnings := exported.warnings ++ [noKeyForm ++ reference.arrow] }, rendered)
  | some text => (exported, rendered ++ [⟨reference.source.written, text⟩])

/-- Exports a statement in the form of the dialect. One that cannot be brought into it stays as it is, with
a warning. -/
def takeStatement (normalize : Normalizer) (exported : Export) (statement : Statement) : Export :=
  match normalize statement.text with
  | .ok text => { exported with statements := exported.statements ++ [text] }
  | .error reason =>
      { exported with
        statements := exported.statements ++ [statement.text]
        warnings := exported.warnings ++
          ["Could not normalize SQL for " ++ statement.subject ++ ": " ++ reason] }

def exportSchema (normalize : Normalizer) (schema : Schema) (dialect : String)
    (isDialect : String → Bool := dialects.contains) : Except UnknownDialect Export :=
  if isDialect dialect then
    let tables : List Statement :=
      schema.tables.map fun table => ⟨table.qualifiedName, createTable table⟩
    let (exported, rendered) := schema.references.foldl (takeReference schema) (⟨[], [], dialect⟩, tables)
    .ok (rendered.foldl (takeStatement normalize) exported)
  else .error ⟨dialect⟩

end TableScript.Ddl
