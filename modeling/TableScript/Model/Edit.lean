import TableScript.Model.Schema
import TableScript.Position

namespace TableScript

/-- A field of a table with its new value. Fields are set without any check. -/
inductive TableField where
  | id (value : String)
  | name (value : String)
  | schema (value : Option String)
  | note (value : Option String)
  | columns (value : List Column)
  | properties (value : Properties)

inductive ColumnField where
  | id (value : String)
  | name (value : String)
  | type (value : String)
  | primaryKey (value : Bool)
  | notNull (value : Bool)
  | unique (value : Bool)
  | foreignKey (value : Bool)
  | default (value : Option String)
  | note (value : Option String)
  | properties (value : Properties)
  | quotedName (value : Bool)

inductive ReferenceField where
  | id (value : String)
  | sourceSchema (value : Option String)
  | sourceTable (value : String)
  | sourceColumn (value : String)
  | targetSchema (value : Option String)
  | targetTable (value : String)
  | targetColumn (value : String)
  | cardinality (value : Cardinality)
  | name (value : Option String)
  | onDelete (value : Option String)
  | onUpdate (value : Option String)
  | inline (value : Bool)

inductive MetadataField where
  | version (value : String)
  | created (value : String)
  | modified (value : String)
  | author (value : Option String)

def Table.set (table : Table) : TableField → Table
  | .id value => { table with id := value }
  | .name value => { table with name := value }
  | .schema value => { table with schema := value }
  | .note value => { table with note := value }
  | .columns value => { table with columns := value }
  | .properties value => { table with properties := value }

def Column.set (column : Column) : ColumnField → Column
  | .id value => { column with id := value }
  | .name value => { column with name := value }
  | .type value => { column with type := value }
  | .primaryKey value => { column with primaryKey := value }
  | .notNull value => { column with notNull := value }
  | .unique value => { column with unique := value }
  | .foreignKey value => { column with foreignKey := value }
  | .default value => { column with default := value }
  | .note value => { column with note := value }
  | .properties value => { column with properties := value }
  | .quotedName value => { column with quotedName := value }

def Reference.set (reference : Reference) : ReferenceField → Reference
  | .id value => { reference with id := value }
  | .sourceSchema value => { reference with source := { reference.source with schema := value } }
  | .sourceTable value => { reference with source := { reference.source with table := value } }
  | .sourceColumn value => { reference with source := { reference.source with column := value } }
  | .targetSchema value => { reference with target := { reference.target with schema := value } }
  | .targetTable value => { reference with target := { reference.target with table := value } }
  | .targetColumn value => { reference with target := { reference.target with column := value } }
  | .cardinality value => { reference with cardinality := value }
  | .name value => { reference with name := value }
  | .onDelete value => { reference with onDelete := value }
  | .onUpdate value => { reference with onUpdate := value }
  | .inline value => { reference with inline := value }

def Metadata.set (metadata : Metadata) : MetadataField → Metadata
  | .version value => { metadata with version := value }
  | .created value => { metadata with created := value }
  | .modified value => { metadata with modified := value }
  | .author value => { metadata with author := value }

namespace Schema

/-- The table is the one that a name and perhaps a schema mean. -/
def names (name : String) (qualifier : Option String) (table : Table) : Bool :=
  table.name == name && (qualifier.isNone || table.schema == qualifier)

def addTable (schema : Schema) (table : Table) : Schema :=
  { schema with tables := schema.tables ++ [table] }

def removeTable? (schema : Schema) (name : String) (qualifier : Option String) : Option Schema :=
  if schema.tables.any (names name qualifier) then
    some { schema with tables := schema.tables.eraseP (names name qualifier) }
  else none

/-- Changes the first table that fits. The answer has the table as it is then. -/
def changeTable? (schema : Schema) (name : String) (qualifier : Option String)
    (change : Table → Table) : Option (Schema × Table) :=
  (schema.table? name qualifier).map fun table =>
    ({ schema with tables := modifyFirst (names name qualifier) change schema.tables },
      change table)

def addColumn? (schema : Schema) (name : String) (qualifier : Option String) (column : Column) :
    Option Schema :=
  (schema.changeTable? name qualifier fun table =>
    { table with columns := table.columns ++ [column] }).map Prod.fst

def setTable? (schema : Schema) (name : String) (qualifier : Option String) (field : TableField) :
    Option (Schema × Table) :=
  schema.changeTable? name qualifier (·.set field)

def setColumn? (schema : Schema) (name : String) (qualifier : Option String) (column : String)
    (field : ColumnField) : Option (Schema × Column) := do
  let table ← schema.table? name qualifier
  let found ← table.column? column
  let (changed, _) ← schema.changeTable? name qualifier fun table =>
    { table with columns := modifyFirst (·.name == column) (·.set field) table.columns }
  pure (changed, found.set field)

def addReference (schema : Schema) (reference : Reference) : Schema :=
  { schema with references := schema.references ++ [reference] }

def setReference (schema : Schema) (position : Int) (field : ReferenceField) :
    Except OutOfRange (Schema × Reference) := do
  let index ← positionIndex schema.references.length position
  let reference ← atPosition schema.references position
  let changed := reference.set field
  pure ({ schema with references := schema.references.set index changed }, changed)

def setMetadata (schema : Schema) (field : MetadataField) : Schema :=
  { schema with metadata := schema.metadata.set field }

end Schema

end TableScript
