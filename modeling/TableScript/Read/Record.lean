import TableScript.Json
import TableScript.Read.Script

namespace TableScript

def PropertyValue.toJson : PropertyValue → Json
  | .flag present => .bool present
  | .text value => .string value

def propertiesToJson (properties : Properties) : Json :=
  .object (properties.map fun (key, value) => (key, value.toJson))

def Column.toJson (column : Column) : Json :=
  .object [
    ("id", .string column.id),
    ("name", .string column.name),
    ("type", .string column.type),
    ("primary_key", .bool column.primaryKey),
    ("not_null", .bool column.notNull),
    ("unique", .bool column.unique),
    ("foreign_key", .bool column.foreignKey),
    ("default", .optional column.default),
    ("note", .optional column.note),
    ("custom_properties", propertiesToJson column.properties),
    ("quoted_name", .bool column.quotedName)]

def Table.toJson (table : Table) : Json :=
  .object [
    ("id", .string table.id),
    ("name", .string table.name),
    ("schema", .optional table.schema),
    ("columns", .list (table.columns.map Column.toJson)),
    ("note", .optional table.note),
    ("position", .null),
    ("size", .null),
    ("custom_properties", propertiesToJson table.properties)]

def Reference.toJson (reference : Reference) : Json :=
  .object [
    ("id", .string reference.id),
    ("name", .optional reference.name),
    ("from_schema", .optional reference.source.schema),
    ("from_table", .string reference.source.table),
    ("from_column", .string reference.source.column),
    ("to_schema", .optional reference.target.schema),
    ("to_table", .string reference.target.table),
    ("to_column", .string reference.target.column),
    ("type", .string reference.cardinality.label),
    ("on_delete", .optional reference.onDelete),
    ("on_update", .optional reference.onUpdate),
    ("inline", .bool reference.inline)]

def Metadata.toJson (metadata : Metadata) : Json :=
  .object [
    ("version", .string metadata.version),
    ("created", .string metadata.created),
    ("modified", .string metadata.modified),
    ("author", .optional metadata.author)]

def Schema.toJson (schema : Schema) : Json :=
  .object [
    ("tables", .list (schema.tables.map Table.toJson)),
    ("references", .list (schema.references.map Reference.toJson)),
    ("metadata", schema.metadata.toJson)]

def Diagnostic.toJson (diagnostic : Diagnostic) : Json :=
  .object (
    [ ("line", .integer diagnostic.line),
      ("column", .integer diagnostic.column),
      ("message", .string diagnostic.message),
      ("severity", .string diagnostic.severity.label),
      ("kind", .string diagnostic.kind.label)] ++
    diagnostic.suggestion.toList.map fun suggestion => ("suggestion", .string suggestion))

/-- The record of a reading as of now. Reading takes no time that is worth a figure. -/
def Reading.toJson (reading : Reading) (now : Timestamp) : Json :=
  .object [
    ("schema", (reading.schema now).toJson),
    ("errors", .list (reading.errors.map Diagnostic.toJson)),
    ("warnings", .list (reading.warnings.map Diagnostic.toJson)),
    ("metadata", .object [
      ("parse_time", .tenths 0),
      ("lines_processed", .integer reading.lineCount),
      ("features_used", .list (reading.features.map Json.string))])]

end TableScript
