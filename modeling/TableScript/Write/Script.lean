import TableScript.Write.Table

namespace TableScript

/-- The reference is written as a setting of its source column: it was declared so, the column is
there, and it carries nothing that a setting could not say. -/
def Schema.writesInline (schema : Schema) (reference : Reference) : Bool :=
  reference.inline && !isGiven reference.name && !isGiven reference.onDelete &&
    !isGiven reference.onUpdate &&
    match schema.table? reference.source.table reference.source.schema with
    | some table =>
        table.schema == reference.source.schema && table.hasColumn reference.source.column
    | none => false

def Schema.inlineReferences (schema : Schema) (table : Table) (column : Column) : List Reference :=
  schema.references.filter fun reference =>
    reference.source == ⟨table.schema, table.name, column.name⟩ && schema.writesInline reference

def Schema.standaloneReferences (schema : Schema) : List Reference :=
  schema.references.filter fun reference => !schema.writesInline reference

namespace Write

def labelled (label : String) (text : Option String) : List String :=
  if isGiven text then [label ++ text.getD ""] else []

def header (now : Timestamp) (metadata : Metadata) : List String :=
  ["// Database Schema", "// Generated on: " ++ now, "// Version: " ++ metadata.version] ++
    labelled "// Author: " metadata.author ++
    labelled "// Created: " (some metadata.created) ++
    labelled "// Modified: " (some metadata.modified)

def statistics (schema : Schema) : List String :=
  [ "// Schema Statistics:",
    "// Tables: " ++ toString schema.tables.length,
    "// Columns: " ++ toString schema.columnCount,
    "// References: " ++ toString schema.references.length ]

def referenceLine (reference : Reference) : String :=
  let name := if isGiven reference.name then " " ++ reference.name.getD "" else ""
  let actions := labelled "delete: " reference.onDelete ++ labelled "update: " reference.onUpdate
  "Ref" ++ name ++ ": " ++ reference.arrow ++ bracketed actions

/-- The references of their own, under a comment; no block if there are none. -/
def referenceBlock (layout : Layout) (references : List Reference) : List (List String) :=
  if references.isEmpty then []
  else
    [(if layout.comments then ["// References"] else []) ++ references.map referenceLine]

def blocks (layout : Layout) (now : Timestamp) (schema : Schema) :
    Except WriteError (List (List String)) := do
  let framed := layout.comments && layout.metadata
  let tables ← schema.tables.mapM fun table =>
    tableLines layout (schema.inlineReferences table) table
  pure
    ((if framed then [header now schema.metadata] else []) ++ tables ++
      referenceBlock layout schema.standaloneReferences ++
      (if framed then [statistics schema] else []))

def lines (layout : Layout) (blocks : List (List String)) : List String :=
  if layout.blankLines then (blocks.intersperse [""]).flatten else blocks.flatten

def script (layout : Layout) (now : Timestamp) (schema : Schema) : Except WriteError String := do
  pure (Text.join "\n" (lines layout (← blocks layout now schema)))

/-- The number of lines of a text; an empty text has none. -/
def countLines (text : String) : Nat :=
  if text = "" then 0 else text.toList.count '\n' + 1

end Write

/-- What writing a schema gives: a script, or the reason why there is none. -/
structure Writing where
  text : String
  succeeded : Bool
  warnings : List String
  tableCount : Nat
  referenceCount : Nat
  lineCount : Nat
deriving Repr, DecidableEq

namespace Writing

def failure (reason : String) : Writing :=
  ⟨"", false, [reason], 0, 0, 0⟩

def ofSchema (layout : Layout) (now : Timestamp) (schema : Schema) : Writing :=
  match Write.script layout now schema with
  | .ok text =>
      ⟨text, true, [], schema.tables.length, schema.references.length, Write.countLines text⟩
  | .error error => failure error.report

def withOptions (pairs : List (String × OptionValue)) (now : Timestamp) (schema : Schema) :
    Writing :=
  match Layout.ofOptions pairs with
  | .ok layout => ofSchema layout now schema
  | .error error => failure ("Invalid generator options: " ++ error.message)

end Writing

end TableScript
