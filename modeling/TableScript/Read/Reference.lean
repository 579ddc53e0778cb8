import TableScript.Read.Settings
import TableScript.Read.State

namespace TableScript

def Catalog.markForeignKey (catalog : Catalog) (key : TableKey) (column : String) : Catalog :=
  catalog.mapColumns fun table =>
    if table.key = key then
      modifyFirst (·.name == column) (fun found => { found with foreignKey := true }) table.columns
    else table.columns

def Catalog.setForeignKey (catalog : Catalog) (columnId : String) (mark : Bool) : Catalog :=
  catalog.mapColumns fun table =>
    table.columns.map fun column =>
      if column.id = columnId then { column with foreignKey := mark } else column

namespace ReferenceLine

/-- The table where the foreign key mark goes if both ends are declared; otherwise what is missing
and its place in the line. Tables are looked for before columns, the source before the target. -/
def resolve (written : ReferenceLine) (catalog : Catalog) : Except (Problem × Nat) Table :=
  let source := written.source
  let target := written.target
  match catalog.find? source.table source.schema, catalog.find? target.table target.schema with
  | none, _ => .error (.missingTable (qualify source.schema source.table), written.sourceOffset)
  | some _, none =>
      .error (.missingTable (qualify target.schema target.table), written.targetOffset)
  | some sourceTable, some targetTable =>
      if !sourceTable.hasColumn source.column then
        .error (.missingColumn source.table source.column, written.sourceOffset)
      else if !targetTable.hasColumn target.column then
        .error (.missingColumn target.table target.column, written.targetOffset)
      else .ok sourceTable

end ReferenceLine

namespace ReadState

def readReference (policy : Policy) (state : ReadState) (line : SourceLine) : ReadState :=
  match ReferenceLine.read? line.text.toList with
  | none => state.report (.badReference line.text) line
  | some written =>
      match written.resolve state.catalog with
      | .error (problem, offset) => state.reportAt problem line offset
      | .ok sourceTable =>
          let (id, state) := state.numberReference
          let reference : Reference := {
            id
            source := written.source
            target := written.target
            cardinality := written.cardinality
            name := written.name.map String.ofList }
          let settings := Setting.readAll (written.settings.getD [])
          let (state, reference) :=
            settings.foldl (takeReferenceSetting policy line) (state, reference)
          { state with
            references := state.references ++ [reference]
            catalog := state.catalog.markForeignKey sourceTable.key written.source.column }

def missingTarget? (catalog : Catalog) (target : Endpoint) : Option Problem :=
  match catalog.find? target.table target.schema with
  | none => some (.missingTable target.table)
  | some table =>
      if table.hasColumn target.column then none
      else some (.missingColumn target.table target.column)

/-- Drops an inline reference. Its column stays marked only if another reference starts there. -/
def dropInline (state : ReadState) (use : InlineUse) : Except (ReadState × Failure) ReadState :=
  if use.reference ∈ state.references then
    let references := state.references.erase use.reference
    .ok { state with
      references
      catalog := state.catalog.setForeignKey use.columnId
        (references.any (·.source == use.reference.source)) }
  else .error (state, .unlisted use.reference)

def checkInline (check : TargetCheck) (state : ReadState) (use : InlineUse) :
    Except (ReadState × Failure) ReadState :=
  match missingTarget? state.catalog use.reference.target with
  | none => .ok state
  | some problem =>
      match check with
      | .ignore => .ok state
      | .warn => .ok (state.reportAs .warning problem use.line 0)
      | .fail => (state.reportAs .error problem use.line 0).dropInline use

/-- Looks after the targets of all inline references, as far as the policy asks for it. A failure
comes with what there was when it happened. -/
def checkInlines (check : TargetCheck) (state : ReadState) :
    Except (ReadState × Failure) ReadState :=
  match check with
  | .ignore => .ok state
  | _ => state.inlineUses.foldlM (checkInline check) state

end ReadState

end TableScript
