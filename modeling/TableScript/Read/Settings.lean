import TableScript.Read.Policy
import TableScript.Read.State
import TableScript.Setting
import TableScript.Grammar.ReferenceLine

namespace TableScript

/-- The value under which a setting that is not understood is kept. -/
def Setting.property (setting : Setting) : PropertyValue :=
  match setting.value with
  | some value => .text value
  | none => .flag true

namespace ReadState

def reportUnknown (state : ReadState) (policy : Policy) (owner : SettingOwner)
    (setting : Setting) (line : SourceLine) : ReadState :=
  if policy.reportUnknownSettings then state.report (.unknownSetting owner setting.key) line
  else state

def takeTableSetting (policy : Policy) (line : SourceLine) (progress : ReadState × Table)
    (setting : Setting) : ReadState × Table :=
  let (state, table) := progress
  if setting.name = "note" then (state, { table with note := setting.value })
  else
    (state.reportUnknown policy .table setting line,
      { table with properties := Entries.put setting.key setting.property table.properties })

/-- The action that a setting of a reference names. An action that is not known is kept. -/
def takeAction (state : ReadState) (line : SourceLine) (setting : Setting) :
    ReadState × Option String :=
  match setting.value with
  | none => (state.report (.missingValue setting.key) line, none)
  | some action =>
      if String.ofList (Text.lower action.toList) ∈ referentialActions then (state, some action)
      else (state.report (.unknownAction action) line, some action)

def takeReferenceSetting (policy : Policy) (line : SourceLine)
    (progress : ReadState × Reference) (setting : Setting) : ReadState × Reference :=
  let (state, reference) := progress
  if setting.name = "delete" || setting.name = "on delete" then
    let (state, action) := state.takeAction line setting
    (state, { reference with onDelete := action })
  else if setting.name = "update" || setting.name = "on update" then
    let (state, action) := state.takeAction line setting
    (state, { reference with onUpdate := action })
  else (state.reportUnknown policy .reference setting line, reference)

/-- Takes the reference that a column declares by a setting. Whether its target exists cannot be
told before the whole script is read. -/
def takeInlineReference (line : SourceLine) (table : Table) (progress : ReadState × Column)
    (setting : Setting) : ReadState × Column :=
  let (state, column) := progress
  let value := setting.value.getD ""
  match InlineReference.read? value.toList with
  | none => (state.report (.badInlineReference value) line, column)
  | some inline =>
      let (id, state) := state.numberReference
      let reference : Reference := {
        id
        source := ⟨table.schema, table.name, column.name⟩
        target := inline.target
        cardinality := inline.cardinality
        inline := true }
      ({ state with
          references := state.references ++ [reference]
          inlineUses := state.inlineUses ++ [⟨reference, column.id, line⟩] },
        { column with foreignKey := true })

def takeColumnSetting (policy : Policy) (line : SourceLine) (table : Table)
    (progress : ReadState × Column) (setting : Setting) : ReadState × Column :=
  let (state, column) := progress
  let name := setting.name
  if name = "pk" || name = "primary key" then (state, { column with primaryKey := true })
  else if name = "not null" then (state, { column with notNull := true })
  else if name = "unique" then (state, { column with unique := true })
  else if name = "default" then
    match setting.value with
    | none => (state.report (.missingValue "default") line, column)
    | some value => (state, { column with default := some value })
  else if name = "note" then (state, { column with note := setting.value })
  else if name = "ref" then takeInlineReference line table progress setting
  else
    (state.reportUnknown policy .column setting line,
      { column with properties := Entries.put setting.key setting.property column.properties })

end ReadState

end TableScript
