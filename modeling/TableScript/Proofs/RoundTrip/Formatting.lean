import TableScript.Proofs.Read.Legible.Script
import TableScript.Proofs.RoundTrip.Repeated
import TableScript.Proofs.RoundTrip.Validity
import TableScript.Proofs.RoundTrip.Writable

/-! Formatting a script a second time. Where the values of the script are written as they are read, the
second pass can differ from the first by references only: one that is written with several columns is
there once more for each of them, and one whose line is not found again is gone. -/

namespace TableScript

variable {layout : Layout} {now later : Timestamp} {schema : Schema}

theorem forall_eq_of_flatMap_eq {α β : Type} {list : List α} {first second : α → List β}
    (lengths : ∀ x ∈ list, (first x).length = (second x).length)
    (same : list.flatMap first = list.flatMap second) : ∀ x ∈ list, first x = second x := by
  induction list with
  | nil => simp
  | cons x rest ih =>
      obtain ⟨length, others⟩ := List.forall_mem_cons.mp lengths
      rw [List.flatMap_cons, List.flatMap_cons] at same
      obtain ⟨front, back⟩ := List.append_inj same length
      exact List.forall_mem_cons.mpr ⟨front, ih others back⟩

namespace Column

variable {column : Column} {references others : List Reference}

/-- Of the references that are written with a column their cardinalities and targets are. -/
theorem text_congr (same : references.map Reference.inlineText = others.map Reference.inlineText) :
    column.text layout references = column.text layout others := by
  have texts : ∀ references : List Reference,
      (references.map fun reference =>
        "ref: " ++ reference.cardinality.symbol ++ " " ++ reference.target.written) =
        (references.map Reference.inlineText).map fun text => "ref: " ++ text := by
    intro references
    rw [List.map_map]
    refine List.map_congr_left fun reference _ => ?_
    simp only [Function.comp_apply, Reference.inlineText, String.append_assoc]
  have settings : Write.columnSettings layout column references =
      Write.columnSettings layout column others := by
    rw [Write.columnSettings, Write.columnSettings, texts, texts, same]
  rw [text, text, settings]

/-- How many references are written with a column can be told from its line. -/
theorem IsSteady.length_eq_of_text_eq (steady : column.IsSteady layout) (writable : column.Writable)
    (targets : ∀ reference ∈ references, reference.target.IsWordy)
    (otherTargets : ∀ reference ∈ others, reference.target.IsWordy)
    (same : column.text layout references = column.text layout others) :
    references.length = others.length := by
  have read : column.lineRead layout references = column.lineRead layout others := by
    refine Option.some.inj ?_
    rw [← read?_text writable, ← read?_text writable, same]
  have settings : (column.kept layout).settingsMeant references =
      (column.kept layout).settingsMeant others := by
    rw [← steady.settingsRead_eq targets, ← steady.settingsRead_eq otherTargets,
      ← settingList_lineRead, ← settingList_lineRead, read]
  have lengths := congrArg List.length settings
  simp only [settingsMeant, List.length_append, List.length_map] at lengths
  omega

end Column

namespace Table

variable {table : Table} {first second : Column → List Reference}

theorem lines_congr (same : ∀ column ∈ table.columns,
      (first column).map Reference.inlineText = (second column).map Reference.inlineText) :
    table.lines layout first = table.lines layout second := by
  have columns : (table.columns.map fun column =>
        layout.indent ++ column.text layout (first column)) =
      table.columns.map fun column => layout.indent ++ column.text layout (second column) :=
    List.map_congr_left fun column member => by rw [Column.text_congr (same column member)]
  rw [lines, lines, columns]

theorem length_texts (table : Table) (referencesOf : Column → List Reference) :
    (table.texts layout referencesOf).length =
      table.columns.length + (table.noteText? layout).toList.length + 2 := by
  simp only [texts, List.length_append, List.length_cons, List.length_map, List.length_nil]
  omega

theorem text_eq_of_texts_eq (same : table.texts layout first = table.texts layout second) :
    ∀ column ∈ table.columns,
      column.text layout (first column) = column.text layout (second column) := by
  rw [texts, texts, List.append_left_inj, List.append_left_inj, List.cons_inj_right] at same
  exact List.map_inj_left.mp same

end Table

namespace Write

variable {tables : List Table} {first second : Table → Column → List Reference}
  {references others : List Reference}

theorem bareBlocks_eq_of_inlineText (inline : ∀ table ∈ tables, ∀ column ∈ table.columns,
      (first table column).map Reference.inlineText = (second table column).map Reference.inlineText)
    (standalone : references.map referenceLine = others.map referenceLine) :
    bareBlocks layout tables first references = bareBlocks layout tables second others := by
  have lines : (tables.map fun table => table.lines layout (first table)) =
      tables.map fun table => table.lines layout (second table) :=
    List.map_congr_left fun table member => Table.lines_congr (inline table member)
  have empty : references.isEmpty = others.isEmpty := by
    simpa using congrArg List.isEmpty standalone
  rw [bareBlocks, bareBlocks, lines, referenceBlock, referenceBlock, empty, standalone]

/-- Two scripts of the same tables that are the same have as many references with every column and on
lines of their own. -/
theorem lengths_of_text_eq (writable : ∀ table ∈ tables, table.Writable)
    (steady : ∀ table ∈ tables, table.IsSteady layout)
    (targets : ∀ table ∈ tables, ∀ column ∈ table.columns, ∀ reference ∈ first table column,
      reference.target.IsWordy)
    (otherTargets : ∀ table ∈ tables, ∀ column ∈ table.columns, ∀ reference ∈ second table column,
      reference.target.IsWordy)
    (standalone : ∀ line ∈ references.map referenceLine, '\n' ∉ line.toList)
    (otherStandalone : ∀ line ∈ others.map referenceLine, '\n' ∉ line.toList)
    (same : text layout (bareBlocks layout tables first references) =
      text layout (bareBlocks layout tables second others)) :
    (∀ table ∈ tables, ∀ column ∈ table.columns,
      (first table column).length = (second table column).length) ∧
      references.length = others.length := by
  have texts := (map_text_ofScript_text
    (oneLine_bareBlocks writable steady targets standalone)).symm.trans
    ((congrArg (fun script => (SourceLine.ofScript script).map SourceLine.text) same).trans
      (map_text_ofScript_text (oneLine_bareBlocks writable steady otherTargets otherStandalone)))
  rw [texts_bareBlocks writable, texts_bareBlocks writable] at texts
  have lengths : ∀ table ∈ tables, (table.texts layout (first table)).length =
      (table.texts layout (second table)).length := by
    intro table _
    rw [table.length_texts, table.length_texts]
  have total : (tables.flatMap fun table => table.texts layout (first table)).length =
      (tables.flatMap fun table => table.texts layout (second table)).length := by
    rw [List.length_flatMap, List.length_flatMap, List.map_congr_left lengths]
  obtain ⟨tablesSame, referencesSame⟩ := List.append_inj texts total
  refine ⟨fun table member column among => ?_, by simpa using congrArg List.length referencesSame⟩
  have columns := Table.text_eq_of_texts_eq
    (forall_eq_of_flatMap_eq lengths tablesSame table member) column among
  exact ((steady table member).columns column among).length_eq_of_text_eq
    ((writable table member).columns column among) (targets table member column among)
    (otherTargets table member column among) columns

end Write

theorem Schema.mem_of_mem_repeated {table : Table} {column : Column} {reference : Reference}
    (member : reference ∈ schema.repeated table column) :
    reference ∈ schema.inlineReferences table column := by
  obtain ⟨references, among, inside⟩ := List.mem_flatten.mp member
  rwa [List.eq_of_mem_replicate among] at inside

theorem Schema.length_repeated (schema : Schema) (table : Table) (column : Column) :
    (schema.repeated table column).length =
      (table.columns.map Column.name).count column.name *
        (schema.inlineReferences table column).length := by
  simp [repeated]

/-- A reference is written with one column only: no other column of the table has the name of one with
which references are written. -/
def Schema.CarriesOnce (schema : Schema) : Prop :=
  ∀ table ∈ schema.tables, ∀ column ∈ table.columns, schema.inlineReferences table column ≠ [] →
    (table.columns.map Column.name).count column.name = 1

theorem Schema.repeated_eq (schema : Schema) {table : Table} {column : Column}
    (once : schema.inlineReferences table column ≠ [] →
      (table.columns.map Column.name).count column.name = 1) :
    schema.repeated table column = schema.inlineReferences table column := by
  cases references : schema.inlineReferences table column with
  | nil => simp [repeated, references]
  | cons reference rest =>
      have one := once (by simp [references])
      rw [repeated, one, references, List.replicate_one, List.flatten_singleton]

/-- What is written of the schema that was read back: the same tables, with each reference at each column
of its name, and those of the other references that are found again. -/
theorem Schema.exists_rewritten (now later : Timestamp)
    (writable : ∀ table ∈ schema.tables, table.Writable)
    (distinct : (schema.tables.map Table.key).Nodup) (steady : schema.IsSteady layout)
    (bare : layout.metadata = false) :
    ∃ found : List Reference,
      Write.scriptBlocks layout later ((Reading.ofScript {}
          (Write.text layout (Write.scriptBlocks layout now schema))).schema later) =
        Write.bareBlocks layout schema.tables schema.repeated found ∧
      (found.map Write.referenceLine).Sublist
        (schema.standaloneReferences.map Write.referenceLine) ∧
      (found.length = schema.standaloneReferences.length ↔
        ∀ reference ∈ schema.standaloneReferences, schema.FindsAgain reference) := by
  have oneLine := Write.oneLine_scriptBlocks now writable steady (by simp [bare])
  obtain ⟨tabled, lines, declares, texts, complete⟩ := Reading.exists_reread writable distinct oneLine
  obtain ⟨found, references, standalone, sublist, all⟩ :=
    ReadState.exists_found tabled steady.standalone texts
  have declared : tabled.catalog.tables.map Table.signature =
      schema.tables.map Table.signature := by
    rw [declares.declared]
    exact map_signature_rereadTables writable 0 0
  refine ⟨found, ?_, sublist, all.trans (schema.resolves_iff distinct declared texts)⟩
  have outlines : (lines.foldl (ReadState.readReference {}) tabled).catalog.tables.map
        (·.outline layout) = schema.tables.map (·.outline layout) := by
    rw [ReadState.map_outline_foldl_readReference, declares.declared]
    exact map_outline_rereadTables steady.tables writable
      (fun _ _ _ _ => steady.isWordy_target) 0 0
  have back : (lines.foldl (ReadState.readReference {}) tabled).references =
      (schema.withReread found).references := by
    rw [references, declares.references, schema.tableDrafts_eq steady.tables steady.isWordy_target]
    rfl
  have read : (Reading.ofScript {}
        (Write.text layout (Write.scriptBlocks layout now schema))).schema later =
      { tables := (lines.foldl (ReadState.readReference {}) tabled).catalog.tables
        references := (lines.foldl (ReadState.readReference {}) tabled).references
        metadata := .fresh later } := by
    rw [Write.text, Reading.ofScript, Reading.ofInterrupted, complete]
    rfl
  rw [Write.scriptBlocks_eq_bareBlocks bare, read]
  calc Write.bareBlocks layout _ _ _
      = Write.bareBlocks layout schema.tables (schema.withReread found).inlineReferences
          (schema.withReread found).standaloneReferences :=
        Write.bareBlocks_congr _ (schema.withReread found) outlines back
    _ = Write.bareBlocks layout schema.tables schema.repeated found := by
        refine Write.bareBlocks_eq_of_inlineText (fun table member column _ => ?_) ?_
        · exact schema.map_inlineText_withReread distinct member column standalone
        · rw [Schema.standaloneReferences_withReread standalone]

/-- The script is written again as it was exactly if every reference comes back once. -/
theorem Schema.rewritten_iff (now later : Timestamp)
    (writable : ∀ table ∈ schema.tables, table.Writable)
    (distinct : (schema.tables.map Table.key).Nodup) (steady : schema.IsSteady layout)
    (bare : layout.metadata = false) :
    Write.text layout (Write.scriptBlocks layout later ((Reading.ofScript {}
        (Write.text layout (Write.scriptBlocks layout now schema))).schema later)) =
      Write.text layout (Write.scriptBlocks layout now schema) ↔
    schema.CarriesOnce ∧ ∀ reference ∈ schema.standaloneReferences, schema.FindsAgain reference := by
  obtain ⟨found, rewritten, sublist, all⟩ :=
    schema.exists_rewritten now later writable distinct steady bare
  rw [rewritten, Write.scriptBlocks_eq_bareBlocks bare, ← all]
  constructor
  · intro same
    have oneLine : ∀ line ∈ found.map Write.referenceLine, '\n' ∉ line.toList :=
      fun line member => steady.oneLine_referenceLine line (sublist.subset member)
    obtain ⟨inline, standalone⟩ := Write.lengths_of_text_eq writable steady.tables
      (fun _ _ _ _ reference member => steady.isWordy_target reference (mem_of_mem_repeated member))
      (fun _ _ _ _ => steady.isWordy_target) oneLine steady.oneLine_referenceLine same
    refine ⟨fun table member column among carries => ?_, standalone⟩
    have length := inline table member column among
    have carried : 0 < (schema.inlineReferences table column).length :=
      List.length_pos_iff.mpr carries
    rw [schema.length_repeated] at length
    exact Nat.eq_of_mul_eq_mul_right carried (by rw [length, Nat.one_mul])
  · intro both
    obtain ⟨once, length⟩ := both
    have lines : found.map Write.referenceLine =
        schema.standaloneReferences.map Write.referenceLine :=
      sublist.eq_of_length (by rw [List.length_map, List.length_map, length])
    rw [Write.bareBlocks_eq_of_inlineText (fun table member column among => ?_) lines]
    rw [schema.repeated_eq (once table member column among)]

namespace Reading

/-- The script that is written of a script. -/
def formatted (layout : Layout) (now : Timestamp) (script : String) : String :=
  (Writing.ofSchema layout now ((ofScript {} script).schema now)).text

theorem formatted_eq (layout : Layout) (now : Timestamp) (script : String)
    (indented : layout.checkIndent = .ok ()) :
    formatted layout now script =
      Write.text layout (Write.scriptBlocks layout now ((ofScript {} script).schema now)) :=
  (Writing.ofSchema_eq layout now (writable_ofScript {} script) indented).2

end Reading

/-- The values of a schema are written as they are read: default values in no quotes but those that they
would be given, properties under keys that are keys again, actions without quotes. A reference that moves
from its column to a line of its own starts at a column whose name is a word. -/
structure Schema.KeepsValues (schema : Schema) (layout : Layout) : Prop where
  defaults : ∀ table ∈ schema.tables, ∀ column ∈ table.columns, ∀ value ∈ column.default,
    IsSteadyDefault value
  properties : layout.properties = true → ∀ table ∈ schema.tables,
    ∀ properties ∈ table.properties :: table.columns.map Column.properties,
      ∀ entry ∈ properties, IsKey entry.1 ∧ entry.2.IsSteady
  actions : ∀ reference ∈ schema.standaloneReferences,
    ∀ action ∈ reference.onDelete.toList ++ reference.onUpdate.toList,
      action ≠ "" → IsPlainAction action
  sources : ∀ reference ∈ schema.standaloneReferences, reference.inline = true →
    reference.source.IsWordy

instance (schema : Schema) (layout : Layout) : Decidable (schema.KeepsValues layout) :=
  decidable_of_iff
    ((∀ table ∈ schema.tables, ∀ column ∈ table.columns, ∀ value ∈ column.default,
        IsSteadyDefault value) ∧
      (layout.properties = true → ∀ table ∈ schema.tables,
        ∀ properties ∈ table.properties :: table.columns.map Column.properties,
          ∀ entry ∈ properties, IsKey entry.1 ∧ entry.2.IsSteady) ∧
      (∀ reference ∈ schema.standaloneReferences,
        ∀ action ∈ reference.onDelete.toList ++ reference.onUpdate.toList,
          action ≠ "" → IsPlainAction action) ∧
      ∀ reference ∈ schema.standaloneReferences, reference.inline = true →
        reference.source.IsWordy)
    ⟨fun ⟨defaults, properties, actions, sources⟩ => ⟨defaults, properties, actions, sources⟩,
      fun keeps => ⟨keeps.defaults, keeps.properties, keeps.actions, keeps.sources⟩⟩

instance (schema : Schema) : Decidable schema.CarriesOnce :=
  inferInstanceAs (Decidable (∀ table ∈ schema.tables, ∀ column ∈ table.columns,
    schema.inlineReferences table column ≠ [] →
      (table.columns.map Column.name).count column.name = 1))

theorem Properties.IsRead.steady {properties : Properties} {known : List String}
    (read : properties.IsRead known) (keeps : layout.properties = true →
      ∀ entry ∈ properties, IsKey entry.1 ∧ entry.2.IsSteady) :
    (layout.kept properties).IsSteady known := by
  unfold Layout.kept
  split
  · rename_i kept
    exact ⟨read.distinct, fun entry member => (keeps kept entry member).1, read.unknown,
      fun entry member => (keeps kept entry member).2⟩
  · exact ⟨List.nodup_nil, by simp, by simp, by simp⟩

theorem Schema.KeepsValues.isPlain {reference : Reference} (keeps : schema.KeepsValues layout)
    (member : reference ∈ schema.standaloneReferences) (read : reference.IsRead) :
    reference.onOwnLine.IsPlain := by
  have action : ∀ {action : Option String} {text : String},
      (∀ written ∈ action.toList, written ≠ "" → IsPlainAction written) →
        text ∈ ifGiven action → IsPlainAction text := by
    intro action text each given
    have there := mem_of_mem_ifGiven given
    refine each text (Option.mem_toList.mpr there) fun empty => ?_
    rw [Option.mem_def.mp there, empty] at given
    simp [ifGiven, isGiven] at given
  have actions := keeps.actions reference member
  rw [List.forall_mem_append] at actions
  have source : reference.source.IsWordy := by
    cases inline : reference.inline with
    | false => exact read.source inline
    | true => exact keeps.sources reference member inline
  exact ⟨source, read.target,
    fun name given => read.named name (mem_of_mem_ifGiven given),
    fun _ given => action actions.1 given, fun _ given => action actions.2 given⟩

namespace Reading

theorem steady_ofScript (script : String) (now : Timestamp)
    (keeps : ((ofScript {} script).schema now).KeepsValues layout) :
    ((ofScript {} script).schema now).IsSteady layout := by
  obtain ⟨tables, references⟩ := isRead_ofScript script
  refine ⟨fun table member => ⟨fun column among => ⟨?_, ?_⟩, ?_⟩, ?_, ?_⟩
  · exact keeps.defaults table member column among
  · exact ((tables table member).columns column among).steady fun kept =>
      keeps.properties kept table member _
        (List.mem_cons_of_mem _ (List.mem_map_of_mem among))
  · exact (tables table member).properties.steady fun kept =>
      keeps.properties kept table member _ List.mem_cons_self
  · exact fun reference listed _ => (references reference listed).target
  · exact fun reference member =>
      keeps.isPlain member (references reference (List.mem_of_mem_filter member))

/-- Where the values of a script are written as they are read, formatting it twice is formatting it once
exactly if no reference is written with several columns and those on lines of their own are found again. -/
theorem formatted_formatted_iff (script : String) (layout : Layout) (now later : Timestamp)
    (indented : layout.checkIndent = .ok ()) (bare : layout.metadata = false)
    (keeps : ((ofScript {} script).schema now).KeepsValues layout) :
    let schema := (ofScript {} script).schema now
    formatted layout later (formatted layout now script) = formatted layout now script ↔
      schema.CarriesOnce ∧ ∀ reference ∈ schema.standaloneReferences, schema.FindsAgain reference := by
  intro schema
  rw [formatted_eq layout later _ indented, formatted_eq layout now script indented]
  exact schema.rewritten_iff now later (writable_ofScript {} script) (distinct_ofScript {} script)
    (steady_ofScript script now keeps) bare

/-- A script whose values are written as they are read: its default value comes in the quotes that it
would be given. -/
def steadyScript : String :=
  "Table a [owner: b] \x7b\n  id integer [default: \"'new'\", ref: > b.x]\n\x7d\nRef: a.id > a.id"

theorem formatted_formatted_steadyScript :
    Layout.checkIndent { metadata := false } = .ok () ∧
      ((ofScript {} steadyScript).schema "now").KeepsValues { metadata := false } ∧
      formatted { metadata := false } "later" (formatted { metadata := false } "now" steadyScript) =
        formatted { metadata := false } "now" steadyScript :=
  have indented : Layout.checkIndent { metadata := false } = .ok () := by decide
  have keeps : ((ofScript {} steadyScript).schema "now").KeepsValues { metadata := false } := by
    decide +kernel
  ⟨indented, keeps, (formatted_formatted_iff steadyScript { metadata := false } "now" "later" indented
    rfl keeps).mpr (by decide +kernel)⟩

/-- A table that repeats a column: with every pass its references become more. -/
theorem formatted_repeatedColumn :
    let layout : Layout := { metadata := false }
    let script := "Table a \x7b\n  id integer [ref: > b.x]\n  id integer\n\x7d"
    (ofScript {} script).errors = [] ∧
      formatted layout "later" (formatted layout "now" script) ≠ formatted layout "now" script := by
  decide +kernel

end Reading

end TableScript
