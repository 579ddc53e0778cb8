import TableScript.Proofs.RoundTrip.Script
import TableScript.Proofs.RoundTrip.Settings

/-! What of the tables decides about the script that is written of a schema. It is what a steady table has
when it is written, read and marked as well, so that only the references can make a difference when the
schema that was read back is written again. -/

namespace TableScript

open Text

/-- What tells the table apart, its columns, and its lines for the references that are written with each
name of a column. -/
def Table.outline (table : Table) (layout : Layout) :
    (TableKey × List String) × ((String → List Reference) → List String) :=
  (table.signature, fun given => table.lines layout fun column => given column.name)

/-- The references that are written with the columns of a name in the table of a key. -/
def Schema.inlineAt (schema : Schema) (key : TableKey) (name : String) : List Reference :=
  schema.references.filter fun reference =>
    reference.source == ⟨key.schema, key.name, name⟩ && schema.writesInline reference

theorem Schema.inlineReferences_eq_inlineAt (schema : Schema) (table : Table) (column : Column) :
    schema.inlineReferences table column = schema.inlineAt table.key column.name :=
  rfl

variable {schema other : Schema} {layout : Layout} {now : Timestamp}

theorem Schema.table?_congr
    (same : schema.tables.map Table.signature = other.tables.map Table.signature) (name : String)
    (qualifier : Option String) :
    (schema.table? name qualifier).map Table.signature =
      (other.table? name qualifier).map Table.signature :=
  find?_signature_congr same fun signature =>
    signature.1.name == name && (qualifier.isNone || signature.1.schema == qualifier)

theorem Schema.writesInline_congr
    (same : schema.tables.map Table.signature = other.tables.map Table.signature)
    (reference : Reference) : schema.writesInline reference = other.writesInline reference := by
  have found := Schema.table?_congr same reference.source.table reference.source.schema
  unfold writesInline
  cases mine : schema.table? reference.source.table reference.source.schema with
  | none =>
      rw [mine, Option.map_none, eq_comm, Option.map_eq_none_iff] at found
      rw [found]
  | some table =>
      rw [mine, Option.map_some, eq_comm, Option.map_eq_some_iff] at found
      obtain ⟨otherTable, otherFound, signature⟩ := found
      obtain ⟨qualifier, _⟩ := TableKey.mk.inj (Prod.mk.inj signature).1
      rw [otherFound]
      dsimp only
      rw [qualifier, Table.hasColumn_congr signature]

theorem map_signature_of_map_outline {tables others : List Table}
    (same : tables.map (·.outline layout) = others.map (·.outline layout)) :
    tables.map Table.signature = others.map Table.signature := by
  have signatures := congrArg (List.map Prod.fst) same
  rwa [List.map_map, List.map_map] at signatures

namespace Write

/-- Without comments at its ends, a script depends on the references and on the outlines of the tables. -/
theorem bareBlocks_congr (schema other : Schema)
    (tables : schema.tables.map (·.outline layout) = other.tables.map (·.outline layout))
    (references : schema.references = other.references) :
    bareBlocks layout schema.tables schema.inlineReferences schema.standaloneReferences =
      bareBlocks layout other.tables other.inlineReferences other.standaloneReferences := by
  have inline : schema.writesInline = other.writesInline :=
    funext (Schema.writesInline_congr (map_signature_of_map_outline tables))
  have given : schema.inlineAt = other.inlineAt := by
    unfold Schema.inlineAt
    rw [references, inline]
  have written : ∀ schema : Schema,
      (schema.tables.map fun table => table.lines layout (schema.inlineReferences table)) =
        (schema.tables.map (·.outline layout)).map fun outline =>
          outline.2 (schema.inlineAt outline.1.1) := by
    intro schema
    rw [List.map_map]
    rfl
  rw [bareBlocks, bareBlocks, written, written, tables, given, Schema.standaloneReferences,
    Schema.standaloneReferences, references, inline]

end Write

/-! A mark is not written. -/

theorem IsMarking.map_outline {change : Table → List Column} (marking : IsMarking change)
    (tables : List Table) :
    (tables.map (·.withColumns change)).map (·.outline layout) = tables.map (·.outline layout) := by
  rw [List.map_map]
  refine List.map_congr_left fun table _ => ?_
  have names := marking.map_eq Column.name (fun _ => rfl) table
  have lines : ∀ given : String → List Reference,
      ((table.withColumns change).lines layout fun column => given column.name) =
        table.lines layout fun column => given column.name := by
    intro given
    have columns := marking.map_eq
      (fun column => layout.indent ++ column.text layout (given column.name)) (fun _ => rfl) table
    simp only [Table.lines, Table.withColumns, columns]
    rfl
  exact Prod.ext (Prod.ext rfl names) (funext lines)

namespace ReadState

variable {policy : Policy} {state : ReadState} {line : SourceLine} {lines : List SourceLine}

theorem map_outline_readReference :
    (readReference policy state line).catalog.tables.map (·.outline layout) =
      state.catalog.tables.map (·.outline layout) := by
  by_cases resolves : line.Resolves state.catalog
  · obtain ⟨written, read, source, resolved⟩ := resolves
    rw [readReference_resolved read resolved]
    exact (Catalog.isMarking_markForeignKey source.key written.source.column).map_outline _
  · obtain ⟨error, _, reported⟩ := readReference_unresolved policy resolves
    rw [reported]
    rfl

theorem map_outline_foldl_readReference (policy : Policy) (state : ReadState)
    (lines : List SourceLine) :
    (lines.foldl (readReference policy) state).catalog.tables.map (·.outline layout) =
      state.catalog.tables.map (·.outline layout) := by
  induction lines generalizing state with
  | nil => rfl
  | cons line lines ih => rw [List.foldl_cons, ih, map_outline_readReference]

end ReadState

/-! What is left out the first time does not come back. -/

theorem Write.properties_kept (layout : Layout) (properties : Properties) :
    Write.properties layout (layout.kept properties) = Write.properties layout properties := by
  rw [properties_eq, properties_eq, layout.kept_kept]

theorem Write.note?_noteWritten (layout : Layout) (note : Option String) :
    note? layout (noteWritten layout note) = note? layout note := by
  rw [note?_eq, note?_eq, noteWritten_noteWritten]

namespace Column

variable {column : Column} {references : List Reference}

theorem IsSteady.nameText_reread (steady : column.IsSteady layout)
    (targets : ∀ reference ∈ references, reference.target.IsWordy) (number : Nat) :
    (column.reread layout references number).nameText = column.nameText := by
  have bare : (column.reread layout references number).isBare = column.isBare := by
    rw [steady.reread_eq targets, isBare, isBare, kept]
    cases column.quotedName <;> simp
  rw [nameText, bare, column.name_reread]
  rfl

/-- A column that was read back is written as before, whatever references are written with it. -/
theorem IsSteady.text_reread (steady : column.IsSteady layout)
    (targets : ∀ reference ∈ references, reference.target.IsWordy) (number : Nat)
    (given : List Reference) :
    (column.reread layout references number).text layout given = column.text layout given := by
  have default : (column.default.map fun value => valueRead (Write.defaultValue value)).toList.map
      (fun value => "default: " ++ Write.defaultValue value) =
      column.default.toList.map fun value => "default: " ++ Write.defaultValue value := by
    cases written : column.default with
    | none => rfl
    | some value =>
        rw [Option.map_some, Option.toList_some, Option.toList_some, List.map_singleton,
          List.map_singleton, (steady.default value written).rewritten]
  have settings : Write.columnSettings layout (column.reread layout references number) given =
      Write.columnSettings layout column given := by
    rw [steady.reread_eq targets, Write.columnSettings, Write.columnSettings]
    dsimp only
    rw [default, kept]
    dsimp only
    rw [Write.note?_noteWritten, Write.properties_kept]
  have type : (column.reread layout references number).type = column.type := by
    rw [steady.reread_eq targets]
    rfl
  rw [text, text, steady.nameText_reread targets, settings, type]

end Column

namespace Table

variable {table : Table} {referencesOf : Column → List Reference}

theorem IsSteady.map_text_rereadColumns (steady : table.IsSteady layout)
    (targets : ∀ column ∈ table.columns, ∀ reference ∈ referencesOf column,
      reference.target.IsWordy) (given : String → List Reference) (number : Nat) :
    (rereadColumns layout referencesOf table.columns number).map
        (fun column => layout.indent ++ column.text layout (given column.name)) =
      table.columns.map fun column => layout.indent ++ column.text layout (given column.name) := by
  have texts : ∀ pair ∈ table.columns.zipIdx number,
      layout.indent ++ (pair.1.reread layout (referencesOf pair.1) pair.2).text layout
          (given (pair.1.reread layout (referencesOf pair.1) pair.2).name) =
        layout.indent ++ pair.1.text layout (given pair.1.name) := by
    intro pair member
    have among : pair.1 ∈ table.columns := List.fst_mem_of_mem_zipIdx member
    rw [pair.1.name_reread, (steady.columns pair.1 among).text_reread (targets pair.1 among)]
  calc (rereadColumns layout referencesOf table.columns number).map
        (fun column => layout.indent ++ column.text layout (given column.name))
      = (table.columns.zipIdx number).map
          ((fun column => layout.indent ++ column.text layout (given column.name)) ∘ Prod.fst) := by
        rw [rereadColumns, List.map_map]
        exact List.map_congr_left texts
    _ = ((table.columns.zipIdx number).map Prod.fst).map fun column =>
          layout.indent ++ column.text layout (given column.name) := by rw [List.map_map]
    _ = table.columns.map fun column =>
          layout.indent ++ column.text layout (given column.name) := by rw [List.zipIdx_map_fst]

/-- A table that was read back has the outline that it had. -/
theorem IsSteady.outline_reread (steady : table.IsSteady layout) (writable : table.Writable)
    (targets : ∀ column ∈ table.columns, ∀ reference ∈ referencesOf column,
      reference.target.IsWordy) (number columnNumber : Nat) :
    (table.reread layout referencesOf number columnNumber).outline layout =
      table.outline layout := by
  have headed := table.headerRead_eq writable steady.properties number
  have note : (noteWritten layout table.note <|> none) = noteWritten layout table.note := by
    cases noteWritten layout table.note <;> rfl
  have signature : (table.reread layout referencesOf number columnNumber).signature =
      table.signature :=
    Prod.ext (key_reread writable) (map_name_rereadColumns referencesOf table.columns columnNumber)
  refine Prod.ext signature (funext fun given => ?_)
  have columns := steady.map_text_rereadColumns targets given columnNumber
  have header : (table.reread layout referencesOf number columnNumber).headerText layout =
      table.headerText layout := by
    rw [reread, headed, headerText, headerText]
    dsimp only
    rw [Write.properties_kept]
    rfl
  have last : (table.reread layout referencesOf number columnNumber).noteText? layout =
      table.noteText? layout := by
    rw [reread, headed, noteText?, noteText?]
    dsimp only
    rw [note, noteWritten_noteWritten]
  change lines _ _ _ = lines _ _ _
  rw [lines, lines, header, last]
  rw [← columns]
  rfl

end Table

theorem map_outline_rereadTables {referencesOf : Table → Column → List Reference}
    {tables : List Table} (steady : ∀ table ∈ tables, table.IsSteady layout)
    (writable : ∀ table ∈ tables, table.Writable)
    (targets : ∀ table ∈ tables, ∀ column ∈ table.columns, ∀ reference ∈ referencesOf table column,
      reference.target.IsWordy) (number columnNumber : Nat) :
    (rereadTables layout referencesOf tables number columnNumber).map (·.outline layout) =
      tables.map (·.outline layout) := by
  induction tables generalizing number columnNumber with
  | nil => rfl
  | cons table tables ih =>
      obtain ⟨first, others⟩ := List.forall_mem_cons.mp steady
      obtain ⟨firstWritable, othersWritable⟩ := List.forall_mem_cons.mp writable
      obtain ⟨firstTargets, otherTargets⟩ := List.forall_mem_cons.mp targets
      rw [rereadTables, List.map_cons, List.map_cons,
        first.outline_reread firstWritable firstTargets, ih others othersWritable otherTargets]

end TableScript
