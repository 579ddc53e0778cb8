import TableScript.Proofs.Read.Sound.Inline
import TableScript.Proofs.RoundTrip.Script
import TableScript.RoundTrip

namespace TableScript

/-- The line of the reference is read as one whose ends are among the tables. -/
def Schema.FindsAgain (schema : Schema) (reference : Reference) : Prop :=
  ∃ written, ReferenceLine.read? reference.lineText.toList = some written ∧
    ∃ catalog : Catalog, catalog.tables = schema.tables ∧ written.Resolves catalog

instance (schema : Schema) (reference : Reference) : Decidable (schema.FindsAgain reference) :=
  decidable_of_iff
    (∃ written ∈ ReferenceLine.read? reference.lineText.toList,
      ∃ distinct : (schema.tables.map Table.key).Nodup, written.Resolves ⟨schema.tables, distinct⟩)
    ⟨fun ⟨written, read, distinct, resolves⟩ =>
        ⟨written, read, ⟨schema.tables, distinct⟩, rfl, resolves⟩,
      fun ⟨written, read, catalog, same, resolves⟩ =>
        ⟨written, read, same ▸ catalog.distinct, by
          obtain ⟨tables, distinct⟩ := catalog
          cases same
          exact resolves⟩⟩

/-- What is written of the references comes back: no setting is a bad reference, the settings name as
many references as are written with columns, and the others are found again. -/
structure Schema.ReadsBack (schema : Schema) : Prop where
  faultless : ∀ table ∈ schema.tables, ∀ column ∈ table.columns,
    column.RereadsFaultless {} (schema.inlineReferences table column)
  complete : (tableDrafts {} schema.inlineReferences schema.tables).length =
    (schema.references.filter schema.writesInline).length
  found : ∀ reference ∈ schema.standaloneReferences, schema.FindsAgain reference

namespace RoundTrip

theorem missingNames_self (names : List String) : missingNames names names = [] := by
  have nothingMissing : (names.filter fun name => !names.contains name) = [] := by
    rw [List.filter_eq_nil_iff]
    intro name member
    simp [member]
  rw [missingNames, nothingMissing, List.eraseDups_nil, List.mergeSort_nil]

/-- Where the names of the tables come back, errors and the number of references decide. -/
theorem differences_eq_nil_iff {schema : Schema} {reading : Reading}
    (names : reading.tables.map Table.qualifiedName = schema.tables.map Table.qualifiedName) :
    differences schema reading = [] ↔
      reading.errors = [] ∧ schema.references.length = reading.references.length := by
  have tables : schema.tables.length = reading.tables.length := by
    simpa using (congrArg List.length names).symm
  have nothing : ∀ label, nameErrors label [] = [] := fun _ => rfl
  simp only [differences, names, missingNames_self, nothing, countErrors, tables, if_true,
    List.append_nil, List.append_eq_nil_iff, List.map_eq_nil_iff]
  refine and_congr_right fun _ => ?_
  split
  · simp [*]
  · simp [*]

end RoundTrip

variable {now : Timestamp} {schema : Schema}

/-- Where the same tables are declared, a reference is found again on its line. -/
theorem Schema.findsAgain_iff (distinct : (schema.tables.map Table.key).Nodup) {catalog : Catalog}
    (declared : catalog.tables.map Table.signature = schema.tables.map Table.signature)
    {reference : Reference} {line : SourceLine} (text : line.text = reference.lineText) :
    line.Resolves catalog ↔ schema.FindsAgain reference := by
  constructor
  · intro found
    obtain ⟨written, read, resolves⟩ := found
    rw [text] at read
    exact ⟨written, read, ⟨schema.tables, distinct⟩, rfl, resolves.congr declared⟩
  · intro found
    obtain ⟨written, read, other, tables, resolves⟩ := found
    rw [← text] at read
    exact ⟨written, read, resolves.congr (by rw [tables, declared])⟩

theorem Schema.resolves_iff (distinct : (schema.tables.map Table.key).Nodup) {catalog : Catalog}
    (declared : catalog.tables.map Table.signature = schema.tables.map Table.signature)
    {lines : List SourceLine} {references : List Reference}
    (texts : lines.map SourceLine.text = references.map Reference.lineText) :
    (∀ line ∈ lines, line.Resolves catalog) ↔
      ∀ reference ∈ references, schema.FindsAgain reference := by
  induction lines generalizing references with
  | nil =>
      obtain rfl := List.map_eq_nil_iff.mp texts.symm
      simp
  | cons line lines ih =>
      obtain ⟨reference, references, rfl, text, texts⟩ := List.map_eq_cons_iff.mp texts.symm
      rw [List.forall_mem_cons, List.forall_mem_cons, ih texts.symm,
        schema.findsAgain_iff distinct declared text.symm]

theorem Schema.length_references (schema : Schema) :
    schema.references.length =
      (schema.references.filter schema.writesInline).length +
        schema.standaloneReferences.length := by
  have split := List.length_eq_length_filter_add (l := schema.references) schema.writesInline
  simpa [standaloneReferences] using split

/-- The round trip of a schema whose tables can be written. -/
theorem Schema.isValid_iff_readsBack (writable : ∀ table ∈ schema.tables, table.Writable)
    (distinct : (schema.tables.map Table.key).Nodup)
    (oneLine : ∀ block ∈ Write.scriptBlocks {} now schema, ∀ line ∈ block, '\n' ∉ line.toList) :
    (RoundTrip.ofWriting schema (Writing.ofSchema {} now schema)).isValid = true ↔
      schema.ReadsBack := by
  obtain ⟨succeeded, text⟩ := Writing.ofSchema_eq {} now writable (by decide)
  obtain ⟨tabled, lines, declares, texts, complete⟩ := Reading.exists_reread writable distinct oneLine
  have declared : tabled.catalog.tables.map Table.signature =
      schema.tables.map Table.signature := by
    rw [declares.declared]
    exact map_signature_rereadTables writable 0 0
  have signatures :=
    (ReadState.map_signature_foldl_readReference {} tabled lines).trans declared
  have names := congrArg (List.map fun signature : TableKey × List String =>
    qualify signature.1.schema signature.1.name) signatures
  rw [List.map_map, List.map_map] at names
  have resolves := schema.resolves_iff distinct declared texts
  have errors := ReadState.errors_foldl_readReference {} tabled lines
  rw [declares.errors, resolves] at errors
  have lineCount : lines.length = schema.standaloneReferences.length := by
    simpa using congrArg List.length texts
  have references : (∀ reference ∈ schema.standaloneReferences, schema.FindsAgain reference) →
      (lines.foldl (ReadState.readReference {}) tabled).references.length =
        (tableDrafts {} schema.inlineReferences schema.tables).length +
          schema.standaloneReferences.length := by
    intro found
    have tabledCount : tabled.references.length =
        (tableDrafts {} schema.inlineReferences schema.tables).length := by
      rw [declares.references, List.length_append, InlineDraft.length_references]
      exact Nat.zero_add _
    rw [ReadState.length_references_foldl_readReference (resolves.mpr found), tabledCount,
      lineCount]
  have total := schema.length_references
  have valid : (RoundTrip.ofWriting schema (Writing.ofSchema {} now schema)).isValid = true ↔
      (lines.foldl (ReadState.readReference {}) tabled).journal.errors = [] ∧
        schema.references.length =
          (lines.foldl (ReadState.readReference {}) tabled).references.length := by
    rw [RoundTrip.ofWriting, if_pos succeeded, text]
    dsimp only
    rw [List.isEmpty_iff, RoundTrip.differences_eq_nil_iff]
    · simp only [Reading.ofScript, Reading.ofInterrupted, complete]
    · simp only [Reading.ofScript, Reading.ofInterrupted, complete]
      exact names
  rw [valid, errors]
  constructor
  · intro found
    obtain ⟨⟨⟨_, faultless⟩, found⟩, count⟩ := found
    exact ⟨faultless, by have := references found; omega, found⟩
  · intro found
    obtain ⟨faultless, count, found⟩ := found
    exact ⟨⟨⟨rfl, faultless⟩, found⟩, by have := references found; omega⟩

/-- No line that is written of the schema breaks into two. -/
def Write.keepsLines (layout : Layout) (now : Timestamp) (schema : Schema) : Bool :=
  match blocks layout now schema with
  | .ok blocks => blocks.all fun block => block.all fun line => !line.toList.contains '\n'
  | .error _ => true

/-- Every schema that was read can be written, and where no written line breaks, its round trip is valid
exactly if the references read back. -/
theorem Reading.roundTrip_isValid_iff (script : String) (created now : Timestamp)
    (whole : Write.keepsLines {} now ((Reading.ofScript {} script).schema created) = true) :
    (Writing.ofSchema {} now ((Reading.ofScript {} script).schema created)).succeeded = true ∧
      ((RoundTrip.ofWriting ((Reading.ofScript {} script).schema created)
        (Writing.ofSchema {} now ((Reading.ofScript {} script).schema created))).isValid = true ↔
          ((Reading.ofScript {} script).schema created).ReadsBack) := by
  obtain ⟨read, after, _, _, _, checked, complete⟩ := ReadState.ofLines_checked {} script
  have tables : ((Reading.ofScript {} script).schema created).tables = after.catalog.tables := by
    simp only [schema, ofScript, ofInterrupted, complete]
  have writable : ∀ table ∈ ((Reading.ofScript {} script).schema created).tables,
      table.Writable := by
    rw [tables]
    exact fun table member => (checked.grounded.wellFormed table member).writable
  have distinct : (((Reading.ofScript {} script).schema created).tables.map Table.key).Nodup := by
    rw [tables]
    exact after.catalog.distinct
  have oneLine : ∀ block ∈ Write.scriptBlocks {} now ((Reading.ofScript {} script).schema created),
      ∀ line ∈ block, '\n' ∉ line.toList := by
    rw [Write.keepsLines, Write.blocks_eq writable (by decide)] at whole
    simpa using whole
  exact ⟨(Writing.ofSchema_eq {} now writable (by decide)).1,
    Schema.isValid_iff_readsBack writable distinct oneLine⟩

theorem Reading.roundTrip_isValid_single :
    Write.keepsLines {} "now" ((Reading.ofScript {} "Table a \x7b\n  id integer [ref: > b.x]\n\x7d").schema
        "then") = true ∧
      ((Reading.ofScript {} "Table a \x7b\n  id integer [ref: > b.x]\n\x7d").schema
        "then").ReadsBack :=
  have whole : Write.keepsLines {} "now"
      ((Reading.ofScript {} "Table a \x7b\n  id integer [ref: > b.x]\n\x7d").schema "then") = true := by
    decide +kernel
  ⟨whole, (Reading.roundTrip_isValid_iff "Table a \x7b\n  id integer [ref: > b.x]\n\x7d" "then" "now"
    whole).2.mp (by decide +kernel)⟩

/-- A table that repeats a column: its reference is written with both columns of the name, and comes
back twice. -/
theorem Reading.roundTrip_repeatedColumn :
    (Reading.ofScript {}
        "Table a \x7b\n  id integer [ref: > b.x]\n  id integer\n\x7d").errors = [] ∧
      (RoundTrip.ofWriting
        ((Reading.ofScript {}
          "Table a \x7b\n  id integer [ref: > b.x]\n  id integer\n\x7d").schema "then")
        (Writing.ofSchema {} "now" ((Reading.ofScript {}
          "Table a \x7b\n  id integer [ref: > b.x]\n  id integer\n\x7d").schema
            "then"))).isValid = false := by
  decide +kernel

end TableScript
