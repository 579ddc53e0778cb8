import TableScript.Proofs.RoundTrip.References
import TableScript.Proofs.Write.Script

namespace TableScript

variable {layout : Layout} {now : Timestamp} {schema : Schema}

theorem Writing.ofSchema_eq (layout : Layout) (now : Timestamp)
    (writable : ∀ table ∈ schema.tables, table.Writable)
    (indented : layout.checkIndent = .ok ()) :
    (Writing.ofSchema layout now schema).succeeded = true ∧
      (Writing.ofSchema layout now schema).text =
        Text.join "\n" (Write.lines layout (Write.scriptBlocks layout now schema)) := by
  have script : Write.script layout now schema =
      .ok (Text.join "\n" (Write.lines layout (Write.scriptBlocks layout now schema))) := by
    rw [Write.script, Write.blocks_eq writable indented]
    rfl
  simp only [Writing.ofSchema, script, and_self]

theorem Column.name_reread (column : Column) (references : List Reference) (number : Nat) :
    (column.reread layout references number).name = column.name :=
  (Column.foldl_afterSetting_kept _ (column.settingsRead layout references)).2.1

theorem map_name_rereadColumns (referencesOf : Column → List Reference) (columns : List Column)
    (number : Nat) :
    (rereadColumns layout referencesOf columns number).map Column.name =
      columns.map Column.name := by
  have names : ∀ pair : Column × Nat,
      (pair.1.reread layout (referencesOf pair.1) pair.2).name = pair.1.name :=
    fun pair => Column.name_reread pair.1 _ pair.2
  calc (rereadColumns layout referencesOf columns number).map Column.name
      = (columns.zipIdx number).map (Column.name ∘ Prod.fst) := by
        rw [rereadColumns, List.map_map]
        exact List.map_congr_left fun pair _ => names pair
    _ = ((columns.zipIdx number).map Prod.fst).map Column.name := by rw [List.map_map]
    _ = columns.map Column.name := by rw [List.zipIdx_map_fst]

/-- The tables come back under their names and with their columns. -/
theorem map_signature_rereadTables {referencesOf : Table → Column → List Reference}
    {tables : List Table} (writable : ∀ table ∈ tables, table.Writable) (number columnNumber : Nat) :
    (rereadTables layout referencesOf tables number columnNumber).map Table.signature =
      tables.map Table.signature := by
  induction tables generalizing number columnNumber with
  | nil => rfl
  | cons table tables ih =>
      have first : (table.reread layout (referencesOf table) number columnNumber).signature =
          table.signature :=
        Prod.ext (Table.key_reread (writable table List.mem_cons_self))
          (map_name_rereadColumns (referencesOf table) table.columns columnNumber)
      rw [rereadTables, List.map_cons, List.map_cons, first,
        ih fun other member => writable other (List.mem_cons_of_mem table member)]

/-- Reading back what was written of a schema: the tables, then the references of their own. -/
theorem Reading.exists_reread (writable : ∀ table ∈ schema.tables, table.Writable)
    (distinct : (schema.tables.map Table.key).Nodup)
    (oneLine : ∀ block ∈ Write.scriptBlocks layout now schema, ∀ line ∈ block,
      '\n' ∉ line.toList) :
    ∃ tabled : ReadState, ∃ lines : List SourceLine,
      ReadState.Declares {} tabled
        (rereadTables layout schema.inlineReferences schema.tables 0 0)
        (schema.tables.flatMap Table.columns).length
        (tableDrafts layout schema.inlineReferences schema.tables)
        (∀ table ∈ schema.tables, ∀ column ∈ table.columns,
          column.RereadsFaultless layout (schema.inlineReferences table column)) ∧
      lines.map SourceLine.text = schema.standaloneReferences.map Reference.lineText ∧
      ReadState.ofLines {} .none
        (SourceLine.ofScript
          (Text.join "\n" (Write.lines layout (Write.scriptBlocks layout now schema)))) =
        lines.foldl (ReadState.readReference {}) tabled := by
  obtain ⟨tableLines, lines, split, tableTexts, texts⟩ :=
    List.map_eq_append_iff.mp (Write.map_text_ofScript_script writable oneLine)
  obtain ⟨tabled, readTables, declares⟩ := ReadState.readLines_written {} {} writable
    (by simpa [Catalog.empty] using distinct) tableTexts lines
  refine ⟨tabled, lines, declares, texts, ?_⟩
  have classified : ∀ line ∈ lines, LineKind.classify false line.text.toList = .ref := by
    intro line member
    have text : line.text ∈ lines.map SourceLine.text := List.mem_map_of_mem member
    rw [texts] at text
    obtain ⟨reference, _, same⟩ := List.mem_map.mp text
    rw [← same]
    exact reference.classify_lineText
  rw [ReadState.readLines_references classified] at readTables
  rw [split, ReadState.ofLines, readTables]
  rfl

end TableScript
