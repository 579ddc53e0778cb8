import TableScript.Proofs.Read.Step
import TableScript.Proofs.RoundTrip.Table

namespace TableScript

def rereadTables (layout : Layout) (referencesOf : Table → Column → List Reference) :
    (tables : List Table) → (number columnNumber : Nat) → List Table
  | [], _, _ => []
  | table :: rest, number, columnNumber =>
      table.reread layout (referencesOf table) number columnNumber ::
        rereadTables layout referencesOf rest (number + 1) (columnNumber + table.columns.length)

def tableDrafts (layout : Layout) (referencesOf : Table → Column → List Reference)
    (tables : List Table) : List InlineDraft :=
  tables.flatMap fun table => table.columns.flatMap (table.columnDrafts layout (referencesOf table))

namespace Table

variable {table : Table} {layout : Layout} {referencesOf : Column → List Reference}
  {number columnNumber : Nat}

theorem key_headerRead (writable : table.Writable) :
    ((table.headerRead layout).table number).key = table.key := by
  obtain ⟨_, key, _⟩ := (table.headerRead layout).table_kept number
  rw [key, nameParts_headerRead writable]
  cases schema : table.schema <;> simp [Table.key, schema]

theorem key_reread (writable : table.Writable) :
    (table.reread layout referencesOf number columnNumber).key = table.key :=
  key_headerRead writable

theorem nameProblems_headerRead (writable : table.Writable) {catalog : Catalog}
    (free : catalog.contains table.key = false) :
    (table.headerRead layout).nameProblems catalog = [] := by
  have named : Lexeme.isIdentifier table.name.toList = true := writable.named.1
  unfold TableHeader.nameProblems
  rw [nameParts_headerRead writable]
  rw [key] at free
  cases schema : table.schema with
  | none =>
      rw [schema] at free
      simp [named, free]
  | some text =>
      have qualified := (writable.qualified text schema).1
      rw [schema] at free
      simp [named, qualified, free]

end Table

namespace ReadState

/-- What reading tables of a script adds. -/
structure Declares (before after : ReadState) (tables : List Table) (columns : Nat)
    (drafts : List InlineDraft) (faultless : Prop) : Prop where
  declared : after.catalog.tables = before.catalog.tables ++ tables
  references : after.references =
    before.references ++ InlineDraft.references drafts before.referencesNumbered
  tablesNumbered : after.tablesNumbered = before.tablesNumbered + tables.length
  columnsNumbered : after.columnsNumbered = before.columnsNumbered + columns
  referencesNumbered : after.referencesNumbered = before.referencesNumbered + drafts.length
  errors : after.journal.errors = [] ↔ before.journal.errors = [] ∧ faultless

variable {policy : Policy} {state : ReadState} {layout : Layout}

theorem Declares.trans {before middle after : ReadState} {tables moreTables : List Table}
    {columns moreColumns : Nat} {drafts moreDrafts : List InlineDraft} {first second : Prop}
    (begun : before.Declares middle tables columns drafts first)
    (ended : middle.Declares after moreTables moreColumns moreDrafts second) :
    before.Declares after (tables ++ moreTables) (columns + moreColumns) (drafts ++ moreDrafts)
      (first ∧ second) where
  declared := by rw [ended.declared, begun.declared, List.append_assoc]
  references := by
    rw [ended.references, begun.references, begun.referencesNumbered,
      InlineDraft.references_append, List.append_assoc]
  tablesNumbered := by
    rw [ended.tablesNumbered, begun.tablesNumbered, List.length_append, Nat.add_assoc]
  columnsNumbered := by rw [ended.columnsNumbered, begun.columnsNumbered, Nat.add_assoc]
  referencesNumbered := by
    rw [ended.referencesNumbered, begun.referencesNumbered, List.length_append, Nat.add_assoc]
  errors := by rw [ended.errors, begun.errors, and_assoc]

theorem errors_tableDiagnostics (header : TableHeader) (policy : Policy) (line : SourceLine) :
    Journal.errors (header.diagnostics policy line) = [] := by
  simp only [Journal.errors, Journal.ofSeverity, TableHeader.diagnostics, List.filter_eq_nil_iff,
    List.forall_mem_map, Problem.severity_foundAt, beq_iff_eq, List.mem_flatMap,
    forall_exists_index, and_imp]
  intro problem setting _ among
  unfold Setting.tableProblems at among
  split at among
  · rw [List.mem_singleton.mp among]
    simp [Problem.severity]
  · cases among

theorem step_written (policy : Policy) {referencesOf : Column → List Reference} {table : Table}
    (writable : table.Writable) (free : table.key ∉ state.catalog.tables.map Table.key)
    {line : SourceLine} {lines : List SourceLine}
    (texts : (line :: lines).map SourceLine.text = table.texts layout referencesOf)
    (rest : List SourceLine) :
    ∃ after, step policy .none state line (lines ++ rest) = .ok (after, rest) ∧
      state.Declares after
        [table.reread layout referencesOf state.tablesNumbered state.columnsNumbered]
        table.columns.length (table.columns.flatMap (table.columnDrafts layout referencesOf))
        (∀ column ∈ table.columns, column.RereadsFaultless layout (referencesOf column)) := by
  obtain ⟨text, bodyTexts⟩ := List.cons.inj texts
  have absent : state.catalog.contains table.key = false :=
    Bool.eq_false_iff.mpr fun there => free (Catalog.contains_iff.mp there)
  have classified : LineKind.classify false line.text.toList = .table := by
    rw [text]
    exact Table.classify_headerText writable
  have read : TableHeader.read? line.text.toList = some (table.headerRead layout) := by
    rw [text]
    exact Table.read?_headerText writable
  have headed := extends_adding state
    (errors_tableDiagnostics (table.headerRead layout) policy line)
  have columns := ((table.headerRead layout).table_kept state.tablesNumbered).2.2
  have opens : (table.headerRead layout).opensBody = true := rfl
  obtain ⟨after, body, extended⟩ := readBody_written policy
    (state.withHeader policy line (table.headerRead layout)) line writable opens bodyTexts rest
    ((table.headerRead layout).table state.tablesNumbered) columns (Table.key_headerRead writable)
  have sameCatalog : after.catalog = state.catalog := extended.catalog
  change readBody policy line (table.headerRead layout) (lines ++ rest) _ =
    ((after, table.reread layout referencesOf state.tablesNumbered state.columnsNumbered), rest)
    at body
  have stillFree : after.catalog.contains
      (table.reread layout referencesOf state.tablesNumbered state.columnsNumbered).key = false := by
    rw [sameCatalog, Table.key_reread writable, absent]
  cases declared : after.catalog.declare
      (table.reread layout referencesOf state.tablesNumbered state.columnsNumbered) with
  | error refusal => simp [Catalog.declare, stillFree] at declared
  | ok catalog =>
      refine ⟨{ after with catalog }, ?_, ?_⟩
      · simp only [step, Interrupts.none, classified, readKind, readTable, read,
          Table.nameProblems_headerRead writable absent, readAcceptedTable_eq, body, declared]
      · have tables := Catalog.tables_of_declare declared
        rw [sameCatalog] at tables
        refine ⟨tables, ?_, ?_, extended.columnsNumbered, extended.referencesNumbered, ?_⟩
        · simpa [withHeader] using extended.references
        · rw [List.length_singleton]
          exact extended.tablesNumbered
        · have errors := extended.errors
          rw [show (state.withHeader policy line (table.headerRead layout)).journal =
            (state.adding [] ((table.headerRead layout).diagnostics policy line)).journal from rfl,
            headed.errors, and_true] at errors
          exact errors

/-- All tables, with whatever stands behind them. -/
theorem readLines_written (policy : Policy) (state : ReadState)
    {referencesOf : Table → Column → List Reference} {tables : List Table}
    (writable : ∀ table ∈ tables, table.Writable)
    (distinct : (state.catalog.tables.map Table.key ++ tables.map Table.key).Nodup)
    {lines : List SourceLine}
    (texts : lines.map SourceLine.text =
      tables.flatMap fun table => table.texts layout (referencesOf table))
    (rest : List SourceLine) :
    ∃ after, readLines policy .none state (lines ++ rest) = readLines policy .none after rest ∧
      state.Declares after
        (rereadTables layout referencesOf tables state.tablesNumbered state.columnsNumbered)
        (tables.flatMap Table.columns).length (tableDrafts layout referencesOf tables)
        (∀ table ∈ tables, ∀ column ∈ table.columns,
          column.RereadsFaultless layout (referencesOf table column)) := by
  induction tables generalizing state lines with
  | nil =>
      obtain rfl := List.map_eq_nil_iff.mp texts
      exact ⟨state, rfl, by simp [rereadTables], by simp [tableDrafts, InlineDraft.references], rfl,
        rfl, rfl, by simp⟩
  | cons table tables ih =>
      rw [List.flatMap_cons] at texts
      obtain ⟨tableLines, moreLines, rfl, tableTexts, moreTexts⟩ := List.map_eq_append_iff.mp texts
      have first := writable table List.mem_cons_self
      have free : table.key ∉ state.catalog.tables.map Table.key := by
        intro there
        exact (List.nodup_append.mp distinct).2.2 table.key there table.key (by simp) rfl
      cases tableLines with
      | nil => simp [Table.texts] at tableTexts
      | cons line lines =>
          obtain ⟨middle, stepped, begun⟩ := step_written policy first free tableTexts
            (moreLines ++ rest)
          have distinctBehind :
              (middle.catalog.tables.map Table.key ++ tables.map Table.key).Nodup := by
            rw [begun.declared, List.map_append, List.map_singleton, Table.key_reread first,
              List.append_assoc]
            simpa using distinct
          obtain ⟨after, readBehind, ended⟩ := ih middle
            (fun other member => writable other (List.mem_cons_of_mem table member)) distinctBehind
            moreTexts
          refine ⟨after, ?_, ?_⟩
          · rw [List.cons_append, List.cons_append, List.append_assoc, readLines_cons stepped,
              readBehind]
          · have whole := begun.trans ended
            rw [begun.tablesNumbered, begun.columnsNumbered] at whole
            refine { whole with columnsNumbered := ?_, errors := ?_ }
            · rw [whole.columnsNumbered, List.flatMap_cons, List.length_append]
            · rw [whole.errors, List.forall_mem_cons]

end ReadState

end TableScript
