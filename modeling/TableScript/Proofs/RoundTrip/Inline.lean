import Mathlib.Data.List.Nodup
import TableScript.Proofs.RoundTrip.Settings
import TableScript.Proofs.RoundTrip.Tables
import TableScript.Write.Script

namespace TableScript

def Reference.numbered (reference : Reference) (number : Nat) : Reference :=
  { reference with id := "ref_" ++ toString number }

def numberReferences (references : List Reference) (number : Nat) : List Reference :=
  (references.zipIdx number).map fun (reference, place) => reference.numbered place

def Column.numbered (column : Column) (number : Nat) : Column :=
  { column with id := "col_" ++ toString number }

/-- The table under a number, its columns numbered from another one on. -/
def Table.numbered (table : Table) (number columnNumber : Nat) : Table :=
  { table with
    id := "table_" ++ toString number
    columns := (table.columns.zipIdx columnNumber).map fun (column, place) => column.numbered place }

/-- Tables numbered one after the other, and their columns through all of them. -/
def numberTables : (tables : List Table) → (number columnNumber : Nat) → List Table
  | [], _, _ => []
  | table :: rest, number, columnNumber =>
      table.numbered number columnNumber ::
        numberTables rest (number + 1) (columnNumber + table.columns.length)

def Reference.startsAt (reference : Reference) (table : Table) (column : Column) : Bool :=
  reference.source.table == table.name && reference.source.column == column.name

/-- The table as a script says it: a column is marked if one of the references starts there, and its
name is in quotes unless it needs none and had none. -/
def Table.settled (table : Table) (references : List Reference) : Table :=
  { table with
    columns := table.columns.map fun column =>
      { column with
        foreignKey := references.any (·.startsAt table column)
        quotedName := !column.isBare } }

variable {layout : Layout}

theorem Table.IsExpressible.reread_eq {table : Table} (expressible : table.IsExpressible)
    {referencesOf : Column → List Reference}
    (targets : ∀ column ∈ table.columns, ∀ reference ∈ referencesOf column,
      reference.target.IsWordy)
    {references : List Reference}
    (marks : ∀ column ∈ table.columns,
      references.any (·.startsAt table column) = !(referencesOf column).isEmpty)
    (comments : layout.comments = true) (properties : layout.properties = true)
    (number columnNumber : Nat) :
    table.reread layout referencesOf number columnNumber =
      (table.settled references).numbered number columnNumber := by
  have columns : rereadColumns layout referencesOf table.columns columnNumber =
      ((table.settled references).numbered number columnNumber).columns := by
    simp only [rereadColumns, numbered, settled, List.zipIdx_map, List.map_map]
    refine List.map_congr_left fun pair member => ?_
    have among : pair.1 ∈ table.columns := List.fst_mem_of_mem_zipIdx member
    have column := (expressible.columns pair.1 among).reread_eq (targets pair.1 among) comments
      properties pair.2
    rw [column, ← marks pair.1 among]
    rfl
  have note : (table.note <|> none) = table.note := by cases table.note <;> rfl
  rw [reread, columns, expressible.headerRead_eq properties, noteWritten_eq comments expressible.note]
  dsimp only
  rw [note]
  rfl

theorem rereadTables_eq {tables : List Table} (expressible : ∀ table ∈ tables, table.IsExpressible)
    {referencesOf : Table → Column → List Reference}
    (targets : ∀ table ∈ tables, ∀ column ∈ table.columns,
      ∀ reference ∈ referencesOf table column, reference.target.IsWordy)
    {references : List Reference}
    (marks : ∀ table ∈ tables, ∀ column ∈ table.columns,
      references.any (·.startsAt table column) = !(referencesOf table column).isEmpty)
    (comments : layout.comments = true) (properties : layout.properties = true)
    (number columnNumber : Nat) :
    rereadTables layout referencesOf tables number columnNumber =
      numberTables (tables.map (·.settled references)) number columnNumber := by
  induction tables generalizing number columnNumber with
  | nil => rfl
  | cons table rest ih =>
      obtain ⟨first, others⟩ := List.forall_mem_cons.mp expressible
      obtain ⟨firstTargets, otherTargets⟩ := List.forall_mem_cons.mp targets
      obtain ⟨firstMarks, otherMarks⟩ := List.forall_mem_cons.mp marks
      have length : (table.settled references).columns.length = table.columns.length := by
        simp [Table.settled]
      rw [rereadTables, first.reread_eq firstTargets firstMarks comments properties,
        ih others otherTargets otherMarks, List.map_cons, numberTables, length]

theorem references_ofReference {references : List Reference}
    (plain : ∀ reference ∈ references, reference.inline = true ∧ reference.IsPlainInline)
    (number : Nat) :
    InlineDraft.references (references.map InlineDraft.ofReference) number =
      numberReferences references number := by
  simp only [InlineDraft.references, numberReferences, List.zipIdx_map, List.map_map]
  refine List.map_congr_left fun pair member => ?_
  obtain ⟨inline, form⟩ := plain pair.1 (List.fst_mem_of_mem_zipIdx member)
  simp [InlineDraft.ofReference, InlineDraft.reference, Reference.numbered, inline, form.unnamed,
    form.noDelete, form.noUpdate]

namespace Schema

variable {schema : Schema} {table other : Table} {column : Column} {reference : Reference}

theorem IsExpressible.eq_of_name (expressible : schema.IsExpressible)
    (member : table ∈ schema.tables) (otherMember : other ∈ schema.tables)
    (same : table.name = other.name) : table = other :=
  List.inj_on_of_nodup_map expressible.distinct member otherMember same

theorem mem_inlineInOrder_iff : reference ∈ schema.inlineInOrder ↔
    reference ∈ schema.references ∧ reference.inline = true ∧
      ∃ table ∈ schema.tables, ∃ column ∈ table.columns,
        reference.source = ⟨table.schema, table.name, column.name⟩ := by
  simp only [inlineInOrder, declaredInline, List.mem_flatMap, List.mem_filter, Bool.and_eq_true,
    beq_iff_eq]
  constructor
  · intro found
    obtain ⟨table, member, column, among, listed, inline, source⟩ := found
    exact ⟨listed, inline, table, member, column, among, source⟩
  · intro found
    obtain ⟨listed, inline, table, member, column, among, source⟩ := found
    exact ⟨table, member, column, among, listed, inline, source⟩

theorem IsExpressible.mem_inlineInOrder (expressible : schema.IsExpressible)
    (listed : reference ∈ schema.references) (inline : reference.inline = true) :
    reference ∈ schema.inlineInOrder := by
  rw [expressible.ordered] at listed
  rcases List.mem_append.mp listed with found | standalone
  · exact found
  · simp [inline] at standalone

theorem IsExpressible.table?_eq (expressible : schema.IsExpressible)
    (member : table ∈ schema.tables) : schema.table? table.name table.schema = some table := by
  have fits : (table.name == table.name &&
      (table.schema.isNone || table.schema == table.schema)) = true := by simp
  cases found : schema.table? table.name table.schema with
  | none =>
      have nothing := List.find?_eq_none.mp found table member
      exact absurd fits nothing
  | some other =>
      have named := List.find?_some found
      simp only [Bool.and_eq_true, beq_iff_eq] at named
      rw [expressible.eq_of_name (List.mem_of_find?_eq_some found) member named.1]

/-- The inline references are those that are written with their columns. -/
theorem IsExpressible.writesInline_eq (expressible : schema.IsExpressible)
    (listed : reference ∈ schema.references) :
    schema.writesInline reference = reference.inline := by
  cases inline : reference.inline with
  | false => simp [writesInline, inline]
  | true =>
      have plain := expressible.inline reference listed inline
      obtain ⟨_, _, table, member, column, among, source⟩ :=
        mem_inlineInOrder_iff.mp (expressible.mem_inlineInOrder listed inline)
      have declared : table.hasColumn column.name = true :=
        Table.hasColumn_iff.mpr (List.mem_map_of_mem among)
      simp [writesInline, inline, plain.unnamed, plain.noDelete, plain.noUpdate, isGiven, source,
        expressible.table?_eq member, declared]

theorem IsExpressible.inlineReferences_eq (expressible : schema.IsExpressible) (table : Table)
    (column : Column) :
    schema.inlineReferences table column = schema.declaredInline table column := by
  refine List.filter_congr fun reference listed => ?_
  rw [expressible.writesInline_eq listed, Bool.and_comm]

theorem IsExpressible.standaloneReferences_eq (expressible : schema.IsExpressible) :
    schema.standaloneReferences = schema.references.filter fun reference => !reference.inline :=
  List.filter_congr fun reference listed => by rw [expressible.writesInline_eq listed]

theorem IsExpressible.any_startsAt (expressible : schema.IsExpressible)
    (member : table ∈ schema.tables) (among : column ∈ table.columns) :
    schema.inlineInOrder.any (·.startsAt table column) =
      !(schema.inlineReferences table column).isEmpty := by
  rw [expressible.inlineReferences_eq, Bool.eq_iff_iff]
  simp only [List.any_eq_true, Bool.not_eq_true', List.isEmpty_eq_false_iff_exists_mem,
    Reference.startsAt, Bool.and_eq_true, beq_iff_eq]
  constructor
  · intro found
    obtain ⟨reference, inOrder, tableName, columnName⟩ := found
    obtain ⟨listed, inline, other, otherMember, otherColumn, _, source⟩ :=
      mem_inlineInOrder_iff.mp inOrder
    have same := expressible.eq_of_name otherMember member (by rw [← tableName, source])
    have started : reference.source = ⟨table.schema, table.name, column.name⟩ := by
      rw [source] at columnName ⊢
      exact congr (congrArg (fun table : Table => Endpoint.mk table.schema table.name) same) columnName
    refine ⟨reference, List.mem_filter.mpr ⟨listed, ?_⟩⟩
    rw [inline, started]
    simp
  · intro found
    obtain ⟨reference, declared⟩ := found
    obtain ⟨listed, inline⟩ := List.mem_filter.mp declared
    simp only [Bool.and_eq_true, beq_iff_eq] at inline
    refine ⟨reference, mem_inlineInOrder_iff.mpr
      ⟨listed, inline.1, table, member, column, among, inline.2⟩, ?_, ?_⟩
    · rw [inline.2]
    · rw [inline.2]

theorem IsExpressible.isWordy_target (expressible : schema.IsExpressible) :
    ∀ reference ∈ schema.inlineReferences table column, reference.target.IsWordy := by
  intro reference member
  obtain ⟨listed, _⟩ := List.mem_filter.mp member
  rw [expressible.inlineReferences_eq] at member
  have inline := (List.mem_filter.mp member).2
  rw [Bool.and_eq_true] at inline
  exact (expressible.inline reference listed inline.1).target

theorem writesInline_of_mem_inlineReferences (member : reference ∈ schema.inlineReferences table column) :
    reference ∈ schema.references ∧ reference.source = ⟨table.schema, table.name, column.name⟩ ∧
      schema.writesInline reference = true := by
  obtain ⟨listed, written⟩ := List.mem_filter.mp member
  rw [Bool.and_eq_true, beq_iff_eq] at written
  exact ⟨listed, written⟩

/-- The references that are written with columns, in that order. One that is written with several columns
is there several times. -/
def writtenInline (schema : Schema) : List Reference :=
  schema.tables.flatMap fun table => table.columns.flatMap (schema.inlineReferences table)

theorem tableDrafts_eq (steady : ∀ table ∈ schema.tables, table.IsSteady layout)
    (targets : ∀ {table column}, ∀ reference ∈ schema.inlineReferences table column,
      reference.target.IsWordy) :
    tableDrafts layout schema.inlineReferences schema.tables =
      schema.writtenInline.map InlineDraft.ofReference := by
  rw [tableDrafts, writtenInline, List.map_flatMap]
  refine List.flatMap_congr fun table member => ?_
  rw [List.map_flatMap]
  refine List.flatMap_congr fun column among => ?_
  exact Table.columnDrafts_eq ((steady table member).columns column among) targets
    fun reference listed => (writesInline_of_mem_inlineReferences listed).2.1

theorem IsExpressible.tableDrafts_eq (expressible : schema.IsExpressible) (layout : Layout) :
    tableDrafts layout schema.inlineReferences schema.tables =
      schema.inlineInOrder.map InlineDraft.ofReference := by
  have inOrder : schema.writtenInline = schema.inlineInOrder :=
    List.flatMap_congr fun table _ =>
      List.flatMap_congr fun column _ => expressible.inlineReferences_eq table column
  rw [← inOrder]
  exact schema.tableDrafts_eq (fun table member => (expressible.tables table member).steady layout)
    expressible.isWordy_target

end Schema

end TableScript
