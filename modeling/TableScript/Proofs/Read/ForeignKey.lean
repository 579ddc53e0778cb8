import TableScript.Proofs.Read.TargetCheck

/-! What a foreign key mark means when a script is read. Where names tell tables and columns apart, a
column is marked exactly if a reference starts at it, as long as no reference is dropped. A column that
has lost an inline reference keeps its mark only for references that name its schema in the same way. -/

namespace TableScript

instance (endpoint : Endpoint) (table : Table) (column : Column) :
    Decidable (endpoint.Means table column) :=
  decidable_of_iff (endpoint.table = table.name ∧ endpoint.column = column.name ∧
      (endpoint.schema = none ∨ endpoint.schema = table.schema))
    ⟨fun ⟨table, column, schema⟩ => ⟨table, column, schema⟩, fun means => ⟨means.1, means.2, means.3⟩⟩

/-- No two tables have the same name, whatever their schemas, and no table has two columns of one
name. -/
def NamesTellApart (tables : List Table) : Prop :=
  (tables.map Table.name).Nodup ∧ ∀ table ∈ tables, (table.columns.map Column.name).Nodup

instance (tables : List Table) : Decidable (NamesTellApart tables) :=
  inferInstanceAs (Decidable (_ ∧ _))

section NamesTellApart

variable {tables : List Table} {table other : Table} {column otherColumn : Column}
  {endpoint : Endpoint}

theorem NamesTellApart.eq_of_means (apart : NamesTellApart tables) (member : table ∈ tables)
    (otherMember : other ∈ tables) (inside : column ∈ table.columns)
    (otherInside : otherColumn ∈ other.columns) (means : endpoint.Means table column)
    (otherMeans : endpoint.Means other otherColumn) : table = other ∧ column = otherColumn := by
  have same : table = other :=
    List.inj_on_of_nodup_map apart.1 member otherMember
      (means.tableNamed.symm.trans otherMeans.tableNamed)
  subst same
  exact ⟨rfl, List.inj_on_of_nodup_map (apart.2 table member) inside otherInside
    (means.columnNamed.symm.trans otherMeans.columnNamed)⟩

theorem namesTellApart_clearing {ids : List String} :
    NamesTellApart (tables.map (·.clearing ids)) ↔ NamesTellApart tables := by
  have names : (tables.map (·.clearing ids)).map Table.name = tables.map Table.name := by
    rw [List.map_map]
    rfl
  have columns : ∀ table : Table,
      (table.clearing ids).columns.map Column.name = table.columns.map Column.name :=
    (isMarking_clearing ids).map_eq Column.name fun _ => rfl
  simp only [NamesTellApart, names, List.forall_mem_map, columns]

end NamesTellApart

namespace ReadState

variable {state read after : ReadState} {table : Table} {column : Column} {cleared : List String}

/-- Marks of everything read, before any reference is dropped. -/
theorem Marked.mark_iff (marked : state.Marked) (apart : NamesTellApart state.catalog.tables)
    (member : table ∈ state.catalog.tables) (inside : column ∈ table.columns) :
    column.foreignKey = true ↔
      ∃ reference ∈ state.references, reference.source.Means table column := by
  constructor
  · exact marked.started table member column inside
  · intro started
    obtain ⟨reference, among, means⟩ := started
    obtain ⟨other, otherMember, otherColumn, otherInside, mark, otherMeans⟩ :=
      marked.marked reference among
    obtain ⟨rfl, rfl⟩ := apart.eq_of_means member otherMember inside otherInside means otherMeans
    exact mark

theorem Marked.tellsApart (marked : state.Marked) (sound : state.Sound state.catalog.tables)
    (apart : NamesTellApart state.catalog.tables) : state.TellsApart := by
  intro first firstMember second secondMember
  obtain ⟨table, member, column, inside, declared⟩ := marked.declared first firstMember
  obtain ⟨other, otherMember, otherColumn, otherInside, otherDeclared⟩ :=
    marked.declared second secondMember
  constructor
  · intro same
    have both := sound.isDeclaredBy_of_id marked secondMember member inside
      (declared.id.symm.trans same)
    rw [declared.source, both.source]
  · intro same
    have means := otherDeclared.means
    rw [← same] at means
    obtain ⟨rfl, rfl⟩ := apart.eq_of_means member otherMember inside otherInside declared.means means
    rw [declared.id, otherDeclared.id]

/-- An inline reference of the column is dropped, as its target is missing. -/
def Drops (state : ReadState) (check : TargetCheck) (column : Column) : Prop :=
  check = .fail ∧ ∃ use ∈ state.lostUses, use.columnId = column.id

instance (state : ReadState) (check : TargetCheck) (column : Column) :
    Decidable (state.Drops check column) :=
  inferInstanceAs (Decidable (_ ∧ _))

theorem Dropped.lostUses_eq {gone : List InlineUse} (dropped : Dropped read gone cleared after) :
    after.lostUses = read.lostUses := by
  unfold lostUses
  rw [dropped.inlineUses]
  exact List.filter_congr fun use _ => Endpoint.isMissing_congr dropped.signatures

theorem Table.mem_clearing {ids : List String} (inside : column ∈ (table.clearing ids).columns) :
    ∃ before ∈ table.columns, before.id = column.id ∧ before.name = column.name ∧
      (column.foreignKey = true ↔ before.foreignKey = true ∧ before.id ∉ ids) := by
  obtain ⟨before, among, rfl⟩ := List.mem_map.mp inside
  refine ⟨before, among, ?_⟩
  split
  · rename_i gone
    exact ⟨rfl, rfl, by simp [gone]⟩
  · rename_i kept
    exact ⟨rfl, rfl, by simp [kept]⟩

/-- A column that lost no reference keeps its mark for the references that it had. -/
theorem Dropped.exists_kept_iff (dropped : Dropped read read.lostUses cleared after) (marked : read.Marked)
    (apart : NamesTellApart read.catalog.tables) (member : table ∈ read.catalog.tables)
    (inside : column ∈ table.columns) (kept : ∀ use ∈ read.lostUses, use.columnId ≠ column.id) :
    (∃ reference ∈ after.references, reference.source.Means table column) ↔
      ∃ reference ∈ read.references, reference.source.Means table column := by
  rw [dropped.references]
  constructor
  · intro started
    obtain ⟨reference, among, means⟩ := started
    exact ⟨reference, List.mem_of_mem_filter among, means⟩
  · intro started
    obtain ⟨reference, among, means⟩ := started
    refine ⟨reference, List.mem_filter.mpr ⟨among, ?_⟩, means⟩
    refine decide_eq_true fun gone => ?_
    obtain ⟨use, lost, rfl⟩ := List.mem_map.mp gone
    obtain ⟨other, otherMember, otherColumn, otherInside, declared⟩ :=
      marked.declared use (List.mem_of_mem_filter lost)
    obtain ⟨rfl, rfl⟩ :=
      apart.eq_of_means member otherMember inside otherInside means declared.means
    exact kept use lost declared.id

theorem Dropped.mark_iff (dropped : Dropped read read.lostUses cleared after)
    (sound : read.Sound read.catalog.tables) (marked : read.Marked)
    (apart : NamesTellApart read.catalog.tables) (member : table ∈ after.catalog.tables)
    (inside : column ∈ table.columns) :
    column.foreignKey = true ↔ ∃ reference ∈ after.references,
      reference.source.Means table column ∧
        (reference.source.schema = table.schema ∨ ¬after.Drops .fail column) := by
  rw [dropped.tables] at member
  obtain ⟨before, among, rfl⟩ := List.mem_map.mp member
  obtain ⟨old, oldInside, id, name, mark⟩ := Table.mem_clearing inside
  have sameMeaning : ∀ endpoint : Endpoint,
      endpoint.Means (before.clearing cleared) column ↔ endpoint.Means before old := by
    intro endpoint
    constructor
    · exact fun means => ⟨means.1, means.2.trans name.symm, means.3⟩
    · exact fun means => ⟨means.1, means.2.trans name, means.3⟩
  have drops : after.Drops .fail column ↔ ∃ use ∈ read.lostUses, use.columnId = old.id := by
    rw [Drops, dropped.lostUses_eq, id]
    exact and_iff_right rfl
  simp only [mark, drops, sameMeaning]
  by_cases lost : ∃ use ∈ read.lostUses, use.columnId = old.id
  · obtain ⟨use, useLost, same⟩ := lost
    have useMember := List.mem_of_mem_filter useLost
    have declared := sound.isDeclaredBy_of_id marked useMember among oldInside same.symm
    have alone := dropped.exact (marked.tellsApart sound apart)
      (fun use member => List.mem_of_mem_filter member) use useLost
    rw [same, declared.source] at alone
    have found : (∃ use ∈ read.lostUses, use.columnId = old.id) := ⟨use, useLost, same⟩
    simp only [declared.marked, alone, true_and, found, not_true, or_false, not_forall, not_not]
    constructor
    · intro started
      obtain ⟨reference, there, source⟩ := started
      exact ⟨reference, there, by rw [source]; exact ⟨rfl, rfl, .inr rfl⟩, by rw [source]; rfl⟩
    · intro started
      obtain ⟨reference, there, means, schema⟩ := started
      refine ⟨reference, there, ?_⟩
      have sameSchema : reference.source.schema = before.schema := schema
      calc reference.source
          = ⟨reference.source.schema, reference.source.table, reference.source.column⟩ := rfl
        _ = ⟨before.schema, before.name, old.name⟩ := by
            rw [sameSchema, means.tableNamed, means.columnNamed]
  · have kept : old.id ∉ cleared := by
      intro gone
      obtain ⟨use, useLost, same⟩ := List.mem_map.mp (dropped.within gone)
      exact lost ⟨use, useLost, same⟩
    have others := dropped.exists_kept_iff marked apart among oldInside
      fun use useLost same => lost ⟨use, useLost, same⟩
    simp only [kept, not_false_eq_true, and_true, lost, or_true, others]
    exact marked.mark_iff apart among oldInside

end ReadState

/-- The foreign key marks of a script. A column is marked exactly if a reference of the reading starts at
it that names the schema of its table; references without a schema count as well unless an inline
reference of the column was dropped. -/
theorem Reading.foreignKey_iff (policy : Policy) (script : String)
    (apart : NamesTellApart (ofScript policy script).tables) :
    ∀ table ∈ (ofScript policy script).tables, ∀ column ∈ table.columns,
      column.foreignKey = true ↔ ∃ reference ∈ (ofScript policy script).references,
        reference.source.Means table column ∧ (reference.source.schema = table.schema ∨
          ¬(ReadState.ofLines policy .none (SourceLine.ofScript script)).Drops policy.targetCheck
            column) := by
  obtain ⟨check, report⟩ := policy
  obtain ⟨read, sound, reachable, ignoring, warning, cleared, dropped⟩ :=
    ReadState.exists_read report script
  have marked := reachable.marked
  intro table member column inside
  cases check with
  | ignore =>
      simp only [ofScript, ofInterrupted, ignoring] at apart member ⊢
      simpa [ReadState.Drops] using marked.mark_iff apart member inside
  | warn =>
      simp only [ofScript, ofInterrupted, warning] at apart member ⊢
      simpa [ReadState.Drops] using marked.mark_iff apart member inside
  | fail =>
      simp only [ofScript, ofInterrupted] at apart member ⊢
      rw [dropped.tables, namesTellApart_clearing] at apart
      exact dropped.mark_iff sound marked apart member inside

theorem Reading.foreignKey_iff_twoReferences :
    let script := "Table s.a \x7b\n  id integer [ref: > b.x, ref: > s.a.id]\n\x7d\nRef: a.id > a.id"
    let column : Column := { id := "col_0", name := "id", type := "integer", foreignKey := true }
    let table : Table := { id := "table_0", name := "a", schema := some "s", columns := [column] }
    NamesTellApart (ofScript ⟨.fail, true⟩ script).tables ∧
      table ∈ (ofScript ⟨.fail, true⟩ script).tables ∧ column ∈ table.columns ∧
      ∃ reference ∈ (ofScript ⟨.fail, true⟩ script).references,
        reference.source.Means table column ∧ (reference.source.schema = table.schema ∨
          ¬(ReadState.ofLines ⟨.fail, true⟩ .none (SourceLine.ofScript script)).Drops .fail
            column) :=
  ⟨by decide +kernel, by decide +kernel, by decide +kernel,
    (Reading.foreignKey_iff ⟨.fail, true⟩ _ (by decide +kernel) _ (by decide +kernel) _
      (by decide +kernel)).mp rfl⟩

/-- A column that loses its mark although a reference starts at it: the inline reference that is dropped
names the schema of the table, and the other one does not. -/
theorem Reading.foreignKey_unqualifiedReference :
    let reading :=
      ofScript ⟨.fail, true⟩ "Table s.a \x7b\n  id integer [ref: > b.x]\n\x7d\nRef: a.id > a.id"
    NamesTellApart reading.tables ∧ ∃ table ∈ reading.tables, ∃ column ∈ table.columns,
      column.foreignKey = false ∧
        ∃ reference ∈ reading.references, reference.source.Means table column := by
  decide +kernel

end TableScript
