import TableScript.Proofs.Lexeme
import TableScript.Catalog
import TableScript.Model.Reference

namespace TableScript

/-- A name that needs no quotes, on one line. -/
def IsPlainName (name : String) : Prop :=
  Lexeme.isIdentifier name.toList = true ∧ '\n' ∉ name.toList

structure Column.WellFormed (column : Column) : Prop where
  typed : Lexeme.IsColumnType column.type.toList
  typeOneLine : '\n' ∉ column.type.toList
  bare : column.quotedName = false → IsPlainName column.name
  quoted : column.quotedName = true → column.name ≠ "" ∧ '\n' ∉ column.name.toList ∧
    ¬('\'' ∈ column.name.toList ∧ '"' ∈ column.name.toList)

structure Table.WellFormed (table : Table) : Prop where
  named : IsPlainName table.name
  qualified : ∀ schema ∈ table.schema, IsPlainName schema
  columns : ∀ column ∈ table.columns, column.WellFormed

/-- Some table of that name has the column. A schema counts where one is written. -/
def Endpoint.IsDeclared (endpoint : Endpoint) (tables : List Table) : Prop :=
  ∃ table ∈ tables, table.name = endpoint.table ∧
    (∀ schema ∈ endpoint.schema, table.schema = some schema) ∧
    table.hasColumn endpoint.column = true

/-- The table with exactly that schema and name has the column. -/
def Endpoint.IsExact (endpoint : Endpoint) (tables : List Table) : Prop :=
  ∃ table ∈ tables, table.key = ⟨endpoint.schema, endpoint.table⟩ ∧
    table.hasColumn endpoint.column = true

theorem Table.hasColumn_iff {table : Table} {name : String} :
    table.hasColumn name = true ↔ name ∈ table.columns.map Column.name := by
  simp [hasColumn, column?, List.mem_map]

def Column.unmarked (column : Column) : Column :=
  { column with foreignKey := false }

theorem Column.wellFormed_unmarked {column : Column} :
    column.unmarked.WellFormed ↔ column.WellFormed :=
  ⟨fun form => ⟨form.1, form.2, form.3, form.4⟩, fun form => ⟨form.1, form.2, form.3, form.4⟩⟩

/-- The columns of every table after a change of marks. -/
def Table.withColumns (table : Table) (change : Table → List Column) : Table :=
  { table with columns := change table }

/-- A change of columns that sets or clears foreign key marks and changes nothing else. -/
def IsMarking (change : Table → List Column) : Prop :=
  ∀ table, (change table).map Column.unmarked = table.columns.map Column.unmarked

section Marking

variable {change : Table → List Column} {tables : List Table} {endpoint : Endpoint}

theorem IsMarking.map_eq {α : Type} (marking : IsMarking change) (view : Column → α)
    (blind : ∀ column : Column, view column.unmarked = view column) (table : Table) :
    (change table).map view = table.columns.map view := by
  have same : view ∘ Column.unmarked = view := funext blind
  calc (change table).map view
      = ((change table).map Column.unmarked).map view := by rw [List.map_map, same]
    _ = (table.columns.map Column.unmarked).map view := by rw [marking table]
    _ = table.columns.map view := by rw [List.map_map, same]

theorem IsMarking.hasColumn (marking : IsMarking change) (table : Table) (name : String) :
    (table.withColumns change).hasColumn name = table.hasColumn name := by
  have names := marking.map_eq Column.name (fun _ => rfl) table
  apply Bool.eq_iff_iff.mpr
  rw [Table.hasColumn_iff, Table.hasColumn_iff, Table.withColumns, names]

theorem IsMarking.wellFormed (marking : IsMarking change) {table : Table}
    (form : table.WellFormed) : (table.withColumns change).WellFormed where
  named := form.named
  qualified := form.qualified
  columns := by
    intro column member
    have unmarked : column.unmarked ∈ table.columns.map Column.unmarked := by
      rw [← marking table]
      exact List.mem_map_of_mem member
    obtain ⟨before, among, same⟩ := List.mem_map.mp unmarked
    rw [← Column.wellFormed_unmarked, ← same]
    exact Column.wellFormed_unmarked.mpr (form.columns before among)

end Marking

/-- Every table is still there, under its key and with at least its columns. -/
def IsCovered (tables after : List Table) : Prop :=
  ∀ table ∈ tables, ∃ other ∈ after, other.key = table.key ∧
    ∀ name, table.hasColumn name = true → other.hasColumn name = true

section Covered

variable {tables after more : List Table} {endpoint : Endpoint}

theorem Endpoint.IsDeclared.mono (declared : endpoint.IsDeclared tables)
    (covered : IsCovered tables after) : endpoint.IsDeclared after := by
  obtain ⟨table, member, name, schema, column⟩ := declared
  obtain ⟨other, kept, key, columns⟩ := covered table member
  obtain ⟨otherSchema, otherName⟩ := TableKey.mk.inj key
  refine ⟨other, kept, otherName.trans name, ?_, columns _ column⟩
  exact fun written given => otherSchema.trans (schema written given)

theorem Endpoint.IsExact.mono (exact : endpoint.IsExact tables)
    (covered : IsCovered tables after) : endpoint.IsExact after := by
  obtain ⟨table, member, key, column⟩ := exact
  obtain ⟨other, kept, otherKey, columns⟩ := covered table member
  exact ⟨other, kept, otherKey.trans key, columns _ column⟩

theorem isCovered_append : IsCovered tables (tables ++ more) :=
  fun table member => ⟨table, List.mem_append_left more member, rfl, fun _ found => found⟩

theorem IsMarking.isCovered {change : Table → List Column} (marking : IsMarking change) :
    IsCovered tables (tables.map (·.withColumns change)) :=
  fun table member => ⟨table.withColumns change, List.mem_map_of_mem member, rfl,
    fun name found => (marking.hasColumn table name).trans found⟩

theorem isCovered_concat {table other : Table} (key : other.key = table.key)
    (columns : table.columns.map Column.name ⊆ other.columns.map Column.name) :
    IsCovered (tables ++ [table]) (tables ++ [other]) := by
  intro member among
  rcases List.mem_append.mp among with before | last
  · exact ⟨member, List.mem_append_left _ before, rfl, fun _ found => found⟩
  · rw [List.mem_singleton.mp last]
    refine ⟨other, by simp, key, fun name found => ?_⟩
    exact Table.hasColumn_iff.mpr (columns (Table.hasColumn_iff.mp found))

end Covered

end TableScript
