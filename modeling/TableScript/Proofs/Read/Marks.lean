import TableScript.Proofs.Read.Step

/-! What foreign key marks say while a script is read. Some reference starts at every marked column, every
reference starts at some marked column, and the column that declared an inline reference is marked for
it. No step clears a mark. -/

namespace TableScript

/-- The endpoint may mean the column: the names are those of the table and the column, and so is the
schema where one is written. -/
structure Endpoint.Means (endpoint : Endpoint) (table : Table) (column : Column) : Prop where
  tableNamed : endpoint.table = table.name
  columnNamed : endpoint.column = column.name
  inSchema : endpoint.schema = none ∨ endpoint.schema = table.schema

theorem Endpoint.Means.congr {endpoint : Endpoint} {table other : Table} {column : Column}
    (means : endpoint.Means table column) (key : other.key = table.key) :
    endpoint.Means other column := by
  obtain ⟨schema, name⟩ := TableKey.mk.inj key
  exact ⟨by rw [means.tableNamed, name], means.columnNamed, by rw [schema]; exact means.inSchema⟩

theorem InlineUse.IsDeclaredBy.means {use : InlineUse} {table : Table} {column : Column}
    (declared : use.IsDeclaredBy table column) : use.reference.source.Means table column := by
  rw [declared.source]
  exact ⟨rfl, rfl, .inr rfl⟩

section ModifyFirst

variable {α : Type} {fits : α → Bool} {change : α → α} {list : List α} {x : α}

theorem mem_or_exists_of_mem_modifyFirst (member : x ∈ modifyFirst fits change list) :
    x ∈ list ∨ ∃ y ∈ list, fits y = true ∧ x = change y := by
  induction list with
  | nil => cases member
  | cons y rest ih =>
      rw [modifyFirst] at member
      split at member
      · rename_i fit
        rcases List.mem_cons.mp member with same | behind
        · exact .inr ⟨y, List.mem_cons_self, fit, same⟩
        · exact .inl (List.mem_cons_of_mem y behind)
      · rcases List.mem_cons.mp member with same | behind
        · exact .inl (by rw [same]; exact List.mem_cons_self)
        · rcases ih behind with before | ⟨z, among, fit, same⟩
          · exact .inl (List.mem_cons_of_mem y before)
          · exact .inr ⟨z, List.mem_cons_of_mem y among, fit, same⟩

theorem mem_modifyFirst (member : x ∈ list) (kept : change x = x) :
    x ∈ modifyFirst fits change list := by
  induction list with
  | nil => cases member
  | cons y rest ih =>
      rw [modifyFirst]
      rcases List.mem_cons.mp member with same | behind
      · subst same
        split
        · rw [kept]
          exact List.mem_cons_self
        · exact List.mem_cons_self
      · split
        · exact List.mem_cons_of_mem _ behind
        · exact List.mem_cons_of_mem y (ih behind)

theorem exists_mem_modifyFirst (fits : α → Bool) (change : α → α) (member : x ∈ list)
    (fit : fits x = true) :
    ∃ y ∈ list, fits y = true ∧ change y ∈ modifyFirst fits change list := by
  induction list with
  | nil => cases member
  | cons y rest ih =>
      rw [modifyFirst]
      by_cases first : fits y = true
      · rw [if_pos first]
        exact ⟨y, List.mem_cons_self, first, List.mem_cons_self⟩
      · rw [if_neg first]
        rcases List.mem_cons.mp member with same | behind
        · rw [← same] at first
          exact absurd fit first
        · obtain ⟨z, among, fitting, changed⟩ := ih behind
          exact ⟨z, List.mem_cons_of_mem y among, fitting, List.mem_cons_of_mem y changed⟩

end ModifyFirst

namespace Catalog

variable {catalog : Catalog} {key : TableKey} {name : String} {table : Table} {column : Column}

theorem exists_or_eq_of_mem_markForeignKey (member : table ∈ (catalog.markForeignKey key name).tables)
    (inside : column ∈ table.columns) :
    (∃ before ∈ catalog.tables, table.key = before.key ∧ column ∈ before.columns) ∨
      table.key = key ∧ column.name = name := by
  obtain ⟨before, among, rfl⟩ := List.mem_map.mp member
  dsimp only at inside
  split at inside
  · rename_i same
    rcases mem_or_exists_of_mem_modifyFirst inside with old | ⟨other, _, fit, rfl⟩
    · exact .inl ⟨before, among, rfl, old⟩
    · exact .inr ⟨same, beq_iff_eq.mp fit⟩
  · exact .inl ⟨before, among, rfl, inside⟩

theorem mem_markForeignKey (member : table ∈ catalog.tables) (inside : column ∈ table.columns)
    (marked : column.foreignKey = true) :
    ∃ after ∈ (catalog.markForeignKey key name).tables,
      after.key = table.key ∧ column ∈ after.columns := by
  refine ⟨_, List.mem_map_of_mem member, rfl, ?_⟩
  dsimp only
  split
  · exact mem_modifyFirst inside (by rw [← marked])
  · exact inside

theorem exists_marked (member : table ∈ catalog.tables) (found : table.hasColumn name = true) :
    ∃ after ∈ (catalog.markForeignKey table.key name).tables, after.key = table.key ∧
      ∃ column ∈ after.columns, column.name = name ∧ column.foreignKey = true := by
  obtain ⟨column, inside, named⟩ := List.mem_map.mp (Table.hasColumn_iff.mp found)
  obtain ⟨first, _, fit, changed⟩ := exists_mem_modifyFirst (·.name == name)
    (fun column => { column with foreignKey := true }) inside (beq_iff_eq.mpr named)
  refine ⟨_, List.mem_map_of_mem member, rfl, { first with foreignKey := true }, ?_,
    beq_iff_eq.mp fit, rfl⟩
  dsimp only
  rw [if_pos rfl]
  exact changed

end Catalog

namespace ReadState

/-- Marks and references go together. -/
structure Marked (state : ReadState) : Prop where
  started : ∀ table ∈ state.catalog.tables, ∀ column ∈ table.columns, column.foreignKey = true →
    ∃ reference ∈ state.references, reference.source.Means table column
  marked : ∀ reference ∈ state.references, ∃ table ∈ state.catalog.tables,
    ∃ column ∈ table.columns, column.foreignKey = true ∧ reference.source.Means table column
  declared : ∀ use ∈ state.inlineUses, ∃ table ∈ state.catalog.tables,
    ∃ column ∈ table.columns, use.IsDeclaredBy table column

theorem Marked.initial : Marked {} := by
  constructor <;> intro _ member <;> cases member

variable {before after : ReadState}

theorem Marked.withTable (marked : before.Marked) {table : Table} {uses : List InlineUse}
    (tables : after.catalog.tables = before.catalog.tables ++ [table])
    (references : after.references = before.references ++ uses.map InlineUse.reference)
    (inlineUses : after.inlineUses = before.inlineUses ++ uses)
    (declared : ∀ use ∈ uses, ∃ column ∈ table.columns, use.IsDeclaredBy table column)
    (covered : ∀ column ∈ table.columns, column.foreignKey = true →
      ∃ use ∈ uses, use.IsDeclaredBy table column) : after.Marked where
  started := by
    intro other member column inside mark
    rw [tables] at member
    rw [references]
    rcases List.mem_append.mp member with old | new
    · obtain ⟨reference, among, means⟩ := marked.started other old column inside mark
      exact ⟨reference, List.mem_append_left _ among, means⟩
    · rw [List.mem_singleton.mp new] at inside ⊢
      obtain ⟨use, among, declaredBy⟩ := covered column inside mark
      exact ⟨use.reference, List.mem_append_right _ (List.mem_map_of_mem among), declaredBy.means⟩
  marked := by
    intro reference member
    rw [references] at member
    rw [tables]
    rcases List.mem_append.mp member with old | new
    · obtain ⟨other, among, column, inside, mark, means⟩ := marked.marked reference old
      exact ⟨other, List.mem_append_left _ among, column, inside, mark, means⟩
    · obtain ⟨use, among, rfl⟩ := List.mem_map.mp new
      obtain ⟨column, inside, declaredBy⟩ := declared use among
      exact ⟨table, by simp, column, inside, declaredBy.marked, declaredBy.means⟩
  declared := by
    intro use member
    rw [inlineUses] at member
    rw [tables]
    rcases List.mem_append.mp member with old | new
    · obtain ⟨other, among, column, inside, declaredBy⟩ := marked.declared use old
      exact ⟨other, List.mem_append_left _ among, column, inside, declaredBy⟩
    · obtain ⟨column, inside, declaredBy⟩ := declared use new
      exact ⟨table, by simp, column, inside, declaredBy⟩

theorem Marked.withReference (marked : before.Marked) {reference : Reference} {source : Table}
    (found : before.catalog.find? reference.source.table reference.source.schema = some source)
    (column : source.hasColumn reference.source.column = true)
    (catalog : after.catalog =
      before.catalog.markForeignKey source.key reference.source.column)
    (references : after.references = before.references ++ [reference])
    (inlineUses : after.inlineUses = before.inlineUses) : after.Marked := by
  obtain ⟨member, name, schema⟩ := Catalog.mem_and_named_of_find? found
  have means : ∀ table : Table, table.key = source.key → ∀ column : Column,
      column.name = reference.source.column → reference.source.Means table column := by
    intro table key column named
    obtain ⟨sameSchema, sameName⟩ := TableKey.mk.inj key
    refine ⟨by rw [sameName, name], named.symm, ?_⟩
    cases written : reference.source.schema with
    | none => exact .inl rfl
    | some text => exact .inr (by rw [sameSchema, schema text written])
  constructor
  · intro table among column inside mark
    rw [catalog] at among
    rw [references]
    rcases Catalog.exists_or_eq_of_mem_markForeignKey among inside with ⟨old, there, key, kept⟩ | ⟨key, named⟩
    · obtain ⟨other, earlier, meant⟩ := marked.started old there column kept mark
      exact ⟨other, List.mem_append_left _ earlier, meant.congr key⟩
    · exact ⟨reference, by simp, means table key column named⟩
  · intro other among
    rw [references] at among
    rw [catalog]
    rcases List.mem_append.mp among with old | new
    · obtain ⟨table, there, column, inside, mark, meant⟩ := marked.marked other old
      obtain ⟨kept, inAfter, key, columnKept⟩ := Catalog.mem_markForeignKey there inside mark
      exact ⟨kept, inAfter, column, columnKept, mark, meant.congr key⟩
    · rw [List.mem_singleton.mp new]
      obtain ⟨kept, inAfter, key, marks, inside, named, mark⟩ :=
        Catalog.exists_marked member column
      exact ⟨kept, inAfter, marks, inside, mark, means kept key marks named⟩
  · intro use among
    rw [inlineUses] at among
    rw [catalog]
    obtain ⟨table, there, column, inside, declaredBy⟩ := marked.declared use among
    obtain ⟨kept, inAfter, key, columnKept⟩ :=
      Catalog.mem_markForeignKey there inside declaredBy.marked
    exact ⟨kept, inAfter, column, columnKept, declaredBy.congr key⟩

theorem Marked.advance (marked : before.Marked) (advances : Advances before after) :
    after.Marked := by
  cases advances with
  | nothing catalog references inlineUses =>
      refine ⟨?_, ?_, ?_⟩
      · rw [catalog, references]
        exact marked.started
      · rw [catalog, references]
        exact marked.marked
      · rw [catalog, inlineUses]
        exact marked.declared
  | table table uses tables references inlineUses declared covered =>
      exact marked.withTable tables references inlineUses declared covered
  | reference reference source target _ found column _ _ catalog references inlineUses =>
      exact marked.withReference found column catalog references inlineUses

theorem Reachable.marked (reachable : before.Reachable) : before.Marked := by
  induction reachable with
  | initial => exact Marked.initial
  | advance _ advances ih => exact ih.advance advances

end ReadState

end TableScript
