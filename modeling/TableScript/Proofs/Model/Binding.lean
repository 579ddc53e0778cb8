import TableScript.Proofs.Model.Lookup

/-! What a name means after more tables were declared. It keeps its table, except that a name which is
written without a schema, and means a table that has one, goes over to the table without a schema as soon
as that is declared. -/

namespace TableScript

/-- The name is written without a schema, the table that it means has one, and among the later tables is one
of that name without a schema. -/
def Table.IsDisplaced (table : Table) (name : String) (schema : Option String) (later : List Table) :
    Prop :=
  schema = none ∧ table.schema ≠ none ∧ ⟨none, name⟩ ∈ later.map Table.key

instance (table : Table) (name : String) (schema : Option String) (later : List Table) :
    Decidable (table.IsDisplaced name schema later) :=
  inferInstanceAs (Decidable (_ ∧ _ ∧ _))

/-- The table, whatever references start at its columns. -/
def Table.unmarked (table : Table) : Table :=
  table.withColumns fun table => table.columns.map Column.unmarked

theorem Table.isDisplaced_unmarked {table : Table} {name : String} {schema : Option String}
    {later : List Table} :
    table.unmarked.IsDisplaced name schema (later.map unmarked) ↔ table.IsDisplaced name schema later := by
  have keys : (later.map unmarked).map key = later.map key := by
    rw [List.map_map]
    rfl
  unfold IsDisplaced
  rw [keys]
  rfl

theorem IsMarking.unmarked_withColumns {change : Table → List Column} (marking : IsMarking change)
    (table : Table) : (table.withColumns change).unmarked = table.unmarked := by
  exact congrArg (fun columns => { table with columns }) (marking table)

theorem IsMarking.map_unmarked {change : Table → List Column} (marking : IsMarking change)
    (tables : List Table) :
    (tables.map (·.withColumns change)).map Table.unmarked = tables.map Table.unmarked := by
  rw [List.map_map]
  exact List.map_congr_left fun table _ => marking.unmarked_withColumns table

namespace Catalog

variable {catalog before after : Catalog} {table : Table} {later : List Table} {name : String}
  {schema : Option String}

/-- Declares tables one after the other, as long as none is refused. -/
def declareAll (catalog : Catalog) (tables : List Table) : Except AlreadyDeclared Catalog :=
  tables.foldlM declare catalog

theorem tables_of_declareAll (declared : before.declareAll later = .ok after) :
    after.tables = before.tables ++ later := by
  induction later generalizing before with
  | nil =>
      cases declared
      exact (List.append_nil _).symm
  | cons table later ih =>
      rw [declareAll, List.foldlM_cons] at declared
      cases first : before.declare table with
      | error refusal =>
          rw [first] at declared
          cases declared
      | ok next =>
          rw [first] at declared
          have rest : after.tables = next.tables ++ later := ih declared
          rw [rest, tables_of_declare first, List.append_assoc, List.singleton_append]

theorem get?_append {key : TableKey} (grown : after.tables = before.tables ++ later) :
    after.get? key = (before.get? key).or (later.find? (·.key == key)) := by
  rw [get?, grown, List.find?_append, get?]

/-- The table of a name without a schema that another table was found for has a schema itself. -/
theorem schema_ne_none_of_find? (bare : catalog.get? ⟨none, name⟩ = none)
    (found : catalog.find? name none = some table) : table.schema ≠ none := by
  obtain ⟨member, named, _⟩ := mem_and_named_of_find? found
  intro unqualified
  have key : table.key = ⟨none, name⟩ := by rw [Table.key, unqualified, named]
  have there := get?_isSome_iff.mpr (List.mem_map.mpr ⟨table, member, key⟩)
  rw [bare] at there
  cases there

theorem find?_of_not_isDisplaced (grown : after.tables = before.tables ++ later)
    (found : before.find? name schema = some table) (stays : ¬table.IsDisplaced name schema later) :
    after.find? name schema = some table := by
  cases schema with
  | some qualifier =>
      have exact : before.get? ⟨some qualifier, name⟩ = some table := found
      rw [find?, get?_append grown, exact, Option.some_or]
  | none =>
      rw [find?, get?_append grown]
      cases bare : before.get? ⟨none, name⟩ with
      | some own =>
          rw [find?, bare] at found
          exact found
      | none =>
          have qualified := schema_ne_none_of_find? bare found
          have absent : later.find? (·.key == ⟨none, name⟩) = none := by
            rw [List.find?_eq_none]
            intro other member same
            exact stays ⟨rfl, qualified, List.mem_map.mpr ⟨other, member, beq_iff_eq.mp same⟩⟩
          have first : before.tables.find? (·.name == name) = some table := by
            rwa [find?, bare] at found
          rw [absent, grown, List.find?_append, first]
          rfl

theorem find?_of_isDisplaced (grown : after.tables = before.tables ++ later)
    (found : before.find? name schema = some table) (displaced : table.IsDisplaced name schema later) :
    ∃ last ∈ later, last.key = ⟨none, name⟩ ∧ after.find? name schema = some last := by
  obtain ⟨rfl, qualified, declared⟩ := displaced
  have bare : before.get? ⟨none, name⟩ = none := by
    cases own : before.get? ⟨none, name⟩ with
    | none => rfl
    | some other =>
        rw [find?, own] at found
        cases found
        exact absurd (TableKey.mk.inj (mem_and_key_eq_of_get? own).2).1 qualified
  obtain ⟨other, member, key⟩ := List.mem_map.mp declared
  have there : (later.find? (·.key == ⟨none, name⟩)).isSome = true :=
    List.find?_isSome.mpr ⟨other, member, beq_iff_eq.mpr key⟩
  obtain ⟨last, captor⟩ := Option.isSome_iff_exists.mp there
  refine ⟨last, List.mem_of_find?_eq_some captor, ?_, ?_⟩
  · exact beq_iff_eq.mp (List.find?_some (p := fun table : Table => table.key == ⟨none, name⟩) captor)
  · rw [find?, get?_append grown, bare, Option.none_or, captor]
    rfl

/-- A name keeps its table exactly if that is not displaced. -/
theorem find?_eq_some_iff (grown : after.tables = before.tables ++ later)
    (found : before.find? name schema = some table) :
    after.find? name schema = some table ↔ ¬table.IsDisplaced name schema later := by
  refine ⟨fun kept displaced => ?_, find?_of_not_isDisplaced grown found⟩
  obtain ⟨last, _, key, other⟩ := find?_of_isDisplaced grown found displaced
  rw [kept] at other
  cases other
  exact displaced.2.1 (TableKey.mk.inj key).1

theorem find?_mapColumns (catalog : Catalog) (change : Table → List Column) (name : String)
    (schema : Option String) :
    (catalog.mapColumns change).find? name schema =
      (catalog.find? name schema).map (·.withColumns change) := by
  have exact : ∀ key, (catalog.mapColumns change).get? key =
      (catalog.get? key).map (·.withColumns change) :=
    fun _ => List.find?_map
  cases schema with
  | some qualifier => exact exact ⟨some qualifier, name⟩
  | none =>
      have named : (catalog.mapColumns change).tables.find? (·.name == name) =
          (catalog.tables.find? (·.name == name)).map (·.withColumns change) :=
        List.find?_map
      rw [find?, find?, exact, named]
      cases catalog.get? ⟨none, name⟩ <;> rfl

end Catalog

end TableScript
