import Mathlib.Data.List.Nodup
import TableScript.Model.Edit
import TableScript.Proofs.Read.Reference

/-! Two ways to find the table that a name means. While a script is read, a name without a schema means
the table without one before all others; in a finished schema it means the first table of that name. The
two differ where a table of the name that belongs to a schema stands before the one that belongs to
none, and nowhere else. -/

namespace TableScript

/-- A table of the name that belongs to a schema stands before the one that belongs to none. -/
def IsShadowed (name : String) (keys : List TableKey) : Prop :=
  ∃ key ∈ keys, key.name = name ∧ key.schema ≠ none ∧ [key, ⟨none, name⟩].Sublist keys

instance (name : String) (keys : List TableKey) : Decidable (IsShadowed name keys) :=
  inferInstanceAs (Decidable (∃ key ∈ keys, _))

namespace IsShadowed

variable {name : String} {key : TableKey} {keys more : List TableKey}

theorem mem (shadowed : IsShadowed name keys) : ⟨none, name⟩ ∈ keys := by
  obtain ⟨key, _, _, _, order⟩ := shadowed
  exact order.subset (by simp)

theorem append (shadowed : IsShadowed name keys) : IsShadowed name (keys ++ more) := by
  obtain ⟨key, member, named, qualified, order⟩ := shadowed
  exact ⟨key, List.mem_append_left more member, named, qualified,
    order.trans (List.sublist_append_left keys more)⟩

theorem cons_iff_of_ne (other : key.name ≠ name) :
    IsShadowed name (key :: keys) ↔ IsShadowed name keys := by
  constructor
  · intro shadowed
    obtain ⟨first, _, named, qualified, order⟩ := shadowed
    rcases List.sublist_cons_iff.mp order with behind | ⟨_, same, _⟩
    · exact ⟨first, behind.subset List.mem_cons_self, named, qualified, behind⟩
    · obtain ⟨rfl, _⟩ := List.cons.inj same
      exact absurd named other
  · intro shadowed
    obtain ⟨first, member, named, qualified, order⟩ := shadowed
    exact ⟨first, List.mem_cons_of_mem key member, named, qualified, order.cons key⟩

theorem not_cons_self (absent : ⟨none, name⟩ ∉ keys) : ¬IsShadowed name (⟨none, name⟩ :: keys) := by
  intro shadowed
  obtain ⟨first, _, _, qualified, order⟩ := shadowed
  rcases List.sublist_cons_iff.mp order with behind | ⟨_, same, _⟩
  · exact absent (behind.subset (by simp))
  · obtain ⟨rfl, _⟩ := List.cons.inj same
    exact qualified rfl

end IsShadowed

/-- The first table of a name is the one without a schema, unless a table with one stands before it. -/
theorem find?_name_eq_iff {tables : List Table} {name : String}
    (distinct : (tables.map Table.key).Nodup) (bare : ⟨none, name⟩ ∈ tables.map Table.key) :
    tables.find? (·.name == name) = tables.find? (·.key == ⟨none, name⟩) ↔
      ¬IsShadowed name (tables.map Table.key) := by
  induction tables with
  | nil => cases bare
  | cons table tables ih =>
      rw [List.map_cons, List.nodup_cons] at distinct
      rw [List.map_cons] at bare ⊢
      rw [List.find?_cons, List.find?_cons]
      by_cases own : table.key = ⟨none, name⟩
      · have named : table.name = name := (TableKey.mk.inj own).2
        rw [own] at distinct ⊢
        simp [named, IsShadowed.not_cons_self distinct.1]
      · have behind : ⟨none, name⟩ ∈ tables.map Table.key := by
          rcases List.mem_cons.mp bare with same | behind
          · exact absurd same.symm own
          · exact behind
        have other : (table.key == ⟨none, name⟩) = false := beq_eq_false_iff_ne.mpr own
        rw [other]
        by_cases named : table.name = name
        · have qualified : table.key.schema ≠ none := by
            intro unqualified
            exact own (by rw [← unqualified, ← named]; rfl)
          have shadowed : IsShadowed name (table.key :: tables.map Table.key) :=
            ⟨table.key, List.mem_cons_self, named, qualified,
              (List.singleton_sublist.mpr behind).cons_cons table.key⟩
          have differ : some table ≠ tables.find? (·.key == ⟨none, name⟩) := by
            intro same
            have key := List.find?_some same.symm
            exact own (beq_iff_eq.mp key)
          simp [named, shadowed, differ]
        · have unnamed : (table.name == name) = false := beq_eq_false_iff_ne.mpr named
          rw [unnamed, IsShadowed.cons_iff_of_ne (show table.key.name ≠ name from named),
            ← ih distinct.2 behind]

theorem Schema.table?_some (schema : Schema) (name qualifier : String) :
    schema.table? name (some qualifier) = schema.tables.find? (·.key == ⟨some qualifier, name⟩) := by
  have fits : (fun table : Table =>
      table.name == name && ((some qualifier).isNone || table.schema == some qualifier)) =
      fun table => table.key == ⟨some qualifier, name⟩ := by
    funext table
    rw [Bool.eq_iff_iff]
    simp [Table.key, and_comm]
  rw [table?, fits]

theorem Schema.table?_none (schema : Schema) (name : String) :
    schema.table? name none = schema.tables.find? (·.name == name) := by
  simp [table?]

theorem Catalog.get?_isSome_iff {catalog : Catalog} {key : TableKey} :
    (catalog.get? key).isSome = true ↔ key ∈ catalog.tables.map Table.key := by
  simp [get?, List.find?_isSome]

/-- The table of an exact endpoint is found for it. -/
theorem Catalog.find?_of_isExact {catalog : Catalog} {endpoint : Endpoint}
    (exact : endpoint.IsExact catalog.tables) :
    ∃ table, catalog.find? endpoint.table endpoint.schema = some table ∧
      table.key = ⟨endpoint.schema, endpoint.table⟩ ∧ table.hasColumn endpoint.column = true := by
  obtain ⟨table, member, key, column⟩ := exact
  have found : (catalog.get? ⟨endpoint.schema, endpoint.table⟩).isSome = true :=
    get?_isSome_iff.mpr (List.mem_map.mpr ⟨table, member, key⟩)
  obtain ⟨other, got⟩ := Option.isSome_iff_exists.mp found
  obtain ⟨otherMember, otherKey⟩ := mem_and_key_eq_of_get? got
  have same : other = table :=
    List.inj_on_of_nodup_map catalog.distinct otherMember member (otherKey.trans key.symm)
  subst same
  refine ⟨other, ?_, key, column⟩
  unfold find?
  cases written : endpoint.schema with
  | some qualifier => rwa [written] at got
  | none =>
      rw [written] at got
      rw [got]
      rfl

/-- The endpoint is written without a schema, and its name is shadowed. -/
def Endpoint.IsShadowed (endpoint : Endpoint) (tables : List Table) : Prop :=
  endpoint.schema = none ∧ TableScript.IsShadowed endpoint.table (tables.map Table.key)

instance (endpoint : Endpoint) (tables : List Table) : Decidable (endpoint.IsShadowed tables) :=
  inferInstanceAs (Decidable (_ ∧ _))

/-- A schema and a catalog with the same tables find the same table for an endpoint, unless it is
shadowed. -/
theorem Schema.table?_eq_find?_iff {schema : Schema} {catalog : Catalog}
    (same : schema.tables = catalog.tables) (endpoint : Endpoint) :
    schema.table? endpoint.table endpoint.schema = catalog.find? endpoint.table endpoint.schema ↔
      ¬endpoint.IsShadowed schema.tables := by
  unfold Endpoint.IsShadowed Catalog.find?
  cases endpoint.schema with
  | some qualifier => simp [table?_some, Catalog.get?, same]
  | none =>
      rw [table?_none, same]
      cases got : catalog.get? ⟨none, endpoint.table⟩ with
      | some table =>
          have bare : ⟨none, endpoint.table⟩ ∈ catalog.tables.map Table.key := by
            rw [← Catalog.get?_isSome_iff, got, Option.isSome_some]
          have first := find?_name_eq_iff catalog.distinct bare
          rw [← Catalog.get?, got] at first
          simpa using first
      | none =>
          have absent : ⟨none, endpoint.table⟩ ∉ catalog.tables.map Table.key := by
            rw [← Catalog.get?_isSome_iff, got]
            exact Bool.false_ne_true
          simp [show ¬TableScript.IsShadowed endpoint.table (catalog.tables.map Table.key) from
            fun shadowed => absent shadowed.mem]

/-- The endpoint has its column in the first table that it names, or it is shadowed. Whatever is declared
later, that stays so. -/
def Endpoint.IsSettled (endpoint : Endpoint) (tables : List Table) : Prop :=
  endpoint.IsShadowed tables ∨
    ∃ table, tables.find? (Schema.names endpoint.table endpoint.schema) = some table ∧
      table.hasColumn endpoint.column = true

namespace Endpoint

variable {endpoint : Endpoint} {tables after : List Table}

theorem isSettled_of_find? {catalog : Catalog} {table : Table}
    (found : catalog.find? endpoint.table endpoint.schema = some table)
    (column : table.hasColumn endpoint.column = true) : endpoint.IsSettled catalog.tables := by
  by_cases shadowed : endpoint.IsShadowed catalog.tables
  · exact .inl shadowed
  · -- A schema with these tables finds what the catalog finds.
    let schema : Schema := { tables := catalog.tables, metadata := .fresh "" }
    have agree : schema.table? endpoint.table endpoint.schema =
        catalog.find? endpoint.table endpoint.schema :=
      (Schema.table?_eq_find?_iff rfl endpoint).mpr shadowed
    exact .inr ⟨table, agree.trans found, column⟩

theorem IsSettled.mono (settled : endpoint.IsSettled tables)
    (grown : tables.map Table.signature <+: after.map Table.signature) : endpoint.IsSettled after := by
  obtain ⟨more, signatures⟩ := grown
  rcases settled with ⟨bare, shadowed⟩ | ⟨table, found, column⟩
  · have keys : after.map Table.key = tables.map Table.key ++ more.map Prod.fst := by
      calc after.map Table.key
          = (after.map Table.signature).map Prod.fst := by rw [List.map_map]; rfl
        _ = (tables.map Table.signature ++ more).map Prod.fst := by rw [signatures]
        _ = tables.map Table.key ++ more.map Prod.fst := by rw [List.map_append, List.map_map]; rfl
    exact .inl ⟨bare, by rw [keys]; exact shadowed.append⟩
  · -- What an endpoint names is told by the signature.
    let fits (signature : TableKey × List String) : Bool :=
      signature.1.name == endpoint.table &&
        (endpoint.schema.isNone || signature.1.schema == endpoint.schema)
    have mapped : ∀ list : List Table, (list.map Table.signature).find? fits =
        (list.find? (Schema.names endpoint.table endpoint.schema)).map Table.signature :=
      fun _ => List.find?_map
    have first : (after.find? (Schema.names endpoint.table endpoint.schema)).map Table.signature =
        some table.signature := by
      rw [← mapped, ← signatures, List.find?_append, mapped, found]
      rfl
    obtain ⟨other, otherFound, same⟩ := Option.map_eq_some_iff.mp first
    exact .inr ⟨other, otherFound, (Table.hasColumn_congr same endpoint.column).trans column⟩

end Endpoint

end TableScript
