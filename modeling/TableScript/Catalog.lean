import TableScript.Model.Table

/-! The tables declared so far, in the order of their declaration. No two have the same schema and
name. A name written without a schema means the table without one if there is such a table, and
otherwise the first table of that name. -/

namespace TableScript

structure Catalog where
  tables : List Table
  distinct : (tables.map Table.key).Nodup := by decide
deriving Repr, DecidableEq

/-- Why a table is refused: one with its schema and name is there. -/
structure AlreadyDeclared where
  table : Table
deriving Repr, DecidableEq

def AlreadyDeclared.message (refusal : AlreadyDeclared) : String :=
  "Table '" ++ refusal.table.qualifiedName ++ "' is already registered"

namespace Catalog

def empty : Catalog where
  tables := []

def size (catalog : Catalog) : Nat :=
  catalog.tables.length

def get? (catalog : Catalog) (key : TableKey) : Option Table :=
  catalog.tables.find? (·.key == key)

def contains (catalog : Catalog) (key : TableKey) : Bool :=
  catalog.tables.any (·.key == key)

theorem contains_iff {catalog : Catalog} {key : TableKey} :
    catalog.contains key = true ↔ key ∈ catalog.tables.map Table.key := by
  simp [contains]

/-- Declares a table, unless one with its schema and name is there. -/
def declare (catalog : Catalog) (table : Table) : Except AlreadyDeclared Catalog :=
  if absent : catalog.contains table.key = false then
    .ok {
      tables := catalog.tables ++ [table]
      distinct := by
        rw [List.map_append, List.nodup_append]
        refine ⟨catalog.distinct, by simp, ?_⟩
        intro key member other single equal
        have newKey : other = table.key := by simpa using single
        subst equal
        subst newKey
        rw [contains_iff.mpr member] at absent
        cases absent }
  else .error ⟨table⟩

theorem tables_of_declare {catalog after : Catalog} {table : Table}
    (declared : catalog.declare table = .ok after) : after.tables = catalog.tables ++ [table] := by
  unfold declare at declared
  split at declared
  · cases declared
    rfl
  · cases declared

/-- The table that a name written in a reference means. -/
def find? (catalog : Catalog) (name : String) (schema : Option String) : Option Table :=
  match schema with
  | some _ => catalog.get? ⟨schema, name⟩
  | none => catalog.get? ⟨none, name⟩ <|> catalog.tables.find? (·.name == name)

def findColumn? (catalog : Catalog) (table column : String) (schema : Option String) :
    Option Column :=
  (catalog.find? table schema).bind (·.column? column)

def mapColumns (catalog : Catalog) (change : Table → List Column) : Catalog where
  tables := catalog.tables.map fun table => { table with columns := change table }
  distinct := by
    have kept : (catalog.tables.map fun table => { table with columns := change table }).map
        Table.key = catalog.tables.map Table.key := by
      rw [List.map_map]
      rfl
    rw [kept]
    exact catalog.distinct

end Catalog

end TableScript
