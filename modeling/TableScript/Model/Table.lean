import TableScript.Entries

namespace TableScript

/-- What a setting says that a script carries without its being understood. -/
inductive PropertyValue where
  | flag (present : Bool)
  | text (value : String)
deriving Repr, DecidableEq

/-- The keys in the order of their first appearance, each with its last value. -/
abbrev Properties := List (String × PropertyValue)

/-- A text that is there and not empty. -/
def isGiven : Option String → Bool
  | some text => text ≠ ""
  | none => false

structure Column where
  id : String
  name : String
  type : String
  primaryKey : Bool := false
  notNull : Bool := false
  unique : Bool := false
  /-- The column is the source of a reference. -/
  foreignKey : Bool := false
  default : Option String := none
  note : Option String := none
  properties : Properties := []
  quotedName : Bool := false
deriving Repr, DecidableEq

def Column.hasSettings (column : Column) : Bool :=
  column.primaryKey || column.notNull || column.unique || column.default.isSome ||
    isGiven column.note || !column.properties.isEmpty

/-- A name with the schema it belongs to in front. An empty schema is not written. -/
def qualify (schema : Option String) (name : String) : String :=
  match schema with
  | some schemaName => if schemaName = "" then name else schemaName ++ "." ++ name
  | none => name

/-- What tells the tables of a script apart. The empty schema is not the same as none. -/
structure TableKey where
  schema : Option String
  name : String
deriving Repr, DecidableEq

structure Table where
  id : String
  name : String
  schema : Option String := none
  columns : List Column := []
  note : Option String := none
  properties : Properties := []
deriving Repr, DecidableEq

namespace Table

def key (table : Table) : TableKey :=
  ⟨table.schema, table.name⟩

def qualifiedName (table : Table) : String :=
  qualify table.schema table.name

def column? (table : Table) (name : String) : Option Column :=
  table.columns.find? (·.name == name)

def hasColumn (table : Table) (name : String) : Bool :=
  (table.column? name).isSome

end Table

def modifyFirst {α : Type} (fits : α → Bool) (change : α → α) : List α → List α
  | [] => []
  | x :: rest => if fits x then change x :: rest else x :: modifyFirst fits change rest

theorem map_modifyFirst {α β : Type} (fits : α → Bool) (change : α → α) (view : α → β)
    (kept : ∀ x, fits x = true → view (change x) = view x) (list : List α) :
    (modifyFirst fits change list).map view = list.map view := by
  induction list with
  | nil => rfl
  | cons x rest ih =>
      rw [modifyFirst]
      split
      · rename_i fitting
        rw [List.map_cons, List.map_cons, kept x fitting]
      · rw [List.map_cons, List.map_cons, ih]

end TableScript
