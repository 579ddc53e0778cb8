import TableScript.Proofs.Ddl.Direction
import TableScript.Proofs.Ddl.Export
import TableScript.Proofs.Ddl.Token
import TableScript.Proofs.Read.Legible.Script
import TableScript.Proofs.Read.WellFormed

/-! The constraints of the foreign keys, read back from the statements that add them. A reference without a
name gives its constraint a name that tells the table and the column which hold the key and nothing else. So
two of them clash just if they hold their keys in one column. -/

namespace TableScript

namespace Ddl

open Text Lexeme

variable {schema : Schema} {reference : Reference} {table owner target : Table} {holder referred : Endpoint}
  {behind : List Char}

/-- Reads what a table is called: its name, or that of its schema, a dot and its name. -/
def tableKey? (source : List Char) : Option (TableKey × List Char) :=
  (name? source).bind fun (first, behind) =>
    match after? ['.'] behind with
    | some rest =>
        (name? rest).map fun (second, behind) =>
          (⟨some (String.ofList first), String.ofList second⟩, behind)
    | none => some (⟨none, String.ofList first⟩, behind)

/-- Reads from a statement the table that it alters and the name of the constraint that it adds. -/
def added? (statement : String) : Option (TableKey × String) :=
  (after? "ALTER TABLE ".toList statement.toList).bind fun behind =>
    (tableKey? behind).bind fun (table, behind) =>
      (after? " ADD CONSTRAINT ".toList behind).bind fun behind =>
        (name? behind).map fun (constraint, _) => (table, String.ofList constraint)

/-- The foreign keys of the references that have no name. -/
def unnamedKeys (schema : Schema) : List String :=
  (schema.references.filter fun reference => !isGiven reference.name).filterMap (foreignKey? schema)

/-- The table and the column that hold the foreign key of a reference, if it has one. -/
def keyColumn? (schema : Schema) (reference : Reference) : Option (TableKey × String) :=
  if reference.cardinality = .manyToMany then none
  else
    let (holder, referred) := keyEnds reference
    (schema.table? holder.table holder.schema).bind fun owner =>
      (schema.table? referred.table referred.schema).map fun _ => (owner.key, holder.column)

def keyColumns (schema : Schema) : List (TableKey × String) :=
  (schema.references.filter fun reference => !isGiven reference.name).filterMap (keyColumn? schema)

/-- The constraint of a foreign key that is held in a column of a table and has no name of its own. -/
def constraintOf (key : TableKey × String) : TableKey × String :=
  (key.1, "fk_" ++ key.1.name ++ "_" ++ key.2)

theorem constraintOf_injective : Function.Injective constraintOf := by
  rintro ⟨table, column⟩ ⟨other, otherColumn⟩ same
  obtain ⟨rfl, names⟩ := Prod.mk.inj same
  have columns : column = otherColumn := (String.append_right_inj _).mp names
  rw [columns]

/-- A name of one line is read up to the blank or the dot behind it. -/
theorem name?_identifier_cons {name : String} {c : Char} (oneLine : '\n' ∉ name.toList)
    (separates : c = ' ' ∨ c = '.') (behind : List Char) :
    name? ((identifier name).toList ++ c :: behind) = some (name.toList, c :: behind) := by
  refine name?_identifier oneLine fun d head => ?_
  cases head
  rcases separates with rfl | rfl <;> decide

theorem tableKey?_tableName (form : table.WellFormed) (behind : List Char) :
    tableKey? ((tableName table).toList ++ ' ' :: behind) = some (table.key, ' ' :: behind) := by
  have name := name?_identifier_cons form.named.2 (.inl rfl) behind
  unfold tableName tableKey? Table.key
  cases written : table.schema with
  | none =>
      have stop : after? ['.'] (' ' :: behind) = none := rfl
      dsimp only
      rw [name, Option.bind_some, stop, String.ofList_toList]
  | some qualifier =>
      have plain := form.qualified qualifier written
      have given : qualifier ≠ "" := by
        rintro rfl
        exact absurd plain.1 (by decide)
      have first := name?_identifier_cons plain.2 (.inr rfl) ((identifier table.name).toList ++ ' ' :: behind)
      have shape : (identifier qualifier ++ "." ++ identifier table.name).toList ++ ' ' :: behind =
          (identifier qualifier).toList ++ '.' :: ((identifier table.name).toList ++ ' ' :: behind) := by
        simp
      have dot (rest : List Char) : after? ['.'] ('.' :: rest) = some rest := after?_append ['.'] rest
      dsimp only
      rw [if_neg given, shape, first, Option.bind_some, dot]
      dsimp only
      rw [name, Option.map_some, String.ofList_toList, String.ofList_toList]

/-- The table that a statement alters and the constraint that it adds are read back from it. -/
theorem added?_keyStatement (unnamed : isGiven reference.name = false) (form : owner.WellFormed)
    (oneLine : '\n' ∉ holder.column.toList) :
    added? (keyStatement reference holder referred owner target) =
      some (constraintOf (owner.key, holder.column)) := by
  have constraint_oneLine : '\n' ∉ ("fk_" ++ owner.name ++ "_" ++ holder.column).toList := by
    simp [form.named.2, oneLine]
  have shape : ∃ behind, (keyStatement reference holder referred owner target).toList =
      "ALTER TABLE ".toList ++ ((tableName owner).toList ++ (" ADD CONSTRAINT ".toList ++
        ((identifier ("fk_" ++ owner.name ++ "_" ++ holder.column)).toList ++ ' ' :: behind))) := by
    unfold keyStatement
    rw [unnamed]
    simp only [String.toList_append, List.append_assoc]
    exact ⟨_, rfl⟩
  obtain ⟨behind, shape⟩ := shape
  have named (rest : List Char) :
      tableKey? ((tableName owner).toList ++ (" ADD CONSTRAINT ".toList ++ rest)) =
        some (owner.key, " ADD CONSTRAINT ".toList ++ rest) := tableKey?_tableName form _
  have constraint := name?_identifier_cons constraint_oneLine (.inl rfl) behind
  rw [added?, shape, after?_append, Option.bind_some, named, Option.bind_some]
  dsimp only
  rw [after?_append, Option.bind_some, constraint, Option.map_some, String.ofList_toList]
  rfl

/-- The constraint of an unnamed reference is the one of the column that holds its key. -/
theorem map_added?_foreignKey? (unnamed : isGiven reference.name = false)
    (tables : ∀ table ∈ schema.tables, table.WellFormed)
    (sourceOneLine : '\n' ∉ reference.source.column.toList)
    (targetOneLine : '\n' ∉ reference.target.column.toList) :
    (foreignKey? schema reference).map added? =
      (keyColumn? schema reference).map fun key => some (constraintOf key) := by
  by_cases both : reference.cardinality = .manyToMany
  · rw [foreignKey?, keyColumn?, if_pos both, if_pos both]
    rfl
  · have oneLine : '\n' ∉ (keyEnds reference).1.column.toList := by
      unfold keyEnds
      split <;> assumption
    have statement := foreignKey?_eq_bind schema both
    dsimp only at statement
    rw [statement, keyColumn?, if_neg both]
    dsimp only
    cases ownerFound : schema.table? (keyEnds reference).1.table (keyEnds reference).1.schema with
    | none => rfl
    | some owner =>
        have form := tables owner (Schema.mem_and_named_of_table? ownerFound).1
        cases schema.table? (keyEnds reference).2.table (keyEnds reference).2.schema with
        | none => rfl
        | some target => exact congrArg some (added?_keyStatement unnamed form oneLine)

/-- The constraints of the unnamed references, if the ends of these can be written on one line. -/
theorem map_added?_unnamedKeys (tables : ∀ table ∈ schema.tables, table.WellFormed)
    (oneLine : ∀ reference ∈ schema.references, '\n' ∉ reference.source.column.toList ∧
      '\n' ∉ reference.target.column.toList) :
    (unnamedKeys schema).map added? = (keyColumns schema).map fun key => some (constraintOf key) := by
  rw [unnamedKeys, keyColumns, List.map_filterMap, List.map_filterMap]
  refine List.filterMap_congr fun reference member => ?_
  obtain ⟨among, unnamed⟩ := List.mem_filter.mp member
  obtain ⟨source, target⟩ := oneLine reference among
  exact map_added?_foreignKey? (by simpa using unnamed) tables source target

theorem unnamedKeys_sublist (schema : Schema) :
    (unnamedKeys schema).Sublist ((keyStatements schema).map Statement.text) := by
  rw [map_text_keyStatements]
  exact List.filter_sublist.filterMap (foreignKey? schema)

end Ddl

namespace Reading

variable {policy : Policy} {script : String}

/-- The columns at the ends of a reference that was read have names of one line. -/
theorem lineFeed_not_mem_columns {reference : Reference}
    (member : reference ∈ (ofScript policy script).references) :
    '\n' ∉ reference.source.column.toList ∧ '\n' ∉ reference.target.column.toList := by
  have read := isRead_of_mem_references member
  refine ⟨?_, read.target.column.oneLine⟩
  cases inline : reference.inline with
  | false => exact (read.source inline).column.oneLine
  | true =>
      obtain ⟨table, declared, _, found⟩ := isExact_source member inline
      obtain ⟨column, among, named⟩ := List.mem_map.mp (Table.hasColumn_iff.mp found)
      have form := (wellFormed_of_mem_tables declared).columns column among
      rw [← named]
      cases quoted : column.quotedName with
      | false => exact (form.bare quoted).2
      | true => exact (form.quoted quoted).2.1

/-- Of every schema that was read, each unnamed reference that has a foreign key adds to the table that holds
the key the constraint named after the table and the column that holds it. So no two of these statements add
the same constraint to the same table just if no two of the references hold their keys in the same column of
the same table. -/
theorem constraints_ofScript (policy : Policy) (script : String) (now : Timestamp) :
    let schema := (ofScript policy script).schema now
    (Ddl.unnamedKeys schema).Sublist ((Ddl.keyStatements schema).map Ddl.Statement.text) ∧
      (Ddl.unnamedKeys schema).map Ddl.added? =
        (Ddl.keyColumns schema).map (fun (table, column) =>
          some (table, "fk_" ++ table.name ++ "_" ++ column)) ∧
      (((Ddl.unnamedKeys schema).map Ddl.added?).Nodup ↔ (Ddl.keyColumns schema).Nodup) := by
  intro schema
  have tables : ∀ table ∈ schema.tables, table.WellFormed := fun _ member => wellFormed_of_mem_tables member
  have constraints := Ddl.map_added?_unnamedKeys tables fun _ member => lineFeed_not_mem_columns member
  refine ⟨Ddl.unnamedKeys_sublist schema, constraints, ?_⟩
  have injective : Function.Injective fun key => some (Ddl.constraintOf key) :=
    fun _ _ same => Ddl.constraintOf_injective (Option.some.inj same)
  rw [constraints, List.nodup_map_iff injective]

/-- A script without errors, with a column that refers to two others. -/
def twoTargets : String :=
  "Table a \x7b\n  id integer [ref: > b.x, ref: > c.x]\n\x7d\n" ++
    "Table b \x7b\n  x integer\n\x7d\nTable c \x7b\n  x integer\n\x7d"

theorem constraints_ofScript_clash :
    let schema := (ofScript {} twoTargets).schema "now"
    (ofScript {} twoTargets).succeeded = true ∧
      (Ddl.unnamedKeys schema).map Ddl.added? =
        [some (⟨none, "a"⟩, "fk_a_id"), some (⟨none, "a"⟩, "fk_a_id")] ∧
      ¬((Ddl.unnamedKeys schema).map Ddl.added?).Nodup := by
  decide +kernel

end Reading

end TableScript
