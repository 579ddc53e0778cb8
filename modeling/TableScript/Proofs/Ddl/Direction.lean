import TableScript.Ddl

namespace TableScript.Ddl

/-- The foreign key of a reference from one table to another. One from many to one belongs to the table
where the reference ends; one from many to many has none. -/
def keyBetween? (reference : Reference) (source target : Table) : Option String :=
  match reference.cardinality with
  | .oneToOne | .oneToMany =>
      some (keyStatement reference reference.source reference.target source target)
  | .manyToOne => some (keyStatement reference reference.target reference.source target source)
  | .manyToMany => none

variable {schema : Schema} {reference : Reference} {source target : Table}

/-- A foreign key needs a table at each of its ends. -/
theorem foreignKey?_eq_bind (schema : Schema) (key : reference.cardinality ≠ .manyToMany) :
    let (holder, referred) := keyEnds reference
    foreignKey? schema reference =
      (schema.table? holder.table holder.schema).bind fun owner =>
        (schema.table? referred.table referred.schema).map fun target =>
          keyStatement reference holder referred owner target := by
  rw [foreignKey?, if_neg key]
  generalize keyEnds reference = ends
  obtain ⟨holder, referred⟩ := ends
  dsimp only
  cases schema.table? holder.table holder.schema with
  | none => rfl
  | some owner => cases schema.table? referred.table referred.schema <;> rfl

/-- The foreign key stands between the tables that the schema finds for the ends of the reference. -/
theorem foreignKey?_eq_keyBetween?
    (sourceFound : schema.table? reference.source.table reference.source.schema = some source)
    (targetFound : schema.table? reference.target.table reference.target.schema = some target) :
    foreignKey? schema reference = keyBetween? reference source target := by
  cases cardinality : reference.cardinality with
  | manyToMany => rw [foreignKey?, if_pos cardinality, keyBetween?, cardinality]
  | oneToOne | oneToMany | manyToOne =>
      have key : reference.cardinality ≠ .manyToMany := by simp [cardinality]
      have statement := foreignKey?_eq_bind schema key
      simp only [keyEnds, cardinality, sourceFound, targetFound, Option.bind_some,
        Option.map_some] at statement
      rw [statement, keyBetween?, cardinality]

end TableScript.Ddl

namespace TableScript

/-- The reference with its ends in each other's places. -/
def Reference.turned (reference : Reference) : Reference :=
  { reference with source := reference.target, target := reference.source }

theorem Schema.mem_and_named_of_table? {schema : Schema} {name : String} {qualifier : Option String}
    {table : Table} (found : schema.table? name qualifier = some table) :
    table ∈ schema.tables ∧ table.name = name ∧ ∀ written ∈ qualifier, table.schema = some written := by
  have fits := List.find?_some found
  simp only [Bool.and_eq_true, beq_iff_eq, Bool.or_eq_true] at fits
  obtain ⟨named, inSchema⟩ := fits
  refine ⟨List.mem_of_find?_eq_some found, named, ?_⟩
  rintro written rfl
  simpa using inSchema

namespace Ddl

variable {schema : Schema} {reference other : Reference} {statement : String}

/-- Two tables of one name, in two schemas. -/
def namesakes : Schema where
  tables := [{ id := "0", name := "t", schema := some "a" }, { id := "1", name := "t", schema := some "b" }]
  metadata := .fresh "now"

example : foreignKey? namesakes
    { id := "0", source := ⟨some "a", "t", "x"⟩, target := ⟨some "b", "t", "y"⟩
      cardinality := .manyToOne } =
      some "ALTER TABLE b.t ADD CONSTRAINT fk_t_y FOREIGN KEY (y) REFERENCES a.t (x)" := by
  decide +kernel

end Ddl

end TableScript
