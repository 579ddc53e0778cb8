import Mathlib.Data.Option.NAry
import TableScript.Proofs.Ddl.Direction
import TableScript.Proofs.Text.Pieces

namespace TableScript.Ddl

def tableStatements (schema : Schema) : List Statement :=
  schema.tables.map fun table => ⟨table.qualifiedName, createTable table⟩

def keyStatements (schema : Schema) : List Statement :=
  schema.references.filterMap fun reference =>
    (foreignKey? schema reference).map fun text => ⟨reference.source.written, text⟩

/-- The references that have no foreign key. -/
def keyless (schema : Schema) : List Reference :=
  schema.references.filter fun reference => (foreignKey? schema reference).isNone

/-- Each statement is given back as it is or refused. -/
def Normalizer.KeepsOrRefuses (normalize : Normalizer) : Prop :=
  ∀ text, normalize text = .ok text ∨ ∃ reason, normalize text = .error reason

/-- The warning of a statement that is refused. -/
def refusal? (normalize : Normalizer) (statement : Statement) : Option String :=
  match normalize statement.text with
  | .ok _ => none
  | .error reason => some ("Could not normalize SQL for " ++ statement.subject ++ ": " ++ reason)

/-- The warning tells of a reference that has no foreign key. -/
def isNoKeyForm (warning : String) : Bool :=
  (Text.after? noKeyForm.toList warning.toList).isSome

variable {normalize : Normalizer} {schema : Schema} {dialect : String} {isDialect : String → Bool}

theorem Normalizer.keepsOrRefuses_refusing (fragments : List String) :
    (refusing fragments).KeepsOrRefuses := by
  intro text
  unfold refusing
  split
  · exact .inr ⟨_, rfl⟩
  · exact .inl rfl

/-- A reference has no foreign key just where it goes from many to many or one of its tables is missing. -/
theorem foreignKey?_eq_none_iff (schema : Schema) (reference : Reference) :
    foreignKey? schema reference = none ↔
      reference.cardinality = .manyToMany ∨
        schema.table? reference.source.table reference.source.schema = none ∨
        schema.table? reference.target.table reference.target.schema = none := by
  by_cases both : reference.cardinality = .manyToMany
  · exact iff_of_true (by rw [foreignKey?, if_pos both]) (.inl both)
  · have key := foreignKey?_eq_bind schema both
    rw [or_iff_right both]
    -- The tables are looked for in the order of the foreign key, which may be the other way round.
    cases cardinality : reference.cardinality with
    | manyToMany => exact absurd cardinality both
    | oneToOne | oneToMany =>
        simp only [keyEnds, cardinality] at key
        rw [key]
        exact Option.map₂_eq_none_iff
    | manyToOne =>
        simp only [keyEnds, cardinality] at key
        rw [key, or_comm]
        exact Option.map₂_eq_none_iff

/-- The references are gone through one by one, and each leaves a statement or a warning. -/
theorem foldl_takeReference (exported : Export) (rendered : List Statement)
    (references : List Reference) :
    references.foldl (takeReference schema) (exported, rendered) =
      ({ exported with
          warnings := exported.warnings ++
            (references.filter fun reference => (foreignKey? schema reference).isNone).map
              (noKeyForm ++ ·.arrow) },
        rendered ++ references.filterMap fun reference =>
          (foreignKey? schema reference).map fun text => ⟨reference.source.written, text⟩) := by
  induction references generalizing exported rendered with
  | nil => simp
  | cons reference references ih =>
      cases key : foreignKey? schema reference with
      | none =>
          rw [List.foldl_cons, takeReference, key]
          simp [ih, key]
      | some text =>
          rw [List.foldl_cons, takeReference, key]
          simp [ih, key]

/-- Every statement is exported as it is, refused or not. -/
theorem takeStatement_eq (keeps : normalize.KeepsOrRefuses) (exported : Export) (statement : Statement) :
    takeStatement normalize exported statement =
      { exported with
        statements := exported.statements ++ [statement.text]
        warnings := exported.warnings ++ (refusal? normalize statement).toList } := by
  unfold takeStatement refusal?
  rcases keeps statement.text with kept | ⟨reason, refused⟩
  · simp [kept]
  · simp [refused]

theorem foldl_takeStatement (keeps : normalize.KeepsOrRefuses) (exported : Export)
    (statements : List Statement) :
    statements.foldl (takeStatement normalize) exported =
      { exported with
        statements := exported.statements ++ statements.map Statement.text
        warnings := exported.warnings ++ statements.filterMap (refusal? normalize) } := by
  induction statements generalizing exported with
  | nil => simp
  | cons statement statements ih =>
      rw [List.foldl_cons, takeStatement_eq keeps, ih]
      cases refused : refusal? normalize statement <;> simp [refused]

/-- The export is known once it is known which statements are refused. -/
theorem exportSchema_eq (known : isDialect dialect = true) (keeps : normalize.KeepsOrRefuses)
    (schema : Schema) :
    exportSchema normalize schema dialect isDialect = .ok
      { statements := (tableStatements schema ++ keyStatements schema).map Statement.text
        warnings := (keyless schema).map (noKeyForm ++ ·.arrow) ++
          (tableStatements schema ++ keyStatements schema).filterMap (refusal? normalize)
        dialect } := by
  rw [exportSchema, if_pos known]
  simp only [foldl_takeReference, foldl_takeStatement keeps, List.nil_append]
  rfl

theorem map_text_keyStatements (schema : Schema) :
    (keyStatements schema).map Statement.text = schema.references.filterMap (foreignKey? schema) := by
  rw [keyStatements, List.map_filterMap]
  refine List.filterMap_congr fun reference _ => ?_
  rw [Option.map_map]
  exact Option.map_id_apply

theorem map_text_statements (schema : Schema) :
    (tableStatements schema ++ keyStatements schema).map Statement.text =
      schema.tables.map createTable ++ schema.references.filterMap (foreignKey? schema) := by
  rw [List.map_append, tableStatements, List.map_map, map_text_keyStatements]
  rfl

theorem isNoKeyForm_noKeyForm (text : String) : isNoKeyForm (noKeyForm ++ text) = true := by
  rw [isNoKeyForm, String.toList_append, Text.after?_append]
  rfl

theorem isNoKeyForm_of_refusal {statement : Statement} {warning : String}
    (refused : refusal? normalize statement = some warning) : isNoKeyForm warning = false := by
  unfold refusal? at refused
  split at refused
  · cases refused
  · cases refused
    rw [isNoKeyForm, String.append_assoc, String.append_assoc, String.toList_append,
      ← List.append_nil noKeyForm.toList, Text.after?_eq_none (by decide +kernel)]
    rfl

theorem countP_isNoKeyForm (normalize : Normalizer) (references : List Reference)
    (statements : List Statement) :
    (references.map (noKeyForm ++ ·.arrow) ++ statements.filterMap (refusal? normalize)).countP isNoKeyForm =
      references.length := by
  have told : ∀ warning ∈ references.map (noKeyForm ++ ·.arrow), isNoKeyForm warning = true := by
    intro warning member
    obtain ⟨reference, _, rfl⟩ := List.mem_map.mp member
    exact isNoKeyForm_noKeyForm reference.arrow
  have others : ∀ warning ∈ statements.filterMap (refusal? normalize), ¬ isNoKeyForm warning = true := by
    intro warning member
    obtain ⟨statement, _, refused⟩ := List.mem_filterMap.mp member
    rw [isNoKeyForm_of_refusal refused]
    exact Bool.false_ne_true
  rw [List.countP_append, List.countP_eq_length.mpr told, List.countP_eq_zero.mpr others, List.length_map,
    Nat.add_zero]

/-- A reference has a foreign key or it has none. -/
theorem length_filterMap_add_keyless (schema : Schema) :
    (schema.references.filterMap (foreignKey? schema)).length + (keyless schema).length =
      schema.references.length := by
  have either := schema.references.length_eq_countP_add_countP fun reference =>
    (foreignKey? schema reference).isSome
  rw [List.length_filterMap_eq_countP, keyless, ← List.countP_eq_length_filter, either]
  congr 2
  funext reference
  cases foreignKey? schema reference <;> rfl

/-- An export accounts for every table and every reference, whichever statements the dialect refuses. The
statements are those of the tables and then the foreign keys that there are, as they are. There is a warning
of each reference that has no foreign key, and behind these one of each statement that is refused, all in
order. -/
theorem exportSchema_complete (known : isDialect dialect = true) (keeps : normalize.KeepsOrRefuses)
    (schema : Schema) :
    ∃ exported, exportSchema normalize schema dialect isDialect = .ok exported ∧ exported.dialect = dialect ∧
      exported.statements =
        schema.tables.map createTable ++ schema.references.filterMap (foreignKey? schema) ∧
      exported.warnings = (keyless schema).map (noKeyForm ++ ·.arrow) ++
        (tableStatements schema ++ keyStatements schema).filterMap (refusal? normalize) ∧
      (∀ reference, foreignKey? schema reference = none ↔
        reference.cardinality = .manyToMany ∨
          schema.table? reference.source.table reference.source.schema = none ∨
          schema.table? reference.target.table reference.target.schema = none) ∧
      exported.statements.length + exported.warnings.countP isNoKeyForm =
        schema.tables.length + schema.references.length := by
  refine ⟨_, exportSchema_eq known keeps schema, rfl, map_text_statements schema, rfl,
    foreignKey?_eq_none_iff schema, ?_⟩
  rw [map_text_statements, countP_isNoKeyForm, List.length_append, List.length_map, Nat.add_assoc,
    length_filterMap_add_keyless]

/-- Two tables with a reference that has a foreign key and two that have none. -/
def twoTables : Schema where
  tables := [{ id := "0", name := "a" }, { id := "1", name := "b" }]
  references := [
    { id := "0", source := ⟨none, "a", "x"⟩, target := ⟨none, "b", "y"⟩, cardinality := .manyToMany },
    { id := "1", source := ⟨none, "a", "x"⟩, target := ⟨none, "b", "y"⟩ },
    { id := "2", source := ⟨none, "a", "x"⟩, target := ⟨none, "c", "y"⟩ }]
  metadata := .fresh "now"

theorem exportSchema_complete_twoTables :
    ∃ exported, exportSchema (.refusing ["TABLE b"]) twoTables "mysql" = .ok exported ∧
      exported.statements = ["CREATE TABLE a (\n\n)", "CREATE TABLE b (\n\n)",
        "ALTER TABLE a ADD CONSTRAINT fk_a_x FOREIGN KEY (x) REFERENCES b (y)"] ∧
      exported.warnings = ["Reference has no foreign key form: a.x <> b.y",
        "Reference has no foreign key form: a.x > c.y",
        "Could not normalize SQL for b: bad statement"] := by
  obtain ⟨exported, done, _, statements, warnings, _⟩ :=
    exportSchema_complete (by decide +kernel : dialects.contains "mysql" = true)
      (Normalizer.keepsOrRefuses_refusing ["TABLE b"]) twoTables
  refine ⟨exported, done, ?_, ?_⟩
  · rw [statements]
    decide +kernel
  · rw [warnings]
    decide +kernel

end TableScript.Ddl
