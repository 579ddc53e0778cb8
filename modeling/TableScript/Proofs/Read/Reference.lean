import TableScript.Proofs.Model.WellFormed
import TableScript.Proofs.Read.Settings
import TableScript.Read.Reference

namespace TableScript

namespace Catalog

variable {catalog : Catalog} {name : String} {schema : Option String} {table : Table}

theorem mem_and_key_eq_of_get? {key : TableKey} (found : catalog.get? key = some table) :
    table ∈ catalog.tables ∧ table.key = key :=
  ⟨List.mem_of_find?_eq_some found,
    beq_iff_eq.mp (List.find?_some (p := fun table : Table => table.key == key) found)⟩

theorem mem_and_named_of_find? (found : catalog.find? name schema = some table) :
    table ∈ catalog.tables ∧ table.name = name ∧
      ∀ written ∈ schema, table.schema = some written := by
  unfold find? at found
  cases schema with
  | some written =>
      obtain ⟨member, key⟩ := mem_and_key_eq_of_get? found
      obtain ⟨schemaSame, nameSame⟩ := TableKey.mk.inj key
      refine ⟨member, nameSame, ?_⟩
      intro c member
      cases member
      exact schemaSame
  | none =>
      cases got : catalog.get? ⟨none, name⟩ with
      | some bare =>
          simp only [got] at found
          cases found
          obtain ⟨member, key⟩ := mem_and_key_eq_of_get? got
          exact ⟨member, (TableKey.mk.inj key).2, by simp⟩
      | none =>
          simp only [got] at found
          have first : catalog.tables.find? (·.name == name) = some table := found
          refine ⟨List.mem_of_find?_eq_some first, ?_, by simp⟩
          exact beq_iff_eq.mp (List.find?_some (p := fun table : Table => table.name == name) first)

theorem isMarking_markForeignKey (key : TableKey) (column : String) :
    IsMarking fun table =>
      if table.key = key then
        modifyFirst (·.name == column) (fun found => { found with foreignKey := true }) table.columns
      else table.columns := by
  intro table
  dsimp only
  split
  · exact map_modifyFirst (·.name == column) (fun found => { found with foreignKey := true })
      Column.unmarked (fun _ _ => rfl) table.columns
  · rfl

theorem isMarking_setForeignKey (columnId : String) (mark : Bool) :
    IsMarking fun table =>
      table.columns.map fun column =>
        if column.id = columnId then { column with foreignKey := mark } else column := by
  intro table
  rw [List.map_map]
  refine List.map_congr_left fun column _ => ?_
  rw [Function.comp_apply]
  split <;> rfl

end Catalog

/-- What counts of a table when a reference is looked up. -/
def Table.signature (table : Table) : TableKey × List String :=
  (table.key, table.columns.map Column.name)

theorem Table.hasColumn_congr {table other : Table} (same : table.signature = other.signature)
    (name : String) : table.hasColumn name = other.hasColumn name := by
  have columns : table.columns.map Column.name = other.columns.map Column.name :=
    (Prod.mk.inj same).2
  apply Bool.eq_iff_iff.mpr
  rw [hasColumn_iff, hasColumn_iff, columns]

theorem IsMarking.map_signature {change : Table → List Column} (marking : IsMarking change)
    (tables : List Table) :
    (tables.map (·.withColumns change)).map Table.signature = tables.map Table.signature := by
  rw [List.map_map]
  refine List.map_congr_left fun table _ => ?_
  have names := marking.map_eq Column.name (fun _ => rfl) table
  exact Prod.ext rfl names

theorem find?_signature_congr {tables others : List Table}
    (same : tables.map Table.signature = others.map Table.signature)
    (fits : TableKey × List String → Bool) :
    (tables.find? fun table => fits table.signature).map Table.signature =
      (others.find? fun table => fits table.signature).map Table.signature := by
  have mapped : ∀ tables : List Table,
      (tables.find? fun table => fits table.signature).map Table.signature =
        (tables.map Table.signature).find? fits :=
    fun tables => (List.find?_map).symm
  rw [mapped, mapped, same]

theorem Catalog.find?_congr {catalog other : Catalog}
    (same : catalog.tables.map Table.signature = other.tables.map Table.signature)
    (name : String) (schema : Option String) :
    (catalog.find? name schema).map Table.signature =
      (other.find? name schema).map Table.signature := by
  have first := find?_signature_congr same
  have exact : ∀ key, (catalog.get? key).map Table.signature =
      (other.get? key).map Table.signature :=
    fun key => first fun signature => signature.1 == key
  cases schema with
  | some written => exact exact ⟨some written, name⟩
  | none =>
      have bare := exact ⟨none, name⟩
      have named := first fun signature => signature.1.name == name
      simp only [find?]
      cases found : catalog.get? ⟨none, name⟩ with
      | some table =>
          cases otherFound : other.get? ⟨none, name⟩ with
          | some otherTable => simpa [found, otherFound] using bare
          | none => simp [found, otherFound] at bare
      | none =>
          cases otherFound : other.get? ⟨none, name⟩ with
          | some otherTable => simp [found, otherFound] at bare
          | none => exact named

namespace ReferenceLine

variable {written : ReferenceLine} {catalog : Catalog} {table : Table}

/-- A reference resolves where both its ends are found with their columns. -/
theorem resolve_eq_ok_iff : written.resolve catalog = .ok table ↔
    catalog.find? written.source.table written.source.schema = some table ∧
      table.hasColumn written.source.column = true ∧
      ∃ target, catalog.find? written.target.table written.target.schema = some target ∧
        target.hasColumn written.target.column = true := by
  unfold resolve
  dsimp only
  cases catalog.find? written.source.table written.source.schema with
  | none => simp
  | some source =>
      cases catalog.find? written.target.table written.target.schema with
      | none => simp
      | some target =>
          cases sourceColumn : source.hasColumn written.source.column <;>
            cases targetColumn : target.hasColumn written.target.column
          all_goals simp [sourceColumn, targetColumn]
          all_goals
            intro same
            subst same
            exact sourceColumn

/-- What a reference misses is missed at one of its ends. -/
theorem eq_missing_of_resolve_error {found : Problem × Nat}
    (missing : written.resolve catalog = .error found) :
    ∃ endpoint offset,
      (endpoint, offset) ∈ [(written.source, written.sourceOffset), (written.target, written.targetOffset)] ∧
      (found = (.missingTable (qualify endpoint.schema endpoint.table), offset) ∨
        found = (.missingColumn endpoint.table endpoint.column, offset)) := by
  unfold resolve at missing
  dsimp only at missing
  repeat' split at missing
  all_goals cases missing
  · exact ⟨_, _, List.mem_cons_self, .inl rfl⟩
  · exact ⟨_, _, List.mem_cons_of_mem _ List.mem_cons_self, .inl rfl⟩
  · exact ⟨_, _, List.mem_cons_self, .inr rfl⟩
  · exact ⟨_, _, List.mem_cons_of_mem _ List.mem_cons_self, .inr rfl⟩

theorem isDeclared_of_resolve (resolved : written.resolve catalog = .ok table) :
    written.source.IsDeclared catalog.tables ∧ written.target.IsDeclared catalog.tables := by
  obtain ⟨found, column, target, targetFound, targetColumn⟩ := resolve_eq_ok_iff.mp resolved
  obtain ⟨member, name, schema⟩ := Catalog.mem_and_named_of_find? found
  obtain ⟨targetMember, targetName, targetSchema⟩ := Catalog.mem_and_named_of_find? targetFound
  exact ⟨⟨table, member, name, schema, column⟩,
    ⟨target, targetMember, targetName, targetSchema, targetColumn⟩⟩

def Resolves (written : ReferenceLine) (catalog : Catalog) : Prop :=
  ∃ source, written.resolve catalog = .ok source

instance (written : ReferenceLine) (catalog : Catalog) : Decidable (written.Resolves catalog) :=
  match resolved : written.resolve catalog with
  | .ok source => isTrue ⟨source, resolved⟩
  | .error _ => isFalse fun ⟨_, other⟩ => by
      rw [resolved] at other
      cases other

/-- Whether a reference resolves depends on nothing but the names in the tables. -/
theorem Resolves.congr {other : Catalog} (resolves : written.Resolves catalog)
    (same : catalog.tables.map Table.signature = other.tables.map Table.signature) :
    written.Resolves other := by
  obtain ⟨source, resolved⟩ := resolves
  obtain ⟨found, column, target, targetFound, targetColumn⟩ := resolve_eq_ok_iff.mp resolved
  have sources := Catalog.find?_congr same written.source.table written.source.schema
  have targets := Catalog.find?_congr same written.target.table written.target.schema
  rw [found, Option.map_some, eq_comm, Option.map_eq_some_iff] at sources
  rw [targetFound, Option.map_some, eq_comm, Option.map_eq_some_iff] at targets
  obtain ⟨otherSource, otherFound, sourceSame⟩ := sources
  obtain ⟨otherTarget, otherTargetFound, targetSame⟩ := targets
  refine ⟨otherSource, resolve_eq_ok_iff.mpr ⟨otherFound, ?_, otherTarget, otherTargetFound, ?_⟩⟩
  · rw [Table.hasColumn_congr sourceSame, column]
  · rw [Table.hasColumn_congr targetSame, targetColumn]

/-- What is said of a line that gives no reference, and where. -/
inductive Refusal (line : SourceLine) (catalog : Catalog) : Problem → Nat → Prop where
  | malformed : Refusal line catalog (.badReference line.text) 0
  | unresolved {written : ReferenceLine} {problem : Problem} {offset : Nat}
      (read : read? line.text.toList = some written)
      (missing : written.resolve catalog = .error (problem, offset)) :
      Refusal line catalog problem offset

theorem Refusal.grave {line : SourceLine} {problem : Problem} {offset : Nat}
    (refusal : Refusal line catalog problem offset) :
    problem.severity = .error ∧ problem.kind ≠ .internal := by
  cases refusal with
  | malformed => simp [Problem.severity, Problem.kind]
  | unresolved _ missing =>
      obtain ⟨_, _, _, ofTable | ofColumn⟩ := eq_missing_of_resolve_error missing
      · cases ofTable
        simp [Problem.severity, Problem.kind]
      · cases ofColumn
        simp [Problem.severity, Problem.kind]

def settingList (written : ReferenceLine) : List Setting :=
  Setting.readAll (written.settings.getD [])

def reference (written : ReferenceLine) (number : Nat) : Reference :=
  written.settingList.foldl Reference.afterSetting {
    id := "ref_" ++ toString number
    source := written.source
    target := written.target
    cardinality := written.cardinality
    name := written.name.map String.ofList }

theorem reference_kept (written : ReferenceLine) (number : Nat) :
    (written.reference number).id = "ref_" ++ toString number ∧
      (written.reference number).source = written.source ∧
      (written.reference number).target = written.target ∧
      (written.reference number).name = written.name.map String.ofList ∧
      (written.reference number).inline = false :=
  Reference.foldl_afterSetting_kept _ written.settingList

def diagnostics (written : ReferenceLine) (policy : Policy) (line : SourceLine) : Journal :=
  (written.settingList.flatMap (Setting.referenceProblems policy)).map (·.foundAt line 0)

theorem kind_of_mem_diagnostics {policy : Policy} {line : SourceLine} {diagnostic : Diagnostic}
    (member : diagnostic ∈ written.diagnostics policy line) : diagnostic.kind ≠ .internal := by
  obtain ⟨problem, found, rfl⟩ := List.mem_map.mp member
  obtain ⟨setting, _, among⟩ := List.mem_flatMap.mp found
  exact Setting.kind_of_mem_problems (.inr (.inr among))

end ReferenceLine

namespace ReadState

variable {policy : Policy} {state : ReadState} {line : SourceLine} {written : ReferenceLine}

def withReference (state : ReadState) (policy : Policy) (line : SourceLine)
    (written : ReferenceLine) (source : Table) : ReadState :=
  { state.adding [] (written.diagnostics policy line) with
    references := state.references ++ [written.reference state.referencesNumbered]
    referencesNumbered := state.referencesNumbered + 1
    catalog := state.catalog.markForeignKey source.key written.source.column }

theorem readReference_resolved {source : Table}
    (read : ReferenceLine.read? line.text.toList = some written)
    (resolved : written.resolve state.catalog = .ok source) :
    readReference policy state line = state.withReference policy line written source := by
  have settings := foldl_takeReferenceSetting policy state.numberReference.2 line
    { id := "ref_" ++ toString state.referencesNumbered
      source := written.source
      target := written.target
      cardinality := written.cardinality
      name := written.name.map String.ofList } written.settingList
  simp only [numberReference, ReferenceLine.settingList] at settings
  simp only [readReference, read, resolved, numberReference, settings]
  simp [withReference, ReferenceLine.reference, ReferenceLine.diagnostics,
    ReferenceLine.settingList, adding]

/-- A line gives a reference, or it is reported and that is all. -/
theorem readReference_cases (policy : Policy) (state : ReadState) (line : SourceLine) :
    (∃ written source, ReferenceLine.read? line.text.toList = some written ∧
        written.resolve state.catalog = .ok source ∧
        readReference policy state line = state.withReference policy line written source) ∨
      ∃ problem offset, ReferenceLine.Refusal line state.catalog problem offset ∧
        readReference policy state line = state.reportAt problem line offset := by
  cases read : ReferenceLine.read? line.text.toList with
  | none => exact .inr ⟨_, _, .malformed, by simp [readReference, read, report]⟩
  | some written =>
      cases resolved : written.resolve state.catalog with
      | ok source =>
          exact .inl ⟨written, source, rfl, resolved, readReference_resolved read resolved⟩
      | error missing =>
          obtain ⟨problem, offset⟩ := missing
          exact .inr ⟨problem, offset, .unresolved read resolved, by
            simp only [readReference, read, resolved]⟩

end ReadState

end TableScript
