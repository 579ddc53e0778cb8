import TableScript.Proofs.Read.Reference

namespace TableScript

/-- The table that the endpoint means is not found, or it has no such column. -/
def Endpoint.isMissing (endpoint : Endpoint) (catalog : Catalog) : Bool :=
  (catalog.findColumn? endpoint.table endpoint.column endpoint.schema).isNone

/-- An inline reference that leads nowhere. -/
def Reference.isLost (reference : Reference) (catalog : Catalog) : Bool :=
  reference.inline && reference.target.isMissing catalog

/-- What is said of an inline reference whose target is missing. How grave it is depends on what was
asked for; the place and the wording do not. -/
def InlineUse.complaint (use : InlineUse) (catalog : Catalog) (severity : Severity) : Diagnostic :=
  let target := use.reference.target
  let message :=
    match catalog.find? target.table target.schema with
    | none => "Referenced table not found: " ++ target.table
    | some _ => "Referenced column not found: " ++ target.table ++ "." ++ target.column
  .make severity .semantic use.line.number (use.line.columnOf 0) message none

section Congruence

variable {catalog other : Catalog} {endpoint : Endpoint}

/-- Whether a target is missing depends on nothing but the names in the tables. -/
theorem Endpoint.isMissing_congr
    (same : catalog.tables.map Table.signature = other.tables.map Table.signature) :
    endpoint.isMissing catalog = endpoint.isMissing other := by
  have tables := Catalog.find?_congr same endpoint.table endpoint.schema
  unfold isMissing Catalog.findColumn?
  cases found : catalog.find? endpoint.table endpoint.schema with
  | none =>
      rw [found, Option.map_none, eq_comm, Option.map_eq_none_iff] at tables
      rw [tables]
  | some table =>
      rw [found, Option.map_some, eq_comm, Option.map_eq_some_iff] at tables
      obtain ⟨otherTable, otherFound, signature⟩ := tables
      have column := Table.hasColumn_congr signature endpoint.column
      simp only [Table.hasColumn] at column
      rw [otherFound, Option.bind_some, Option.bind_some, ← Option.not_isSome, ← Option.not_isSome,
        column]

theorem InlineUse.complaint_congr (use : InlineUse) (severity : Severity)
    (same : catalog.tables.map Table.signature = other.tables.map Table.signature) :
    use.complaint catalog severity = use.complaint other severity := by
  have tables := Catalog.find?_congr same use.reference.target.table use.reference.target.schema
  unfold complaint
  cases found : catalog.find? use.reference.target.table use.reference.target.schema with
  | none =>
      rw [found, Option.map_none, eq_comm, Option.map_eq_none_iff] at tables
      simp only [found, tables]
  | some table =>
      rw [found, Option.map_some, eq_comm, Option.map_eq_some_iff] at tables
      obtain ⟨otherTable, otherFound, _⟩ := tables
      simp only [found, otherFound]

end Congruence

namespace ReadState

variable {state : ReadState} {catalog : Catalog} {use : InlineUse}

@[simp] theorem catalog_record (diagnostic : Diagnostic) :
    (state.record diagnostic).catalog = state.catalog :=
  rfl

@[simp] theorem references_record (diagnostic : Diagnostic) :
    (state.record diagnostic).references = state.references :=
  rfl

@[simp] theorem journal_record (diagnostic : Diagnostic) :
    (state.record diagnostic).journal = state.journal ++ [diagnostic] :=
  rfl

theorem missingTarget?_eq_none_iff {target : Endpoint} :
    missingTarget? catalog target = none ↔ target.isMissing catalog = false := by
  unfold missingTarget? Endpoint.isMissing Catalog.findColumn? Table.hasColumn
  cases catalog.find? target.table target.schema with
  | none => simp
  | some table => cases column : table.column? target.column <;> simp [column]

theorem reportAs_missing {problem : Problem} (state : ReadState) (severity : Severity)
    (missing : missingTarget? catalog use.reference.target = some problem) :
    state.reportAs severity problem use.line 0 = state.record (use.complaint catalog severity) := by
  unfold missingTarget? at missing
  unfold reportAs InlineUse.complaint
  cases found : catalog.find? use.reference.target.table use.reference.target.schema with
  | none =>
      simp only [found] at missing ⊢
      cases missing
      rfl
  | some table =>
      simp only [found] at missing ⊢
      split at missing
      · cases missing
      · cases missing
        rfl

theorem checkInline_of_isMissing (check : TargetCheck)
    (missing : use.reference.target.isMissing state.catalog = true) :
    checkInline check state use =
      match check with
      | .ignore => .ok state
      | .warn => .ok (state.record (use.complaint state.catalog .warning))
      | .fail => (state.record (use.complaint state.catalog .error)).dropInline use := by
  unfold checkInline
  cases found : missingTarget? state.catalog use.reference.target with
  | none => rw [missingTarget?_eq_none_iff.mp found] at missing; cases missing
  | some problem =>
      cases check with
      | ignore => rfl
      | warn | fail => simp only [reportAs_missing state _ found]

theorem checkInline_of_found (check : TargetCheck)
    (found : use.reference.target.isMissing state.catalog = false) :
    checkInline check state use = .ok state := by
  unfold checkInline
  rw [missingTarget?_eq_none_iff.mpr found]

end ReadState

end TableScript
