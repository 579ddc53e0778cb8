import TableScript.Proofs.Read.Table

namespace TableScript

structure InlineDraft where
  source : Endpoint
  inline : InlineReference
deriving DecidableEq

namespace InlineDraft

def reference (draft : InlineDraft) (number : Nat) : Reference where
  id := "ref_" ++ toString number
  source := draft.source
  target := draft.inline.target
  cardinality := draft.inline.cardinality
  inline := true

def references (drafts : List InlineDraft) (number : Nat) : List Reference :=
  (drafts.zipIdx number).map fun (draft, place) => draft.reference place

theorem length_references (drafts : List InlineDraft) (number : Nat) :
    (references drafts number).length = drafts.length := by
  rw [references, List.length_map, List.length_zipIdx]

theorem references_append (first second : List InlineDraft) (number : Nat) :
    references (first ++ second) number =
      references first number ++ references second (number + first.length) := by
  simp only [references, List.zipIdx_append, List.map_append]

end InlineDraft

def Table.inlineDrafts (table : Table) (columnName : String) (settings : List Setting) :
    List InlineDraft :=
  (settings.filterMap Setting.inline?).map fun inline =>
    ⟨⟨table.schema, table.name, columnName⟩, inline⟩

theorem Table.map_reference_inlineUses (table : Table) (columnId columnName : String)
    (line : SourceLine) (settings : List Setting) (number : Nat) :
    (table.inlineUses columnId columnName line settings number).map InlineUse.reference =
      InlineDraft.references (table.inlineDrafts columnName settings) number := by
  simp only [inlineUses, inlineDrafts, InlineDraft.references, List.map_map, List.zipIdx_map]
  rfl

/-- The setting is no reference, or a good one. -/
def Setting.IsFaultless (setting : Setting) : Prop :=
  setting.name = "ref" → setting.inline?.isSome = true

theorem Journal.errors_append (first second : Journal) :
    Journal.errors (first ++ second) = first.errors ++ second.errors :=
  List.filter_append first second

/-- Only a setting that gives no reference although it should is an error. -/
theorem Setting.errors_columnDiagnostics {policy : Policy} {line : SourceLine}
    {settings : List Setting} :
    Journal.errors (Setting.columnDiagnostics policy line settings) = [] ↔
      ∀ setting ∈ settings, setting.IsFaultless := by
  have each : ∀ setting : Setting,
      (∀ problem ∈ setting.columnProblems policy, problem.severity ≠ .error) ↔
        setting.IsFaultless := by
    intro setting
    unfold columnProblems IsFaultless
    by_cases reference : setting.name = "ref"
    · cases read : setting.inline?.isSome <;> simp [reference, Problem.severity]
    · dsimp only
      repeat' split
      all_goals simp_all [Problem.severity]
  have journal : Journal.errors (Setting.columnDiagnostics policy line settings) = [] ↔
      ∀ setting ∈ settings, ∀ problem ∈ setting.columnProblems policy,
        problem.severity ≠ .error := by
    simp only [Journal.errors, Journal.ofSeverity, columnDiagnostics, List.filter_eq_nil_iff,
      List.forall_mem_map, Problem.severity_foundAt, beq_iff_eq, List.mem_flatMap,
      forall_exists_index, and_imp]
    exact ⟨fun harmless setting member problem among => harmless problem setting member among,
      fun harmless problem setting member among => harmless setting member problem among⟩
  rw [journal]
  exact forall₂_congr fun setting _ => each setting

namespace ReadState

/-- What reading lines of one table adds: columns, inline references and, where something is wrong,
errors. -/
structure Extends (before after : ReadState) (columns : Nat) (drafts : List InlineDraft)
    (faultless : Prop) : Prop where
  catalog : after.catalog = before.catalog
  references : after.references =
    before.references ++ InlineDraft.references drafts before.referencesNumbered
  tablesNumbered : after.tablesNumbered = before.tablesNumbered
  columnsNumbered : after.columnsNumbered = before.columnsNumbered + columns
  referencesNumbered : after.referencesNumbered = before.referencesNumbered + drafts.length
  errors : after.journal.errors = [] ↔ before.journal.errors = [] ∧ faultless

namespace Extends

variable {before middle after : ReadState} {columns moreColumns : Nat}
  {drafts moreDrafts : List InlineDraft} {first second : Prop}

theorem refl (state : ReadState) : state.Extends state 0 [] True :=
  ⟨rfl, by simp [InlineDraft.references], rfl, rfl, rfl, by simp⟩

theorem trans (begun : before.Extends middle columns drafts first)
    (ended : middle.Extends after moreColumns moreDrafts second) :
    before.Extends after (columns + moreColumns) (drafts ++ moreDrafts) (first ∧ second) where
  catalog := ended.catalog.trans begun.catalog
  references := by
    rw [ended.references, begun.references, begun.referencesNumbered,
      InlineDraft.references_append, List.append_assoc]
  tablesNumbered := ended.tablesNumbered.trans begun.tablesNumbered
  columnsNumbered := by rw [ended.columnsNumbered, begun.columnsNumbered, Nat.add_assoc]
  referencesNumbered := by
    rw [ended.referencesNumbered, begun.referencesNumbered, List.length_append, Nat.add_assoc]
  errors := by rw [ended.errors, begun.errors, and_assoc]

theorem congr (done : before.Extends after columns drafts first) (same : first ↔ second) :
    before.Extends after columns drafts second :=
  { done with errors := by rw [done.errors, same] }

end Extends

theorem extends_adding (state : ReadState) {found : Journal} (warnings : found.errors = []) :
    state.Extends (state.adding [] found) 0 [] True := by
  refine ⟨rfl, by simp [InlineDraft.references], rfl, rfl, rfl, ?_⟩
  rw [journal_adding, Journal.errors_append, warnings, List.append_nil, and_true]

theorem extends_withColumn (state : ReadState) (policy : Policy) (table : Table) (line : SourceLine)
    (declared : ColumnLine) :
    state.Extends (state.withColumn policy table line declared) 1
      (table.inlineDrafts (String.ofList declared.name.text) declared.settingList)
      (∀ setting ∈ declared.settingList, setting.IsFaultless) := by
  have references := table.map_reference_inlineUses ("col_" ++ toString state.columnsNumbered)
    (String.ofList declared.name.text) line declared.settingList state.referencesNumbered
  refine ⟨rfl, ?_, rfl, rfl, ?_, ?_⟩
  · simp only [withColumn, references_adding, ColumnLine.inlineUses, references]
  · have lengths := congrArg List.length references
    rw [List.length_map, InlineDraft.length_references] at lengths
    simp only [withColumn, referencesNumbered_adding, ColumnLine.inlineUses, lengths]
  · have ignored : Journal.errors
        (if (Text.trim declared.rest).isEmpty then []
          else [(Problem.ignoredText (String.ofList (Text.trim declared.rest))).foundAt line
            declared.restOffset]) = [] := by
      split <;> rfl
    simp only [withColumn, journal_adding, ColumnLine.diagnostics, Journal.errors_append, ignored,
      List.append_nil, List.append_eq_nil_iff, Setting.errors_columnDiagnostics]

end ReadState

end TableScript
