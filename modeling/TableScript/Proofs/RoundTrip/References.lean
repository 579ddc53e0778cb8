import TableScript.Proofs.Read.Extension
import TableScript.Proofs.Read.Reference
import TableScript.Proofs.RoundTrip.Tables

namespace TableScript

/-- The line is that of a reference whose ends are declared. -/
def SourceLine.Resolves (line : SourceLine) (catalog : Catalog) : Prop :=
  ∃ written, ReferenceLine.read? line.text.toList = some written ∧ written.Resolves catalog

theorem SourceLine.resolves_congr {line : SourceLine} {catalog other : Catalog}
    (same : catalog.tables.map Table.signature = other.tables.map Table.signature) :
    line.Resolves catalog ↔ line.Resolves other :=
  ⟨fun ⟨written, read, resolves⟩ => ⟨written, read, resolves.congr same⟩,
    fun ⟨written, read, resolves⟩ => ⟨written, read, resolves.congr same.symm⟩⟩

theorem ReferenceLine.errors_diagnostics (written : ReferenceLine) (policy : Policy)
    (line : SourceLine) : Journal.errors (written.diagnostics policy line) = [] := by
  simp only [Journal.errors, Journal.ofSeverity, diagnostics, List.filter_eq_nil_iff,
    List.forall_mem_map, Problem.severity_foundAt, beq_iff_eq, List.mem_flatMap,
    forall_exists_index, and_imp]
  intro problem setting _ among
  unfold Setting.referenceProblems at among
  repeat' split at among
  all_goals simp at among
  all_goals simp [among, Problem.severity]

namespace ReadState

variable {policy : Policy} {state : ReadState} {line : SourceLine} {lines : List SourceLine}

theorem readReference_unresolved (policy : Policy)
    (refused : ¬line.Resolves state.catalog) :
    ∃ error : Diagnostic, error.severity = .error ∧
      readReference policy state line = state.adding [] [error] := by
  rcases readReference_cases policy state line with
    ⟨written, source, read, resolved, _⟩ | ⟨problem, offset, refusal, reported⟩
  · exact absurd ⟨written, read, source, resolved⟩ refused
  · exact ⟨problem.foundAt line offset, refusal.grave.1,
      reported.trans (reportAt_eq_adding problem line offset)⟩

theorem map_signature_readReference :
    (readReference policy state line).catalog.tables.map Table.signature =
      state.catalog.tables.map Table.signature := by
  by_cases resolves : line.Resolves state.catalog
  · obtain ⟨written, read, source, resolved⟩ := resolves
    rw [readReference_resolved read resolved]
    exact (Catalog.isMarking_markForeignKey source.key written.source.column).map_signature _
  · obtain ⟨error, _, reported⟩ := readReference_unresolved policy resolves
    rw [reported]
    rfl

theorem errors_readReference :
    (readReference policy state line).journal.errors = [] ↔
      state.journal.errors = [] ∧ line.Resolves state.catalog := by
  by_cases resolves : line.Resolves state.catalog
  · obtain ⟨written, read, source, resolved⟩ := resolves
    have kept : (state.withReference policy line written source).journal.errors =
        state.journal.errors := by
      rw [withReference, journal_adding, Journal.errors_append, written.errors_diagnostics,
        List.append_nil]
    rw [readReference_resolved read resolved, kept]
    exact ⟨fun faultless => ⟨faultless, written, read, source, resolved⟩, fun both => both.1⟩
  · obtain ⟨error, grave, reported⟩ := readReference_unresolved policy resolves
    rw [reported, journal_adding, Journal.errors_append]
    simp [Journal.errors, Journal.ofSeverity, grave, resolves]

theorem map_signature_foldl_readReference (policy : Policy) (state : ReadState)
    (lines : List SourceLine) :
    (lines.foldl (readReference policy) state).catalog.tables.map Table.signature =
      state.catalog.tables.map Table.signature := by
  induction lines generalizing state with
  | nil => rfl
  | cons line lines ih => rw [List.foldl_cons, ih, map_signature_readReference]

theorem errors_foldl_readReference (policy : Policy) (state : ReadState)
    (lines : List SourceLine) :
    (lines.foldl (readReference policy) state).journal.errors = [] ↔
      state.journal.errors = [] ∧ ∀ line ∈ lines, line.Resolves state.catalog := by
  induction lines generalizing state with
  | nil => simp
  | cons line lines ih =>
      have same : ∀ other : SourceLine,
          other.Resolves (readReference policy state line).catalog ↔
            other.Resolves state.catalog :=
        fun other => SourceLine.resolves_congr map_signature_readReference
      simp only [List.foldl_cons, ih, errors_readReference, same, and_assoc, List.forall_mem_cons]

/-- Every line that resolves gives a reference. -/
theorem length_references_foldl_readReference
    (resolves : ∀ line ∈ lines, line.Resolves state.catalog) :
    (lines.foldl (readReference policy) state).references.length =
      state.references.length + lines.length := by
  induction lines generalizing state with
  | nil => rfl
  | cons line lines ih =>
      obtain ⟨written, read, source, resolved⟩ := resolves line List.mem_cons_self
      have later : ∀ other ∈ lines, other.Resolves (readReference policy state line).catalog :=
        fun other member => (SourceLine.resolves_congr map_signature_readReference).mpr
          (resolves other (List.mem_cons_of_mem line member))
      have one : (readReference policy state line).references.length =
          state.references.length + 1 := by
        rw [readReference_resolved read resolved, withReference, List.length_append,
          List.length_singleton]
      rw [List.foldl_cons, ih later, one, List.length_cons]
      omega

theorem readLines_references
    (classified : ∀ line ∈ lines, LineKind.classify false line.text.toList = .ref) :
    readLines policy .none state lines = (lines.foldl (readReference policy) state, none) := by
  induction lines generalizing state with
  | nil => rw [readLines, List.foldl_nil]
  | cons line lines ih =>
      have stepped : step policy .none state line lines =
          .ok (readReference policy state line, lines) := by
        simp only [step, Interrupts.none, classified line List.mem_cons_self, readKind]
      rw [readLines_cons stepped, List.foldl_cons,
        ih fun other member => classified other (List.mem_cons_of_mem line member)]

end ReadState

end TableScript
