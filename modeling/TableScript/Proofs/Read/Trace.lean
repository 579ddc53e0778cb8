import TableScript.Proofs.Read.Dropping
import TableScript.Proofs.Read.Frame
import TableScript.Proofs.Read.Refused.Script
import TableScript.Proofs.Read.SkippedBlock

/-! Every step leaves a trace of the line where it begins: something is said of that line, or there is a table
or a reference more. What is read later takes no trace away, for what was found stays in front of what is
found behind it, and no step takes a table or a reference back. -/

namespace TableScript

namespace ReadState

variable {policy : Policy} {interrupts : Interrupts} {check : TargetCheck} {before state after : ReadState}
  {line header : SourceLine} {following rest : List SourceLine} {declared : TableHeader}

theorem journal_prefix_readLines (policy : Policy) (interrupts : Interrupts) (state : ReadState)
    (lines : List SourceLine) : state.journal <+: (readLines policy interrupts state lines).1.journal := by
  have read : readLines policy interrupts state lines =
      (readLines policy interrupts state.bare lines).map (behind state.journal state.inlineUses) id := by
    rw [← behind_readLines, behind_bare]
  rw [read]
  exact List.prefix_append _ _

theorem journal_prefix_skipBlock (state : ReadState) (header : SourceLine) (following : List SourceLine) :
    state.journal <+: (state.skipBlock header following).1.journal := by
  unfold skipBlock
  dsimp only
  split
  · exact List.prefix_refl _
  · exact List.prefix_append _ _

theorem journal_prefix_checkInlines (done : checkInlines check state = .ok after) :
    state.journal <+: after.journal := by
  refine checkInlines_keeps (motive := fun next => state.journal <+: next.journal) done
    (List.prefix_refl _) fun {middle next use} kept checked => kept.trans ?_
  unfold checkInline at checked
  cases missing : missingTarget? middle.catalog use.reference.target with
  | none =>
      rw [missing] at checked
      cases checked
      exact List.prefix_refl _
  | some problem =>
      rw [missing] at checked
      cases check with
      | ignore =>
          cases checked
          exact List.prefix_refl _
      | warn =>
          cases checked
          exact List.prefix_append _ _
      | fail =>
          rw [eq_of_dropInline checked]
          exact List.prefix_append _ _

end ReadState

theorem Journal.mem_errors {journal : Journal} {found : Diagnostic} (member : found ∈ journal)
    (grave : found.severity = .error) : found ∈ journal.errors :=
  List.mem_filter.mpr ⟨member, by rw [grave]; rfl⟩

/-- An error that was found on the way is an error of the script. -/
theorem Reading.mem_errors_of_readLines {policy : Policy} {script : String} {middle : ReadState}
    {rest : List SourceLine} {found : Diagnostic}
    (reached : ReadState.readLines policy .none {} (SourceLine.ofScript script) =
      ReadState.readLines policy .none middle rest)
    (member : found ∈ middle.journal) (grave : found.severity = .error) :
    found ∈ (ofScript policy script).errors := by
  obtain ⟨_, after, whole, _, checked, _, finished⟩ := ReadState.ofLines_checked policy script
  have goesOn := ReadState.journal_prefix_readLines policy .none middle rest
  rw [← reached, whole] at goesOn
  have kept := (goesOn.trans (ReadState.journal_prefix_checkInlines checked)).subset member
  simp only [ofScript, ofInterrupted, finished]
  exact Journal.mem_errors kept grave

namespace ReadState

variable {policy : Policy} {interrupts : Interrupts} {before state after : ReadState}
  {line : SourceLine} {following rest : List SourceLine} {declared : TableHeader}

/-- How many tables and references were read. -/
def size (state : ReadState) : Nat :=
  state.catalog.size + state.references.length

theorem Advances.size_le (advances : Advances before after) : before.size ≤ after.size := by
  unfold size Catalog.size
  cases advances with
  | nothing catalog references inlineUses => rw [catalog, references]
  | table table uses tables references inlineUses declared marked =>
      rw [tables, references, List.length_append, List.length_append]
      omega
  | reference reference source target standalone sourceFound sourceColumn targetFound targetColumn catalog
      references inlineUses =>
      have marked : (before.catalog.markForeignKey source.key reference.source.column).tables.length =
          before.catalog.tables.length := List.length_map _
      rw [catalog, references, marked, List.length_append]
      omega

theorem size_le_readLines (policy : Policy) (interrupts : Interrupts) (state : ReadState)
    (lines : List SourceLine) : state.size ≤ (readLines policy interrupts state lines).1.size := by
  fun_induction ReadState.readLines policy interrupts state lines with
  | case1 state => exact Nat.le_refl _
  | case2 state line following after rest done ih =>
      exact (readKind_effect (step_eq_ok_iff.mp done).2).advances.size_le.trans ih
  | case3 state line following failure failed => exact Nat.le_refl _

/-- Something is said of the line, or there is a table or a reference more. -/
def LeavesTrace (before after : ReadState) (line : SourceLine) : Prop :=
  before.size < after.size ∨ ∃ found ∈ after.journal, found.line = line.number

theorem LeavesTrace.readLines (trace : LeavesTrace before state line) (policy : Policy)
    (interrupts : Interrupts) (lines : List SourceLine) :
    LeavesTrace before (ReadState.readLines policy interrupts state lines).1 line := by
  rcases trace with more | ⟨found, member, place⟩
  · exact .inl (Nat.lt_of_lt_of_le more (size_le_readLines policy interrupts state lines))
  · exact .inr ⟨found, (journal_prefix_readLines policy interrupts state lines).subset member, place⟩

theorem mem_journal_report (state : ReadState) (problem : Problem) (line : SourceLine) :
    problem.foundAt line 0 ∈ (state.report problem line).journal :=
  List.mem_append_right _ (List.mem_singleton_self _)

/-- A header is accepted, or there is an error of its line. -/
theorem accepted_or_error (done : readTable policy state line following = .ok (after, rest)) :
    (∃ declared, TableHeader.read? line.text.toList = some declared ∧
        declared.nameProblems state.catalog = []) ∨
      ∃ found ∈ after.journal, found.severity = .error ∧ found.line = line.number := by
  unfold readTable at done
  cases read : TableHeader.read? line.text.toList with
  | none =>
      rw [read] at done
      cases done
      exact .inr ⟨_, (journal_prefix_skipBlock _ line following).subset (mem_journal_report state _ line),
        rfl, rfl⟩
  | some declared =>
      rw [read] at done
      dsimp only at done
      cases wrong : declared.nameProblems state.catalog with
      | nil => exact .inl ⟨declared, rfl, wrong⟩
      | cons problem problems =>
          rw [wrong] at done
          cases done
          have grave : problem.1.severity = .error :=
            (TableHeader.nameProblem_of_mem (wrong ▸ List.mem_cons_self)).grave.1
          have said : problem.1.foundAt line problem.2 ∈
              (state.reportAll line (problem :: problems)).journal := by
            rw [reportAll_eq_adding, journal_adding]
            exact List.mem_append_right _ List.mem_cons_self
          exact .inr ⟨_, (journal_prefix_skipBlock _ line following).subset said, grave, rfl⟩

/-- An accepted table is one more. -/
theorem size_lt_of_readAcceptedTable
    (done : readAcceptedTable policy state line declared following = .ok (after, rest)) :
    state.size < after.size := by
  obtain ⟨_, uses, added⟩ := readBody_adds policy line declared following
    (state.withHeader policy line declared) (declared.table state.tablesNumbered)
  rw [readAcceptedTable_eq] at done
  generalize readBody policy line declared following
    (state.withHeader policy line declared, declared.table state.tablesNumbered) = body at done added
  obtain ⟨⟨read, table⟩, behind⟩ := body
  dsimp only at done
  split at done
  · rename_i catalog declares
    cases done
    have tables := Catalog.tables_of_declare declares
    have same : read.catalog = state.catalog := added.catalog
    have references : read.references = state.references ++ uses.map InlineUse.reference := by
      simpa [withHeader] using added.references
    simp only [size, Catalog.size, tables, same, references, List.length_append, List.length_singleton]
    omega
  · cases done

theorem leavesTrace_skipped (state : ReadState) (block : SkippedBlock) (tag : String) (line : SourceLine)
    (following : List SourceLine) :
    LeavesTrace before ((state.noticeBlock block tag line).skipBlock line following).1 line := by
  have noticed := mem_journal_report (state.addFeature tag) (.skippedBlock block line.text) line
  exact .inr ⟨_, (journal_prefix_skipBlock _ line following).subset noticed, rfl⟩

theorem leavesTrace_of_step (done : step policy interrupts state line following = .ok (after, rest)) :
    LeavesTrace state after line := by
  obtain ⟨_, read⟩ := step_eq_ok_iff.mp done
  cases kind : LineKind.classify false line.text.toList with
  | table =>
      rw [kind] at read
      rcases accepted_or_error read with ⟨declared, readable, accepted⟩ | ⟨found, member, _, place⟩
      · rw [readKind, readTable, readable] at read
        dsimp only at read
        rw [accepted] at read
        exact .inl (size_lt_of_readAcceptedTable read)
      · exact .inr ⟨found, member, place⟩
  | ref =>
      rw [kind] at read
      cases read
      rcases readReference_cases policy state line with
        ⟨written, source, _, _, taken⟩ | ⟨problem, offset, _, reported⟩
      · refine .inl ?_
        have marked : (state.catalog.markForeignKey source.key written.source.column).tables.length =
            state.catalog.tables.length := List.length_map _
        rw [taken]
        simp only [size, Catalog.size, withReference, marked, List.length_append, List.length_singleton]
        omega
      · rw [reported]
        exact .inr ⟨_, List.mem_append_right _ (List.mem_singleton_self _), rfl⟩
  | enum | project | tableGroup | indexes =>
      rw [kind] at read
      cases read
      exact leavesTrace_skipped state _ _ line following
  | columnLike | note | brace | unknown =>
      rw [kind] at read
      cases read
      exact .inr ⟨_, mem_journal_report state _ line, rfl⟩

/-- Of lines that are read to their end, the first one leaves a trace. -/
theorem leavesTrace_of_readLines (done : readLines policy .none state (line :: following) = (after, none)) :
    LeavesTrace state after line := by
  obtain ⟨middle, rest, stepped, read⟩ := exists_step_of_readLines done
  have trace := (leavesTrace_of_step stepped).readLines policy .none rest
  rwa [read] at trace

end ReadState

end TableScript
