import TableScript.Proofs.Read.Quiet.Basic
import TableScript.Proofs.Read.Step

/-! Reading without warnings of settings that are not known. Whether such warnings are asked for decides what is
recorded and nothing else: every step of a quiet reading does what the step of a loud one does, with those
warnings left out of what was found. -/

namespace TableScript

namespace ReadState

/-- The state without warnings of settings that are not known. -/
def muted (state : ReadState) : ReadState :=
  { state with journal := state.journal.muted }

theorem muted_adding (state : ReadState) (uses : List InlineUse) (found : Journal) :
    state.muted.adding uses found.muted = (state.adding uses found).muted := by
  simp only [muted, adding, Journal.muted_append]

theorem muted_reportAs (state : ReadState) (severity : Severity) {problem : Problem}
    (other : problem.isUnknownSetting = false) (line : SourceLine) (offset : Nat) :
    state.muted.reportAs severity problem line offset =
      (state.reportAs severity problem line offset).muted := by
  have names : ∀ suggestion, (Diagnostic.make severity problem.kind line.number (line.columnOf offset)
      problem.message suggestion).namesUnknownSetting = false :=
    fun _ => (Problem.namesUnknownSetting_eq rfl).trans other
  simp only [muted, reportAs, record, Journal.muted_append]
  simp only [Journal.muted, List.filter_cons, names, Bool.not_false, Bool.or_true, if_true,
    List.filter_nil]

theorem muted_reportAt (state : ReadState) {problem : Problem} (other : problem.isUnknownSetting = false)
    (line : SourceLine) (offset : Nat) :
    state.muted.reportAt problem line offset = (state.reportAt problem line offset).muted :=
  state.muted_reportAs problem.severity other line offset

theorem muted_report (state : ReadState) {problem : Problem} (other : problem.isUnknownSetting = false)
    (line : SourceLine) : state.muted.report problem line = (state.report problem line).muted :=
  state.muted_reportAt other line 0

theorem muted_skipBlock (state : ReadState) (header : SourceLine) (following : List SourceLine) :
    state.muted.skipBlock header following = ((state.skipBlock header following).1.muted,
      (state.skipBlock header following).2) := by
  unfold skipBlock
  dsimp only
  split
  · rfl
  · rw [state.muted_report rfl]

theorem muted_noticeBlock (state : ReadState) (block : SkippedBlock) (tag : String) (line : SourceLine) :
    state.muted.noticeBlock block tag line = (state.noticeBlock block tag line).muted := by
  have noted : state.muted.addFeature tag = (state.addFeature tag).muted := by
    rw [addFeature, addFeature, apply_ite muted]
    rfl
  rw [noticeBlock, noted]
  exact muted_report _ rfl line

theorem columnDiagnostics_quiet (policy : Policy) (line : SourceLine) (settings : List Setting) :
    Setting.columnDiagnostics policy.quiet line settings =
      (Setting.columnDiagnostics policy line settings).muted := by
  rw [Setting.columnDiagnostics, Setting.columnDiagnostics, Journal.muted_map_foundAt, List.filter_flatMap,
    funext fun setting : Setting => (setting.reported_column policy).quiet_eq]

theorem diagnostics_quiet (declared : ColumnLine) (policy : Policy) (line : SourceLine) :
    declared.diagnostics policy.quiet line = (declared.diagnostics policy line).muted := by
  have ignored : ∀ text : List Char, Journal.muted (if text.isEmpty then []
      else [(Problem.ignoredText (String.ofList text)).foundAt line declared.restOffset]) =
      if text.isEmpty then []
      else [(Problem.ignoredText (String.ofList text)).foundAt line declared.restOffset] := by
    intro text
    split
    · rfl
    · exact Journal.muted_map_foundAt [.ignoredText (String.ofList text)] line declared.restOffset
  rw [ColumnLine.diagnostics, ColumnLine.diagnostics, Journal.muted_append, ignored, columnDiagnostics_quiet]

variable (policy : Policy) (table : Table) (line : SourceLine) (following : List SourceLine)

theorem muted_withColumn (state : ReadState) (declared : ColumnLine) :
    state.muted.withColumn policy.quiet table line declared =
      (state.withColumn policy table line declared).muted := by
  rw [withColumn, diagnostics_quiet]
  exact congrArg (fun after : ReadState => { after with columnsNumbered := state.columnsNumbered + 1 })
    (state.muted_adding _ _)

theorem muted_readColumn (state : ReadState) :
    readColumn policy.quiet table state.muted line =
      (readColumn policy table state line).map muted id := by
  cases read : ColumnLine.read? line.text.toList with
  | none =>
      simp only [readColumn, read]
      exact Prod.ext (state.muted_report rfl line) rfl
  | some declared =>
      cases accepted : declared.isAccepted with
      | true =>
          rw [readColumn_accepted read accepted, readColumn_accepted read accepted, muted_withColumn]
          rfl
      | false =>
          simp only [readColumn, read]
          split
          · exact Prod.ext (state.muted_report rfl line) rfl
          · split
            · exact Prod.ext (state.muted_report rfl line) rfl
            · simp_all [ColumnLine.isAccepted]

theorem muted_takeBodyItem (progress : ReadState × Table) (item : BodyItem) :
    takeBodyItem policy.quiet (progress.map muted id) item =
      (takeBodyItem policy progress item).map muted id := by
  obtain ⟨state, table⟩ := progress
  cases item with
  | column line =>
      have read := muted_readColumn policy table line state
      simp only [takeBodyItem, Prod.map, id, read]
      obtain ⟨after, column⟩ := readColumn policy table state line
      cases column <;> rfl
  | note line =>
      simp only [takeBodyItem, Prod.map, id, readNote]
      cases noteText? line.text.toList with
      | none => exact Prod.ext (state.muted_report rfl line) rfl
      | some text =>
          cases text with
          | nil => exact Prod.ext (state.muted_report rfl line) rfl
          | cons c text => rfl
  | indexes line closed =>
      simp only [takeBodyItem, Prod.map, id, muted_noticeBlock]
      cases closed with
      | true => rfl
      | false => exact Prod.ext (muted_report _ rfl line) rfl
  | other line => exact Prod.ext (state.muted_report rfl line) rfl

theorem muted_readBody (header : TableHeader) (progress : ReadState × Table) :
    readBody policy.quiet line header following (progress.map muted id) =
      (readBody policy line header following progress).map (Prod.map muted id) id := by
  unfold readBody
  cases header.bodyLines? following with
  | none => rfl
  | some lines =>
      have items : (Body.ofLines lines).items.foldl (takeBodyItem policy.quiet) (progress.map muted id) =
          ((Body.ofLines lines).items.foldl (takeBodyItem policy) progress).map muted id :=
        List.foldl_hom (Prod.map muted id) (muted_takeBodyItem policy)
      simp only [items]
      obtain ⟨state, table⟩ := (Body.ofLines lines).items.foldl (takeBodyItem policy) progress
      cases (Body.ofLines lines).closed with
      | true => rfl
      | false => exact Prod.ext (Prod.ext (state.muted_report rfl line) rfl) rfl

theorem muted_withHeader (state : ReadState) (header : TableHeader) :
    state.muted.withHeader policy.quiet line header = (state.withHeader policy line header).muted := by
  have diagnostics : header.diagnostics policy.quiet line = (header.diagnostics policy line).muted := by
    rw [TableHeader.diagnostics, TableHeader.diagnostics, Journal.muted_map_foundAt, List.filter_flatMap,
      funext fun setting : Setting => (setting.reported_table policy).quiet_eq]
  rw [withHeader, diagnostics]
  exact congrArg (fun after : ReadState => { after with tablesNumbered := state.tablesNumbered + 1 })
    (state.muted_adding _ _)

theorem muted_readAcceptedTable (state : ReadState) (header : TableHeader) :
    readAcceptedTable policy.quiet state.muted line header following =
      (readAcceptedTable policy state line header following).map (Prod.map muted id) := by
  have body := muted_readBody policy line following header
    (state.withHeader policy line header, header.table state.tablesNumbered)
  rw [Prod.map, ← muted_withHeader, id] at body
  rw [readAcceptedTable_eq, readAcceptedTable_eq]
  have number : state.muted.tablesNumbered = state.tablesNumbered := rfl
  rw [number, body]
  obtain ⟨⟨after, table⟩, rest⟩ := readBody policy line header following
    (state.withHeader policy line header, header.table state.tablesNumbered)
  have catalog : after.muted.catalog.declare table = after.catalog.declare table := rfl
  simp only [Prod.map, id, catalog]
  cases after.catalog.declare table <;> rfl

theorem muted_reportAll (state : ReadState) (line : SourceLine) {problems : List (Problem × Nat)}
    (others : ∀ found ∈ problems, found.1.isUnknownSetting = false) :
    state.muted.reportAll line problems = (state.reportAll line problems).muted := by
  induction problems generalizing state with
  | nil => rfl
  | cons found problems ih =>
      obtain ⟨other, rest⟩ := List.forall_mem_cons.mp others
      have first := ih (state.reportAt found.1 line found.2) rest
      rw [← muted_reportAt state other] at first
      exact first

theorem muted_readTable (state : ReadState) :
    readTable policy.quiet state.muted line following =
      (readTable policy state line following).map (Prod.map muted id) := by
  unfold readTable
  cases TableHeader.read? line.text.toList with
  | none =>
      dsimp only
      rw [state.muted_report rfl, muted_skipBlock]
      rfl
  | some header =>
      have catalog : state.muted.catalog = state.catalog := rfl
      simp only [catalog]
      cases named : header.nameProblems state.catalog with
      | nil => exact muted_readAcceptedTable policy line following state header
      | cons problem problems =>
          have others : ∀ found ∈ problem :: problems, found.1.isUnknownSetting = false := by
            rw [← named]
            exact fun found member => header.isUnknownSetting_of_mem_nameProblems member
          have reported := state.muted_reportAll line others
          unfold reportAll at reported
          simp only [reported, muted_skipBlock]
          rfl

theorem muted_withReference (state : ReadState) (written : ReferenceLine) (source : Table) :
    state.muted.withReference policy.quiet line written source =
      (state.withReference policy line written source).muted := by
  have diagnostics : written.diagnostics policy.quiet line = (written.diagnostics policy line).muted := by
    rw [ReferenceLine.diagnostics, ReferenceLine.diagnostics, Journal.muted_map_foundAt,
      List.filter_flatMap, funext fun setting : Setting => (setting.reported_reference policy).quiet_eq]
  rw [withReference, diagnostics, muted_adding]
  rfl

theorem muted_readReference (state : ReadState) :
    readReference policy.quiet state.muted line = (readReference policy state line).muted := by
  cases read : ReferenceLine.read? line.text.toList with
  | none =>
      simp only [readReference, read]
      exact state.muted_report rfl line
  | some written =>
      have catalog : state.muted.catalog = state.catalog := rfl
      cases resolved : written.resolve state.catalog with
      | ok source =>
          rw [readReference_resolved read resolved,
            readReference_resolved read (catalog.symm ▸ resolved), muted_withReference]
      | error missing =>
          obtain ⟨problem, offset⟩ := missing
          have refusal : ReferenceLine.Refusal line state.catalog problem offset := .unresolved read resolved
          have other := Problem.isUnknownSetting_of_error refusal.grave.1
          simp only [readReference, read, catalog, resolved]
          exact state.muted_reportAt other line offset

theorem muted_readKind (state : ReadState) (kind : LineKind) :
    readKind policy.quiet state.muted kind line following =
      (readKind policy state kind line following).map (Prod.map muted id) := by
  cases kind with
  | table => exact muted_readTable policy line following state
  | ref =>
      rw [readKind, muted_readReference]
      rfl
  | enum | project | tableGroup | indexes =>
      simp only [readKind, muted_noticeBlock, muted_skipBlock]
      rfl
  | columnLike | note | brace | unknown =>
      rw [readKind, state.muted_report rfl]
      rfl

theorem muted_step (interrupts : Interrupts) (state : ReadState) :
    step policy.quiet interrupts state.muted line following =
      (step policy interrupts state line following).map (Prod.map muted id) := by
  unfold step
  dsimp only
  cases interrupts (LineKind.classify false line.text.toList) with
  | some reason => rfl
  | none =>
      simp only [muted_readKind]
      cases readKind policy state (LineKind.classify false line.text.toList) line following <;> rfl

/-- A quiet reading goes through the same lines. -/
theorem muted_readLines (interrupts : Interrupts) (state : ReadState) (lines : List SourceLine) :
    readLines policy.quiet interrupts state.muted lines =
      (readLines policy interrupts state lines).map muted id := by
  fun_induction readLines policy interrupts state lines with
  | case1 state => rw [readLines]; rfl
  | case2 state line following after rest done ih =>
      have quietly : step policy.quiet interrupts state.muted line following = .ok (after.muted, rest) := by
        rw [muted_step, done]
        rfl
      rw [readLines_cons quietly, ih]
  | case3 state line following failure failed =>
      have quietly : step policy.quiet interrupts state.muted line following = .error failure := by
        rw [muted_step, failed]
        rfl
      rw [readLines_cons_of_failure quietly]
      rfl

theorem missingTarget?_isUnknownSetting {catalog : Catalog} {target : Endpoint} {problem : Problem}
    (missing : missingTarget? catalog target = some problem) : problem.isUnknownSetting = false := by
  unfold missingTarget? at missing
  split at missing
  · cases missing
    rfl
  · split at missing
    · cases missing
    · cases missing
      rfl

theorem muted_dropInline (state : ReadState) (use : InlineUse) :
    state.muted.dropInline use =
      ((state.dropInline use).map muted).mapError (Prod.map muted id) := by
  have references : state.muted.references = state.references := rfl
  unfold dropInline
  rw [references]
  split <;> rfl

theorem muted_checkInline (check : TargetCheck) (state : ReadState) (use : InlineUse) :
    checkInline check state.muted use =
      ((checkInline check state use).map muted).mapError (Prod.map muted id) := by
  have catalog : state.muted.catalog = state.catalog := rfl
  unfold checkInline
  rw [catalog]
  cases missing : missingTarget? state.catalog use.reference.target with
  | none => rfl
  | some problem =>
      have other := missingTarget?_isUnknownSetting missing
      cases check with
      | ignore => rfl
      | warn =>
          simp only [state.muted_reportAs .warning other]
          rfl
      | fail =>
          simp only [state.muted_reportAs .error other]
          exact muted_dropInline _ use

theorem muted_checkInlines (check : TargetCheck) (state : ReadState) :
    checkInlines check state.muted =
      ((checkInlines check state).map muted).mapError (Prod.map muted id) := by
  have folded : ∀ (uses : List InlineUse) (state : ReadState),
      uses.foldlM (checkInline check) state.muted =
        ((uses.foldlM (checkInline check) state).map muted).mapError (Prod.map muted id) := by
    intro uses
    induction uses with
    | nil => exact fun _ => rfl
    | cons use uses ih =>
        intro state
        rw [List.foldlM_cons, List.foldlM_cons, muted_checkInline]
        cases checkInline check state use with
        | error failure => rfl
        | ok after => exact ih after
  cases check with
  | ignore => rfl
  | warn | fail => exact folded state.inlineUses state

/-- Quietly a script is read to the same end. -/
theorem muted_ofLines (policy : Policy) (interrupts : Interrupts) (lines : List SourceLine) :
    ofLines policy.quiet interrupts lines = (ofLines policy interrupts lines).muted := by
  have stopped : ∀ (state : ReadState) (line : Option SourceLine) (failure : Failure),
      state.muted.stop line failure = (state.stop line failure).muted := by
    intro state line failure
    cases line with
    | none => rfl
    | some line => exact state.muted_report rfl line
  have read := muted_readLines policy interrupts {} lines
  have initial : muted {} = {} := rfl
  rw [initial] at read
  have check : policy.quiet.targetCheck = policy.targetCheck := rfl
  unfold ofLines
  rw [read, check]
  obtain ⟨state, failure⟩ := readLines policy interrupts {} lines
  cases failure with
  | some failure => exact stopped state (some failure.1) failure.2
  | none =>
      simp only [Prod.map, id, muted_checkInlines]
      cases checkInlines policy.targetCheck state with
      | ok after => rfl
      | error failure => exact stopped failure.1 lines.getLast? failure.2

end ReadState

namespace Journal

theorem errors_muted (journal : Journal) : journal.muted.errors = journal.errors := by
  simp only [errors, ofSeverity, muted, List.filter_filter, Diagnostic.isError, Bool.and_or_distrib_left,
    Bool.and_self]
  exact List.filter_congr fun diagnostic _ => by cases diagnostic.severity <;> simp

theorem warnings_muted (journal : Journal) :
    journal.muted.warnings = journal.warnings.filter (!·.namesUnknownSetting) := by
  simp only [warnings, ofSeverity, muted, List.filter_filter, Diagnostic.isError]
  exact List.filter_congr fun diagnostic _ => by cases diagnostic.severity <;> simp

end Journal

/-- A quiet reading gives what a loud one gives, with fewer warnings. -/
theorem Reading.ofInterrupted_quiet (policy : Policy) (interrupts : Interrupts) (script : String) :
    ofInterrupted policy.quiet interrupts script =
      { ofInterrupted policy interrupts script with
        warnings := (ofInterrupted policy interrupts script).warnings.filter (!·.namesUnknownSetting) } := by
  let journal := (ReadState.ofLines policy interrupts (SourceLine.ofScript script)).journal
  simp only [ofInterrupted, ReadState.muted_ofLines]
  rw [Reading.mk.injEq]
  exact ⟨rfl, rfl, journal.errors_muted, journal.warnings_muted, rfl, rfl⟩

end TableScript
