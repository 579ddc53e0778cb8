import TableScript.Proofs.Read.Compared.Shifted
import TableScript.Proofs.Read.Finding
import TableScript.Proofs.Read.Replacement

namespace TableScript

namespace SourceLine

/-- How many braces the lines open that they do not close. -/
def depthBehind : List SourceLine → Int
  | [] => 0
  | line :: lines => line.balance + depthBehind lines

/-- The braces of the lines balance behind the last of them and nowhere before. -/
def BalanceAtEnd (lines : List SourceLine) : Prop :=
  (∀ count < lines.length, 0 < count → 0 < depthBehind (lines.take count)) ∧ depthBehind lines ≤ 0

end SourceLine

namespace Skipped

variable {depth : Int} {header : SourceLine} {lines : List SourceLine}

theorem toDepthZero_of_balanceAtEnd
    (opened : ∀ count < lines.length, 0 < depth + SourceLine.depthBehind (lines.take count))
    (closed : depth + SourceLine.depthBehind lines ≤ 0) (rest : List SourceLine) :
    toDepthZero depth (lines ++ rest) = ⟨true, rest⟩ := by
  induction lines generalizing depth with
  | nil =>
      have balanced : depth ≤ 0 := by simpa [SourceLine.depthBehind] using closed
      cases rest <;> simp [toDepthZero, balanced]
  | cons line lines ih =>
      have inside : ¬depth ≤ 0 := by simpa [SourceLine.depthBehind] using opened 0 (by simp)
      rw [List.cons_append, toDepthZero, if_neg inside]
      refine ih (fun count fits => ?_) ?_
      · have next := opened (count + 1) (by simpa using fits)
        rw [List.take_succ_cons, SourceLine.depthBehind] at next
        omega
      · rw [SourceLine.depthBehind] at closed
        omega

theorem ofHeader_of_balanceAtEnd (balanced : SourceLine.BalanceAtEnd (header :: lines))
    (nonempty : lines ≠ []) (rest : List SourceLine) :
    ofHeader header (lines ++ rest) = ⟨true, rest⟩ := by
  obtain ⟨opened, closed⟩ := balanced
  have several : 0 < lines.length := List.length_pos_iff.mpr nonempty
  have begun : 0 < header.balance + 0 := opened 1 (by rw [List.length_cons]; omega) Nat.one_pos
  unfold ofHeader
  rw [if_neg (by omega)]
  refine toDepthZero_of_balanceAtEnd (fun count fits => ?_) closed rest
  exact opened (count + 1) (by simpa using fits) (Nat.succ_pos count)

end Skipped

/-- The block of the top level that a line of the kind begins, if such blocks are not modelled. -/
def LineKind.skippedBlock? : LineKind → Option SkippedBlock
  | .enum => some .enum
  | .project => some .project
  | .tableGroup => some .tableGroup
  | _ => none

namespace ReadState

/-- The block that the header begins is skipped here, with what is said of its header and the feature that is
noted: it is a block that is not modelled, or a table whose header is not accepted. -/
inductive Skips (state : ReadState) (header : SourceLine) :
    List (Problem × Nat) → Option String → Prop where
  | unmodeled {block : SkippedBlock}
      (kind : (LineKind.classify false header.text.toList).skippedBlock? = some block) :
      Skips state header [(.skippedBlock block header.text, 0)]
        (some (LineKind.classify false header.text.toList).featureTag)
  | malformed (kind : LineKind.classify false header.text.toList = .table)
      (unread : TableHeader.read? header.text.toList = none) :
      Skips state header [(.badTableHeader header.text, 0)] none
  | rejected {declared : TableHeader}
      (kind : LineKind.classify false header.text.toList = .table)
      (read : TableHeader.read? header.text.toList = some declared)
      (problems : declared.nameProblems state.catalog ≠ []) :
      Skips state header (declared.nameProblems state.catalog) none

/-- The state behind a block that was skipped. -/
def skipping (state : ReadState) (header : SourceLine) (problems : List (Problem × Nat))
    (tag : Option String) : ReadState :=
  (tag.elim state state.addFeature).reportAll header problems

variable {policy : Policy} {state : ReadState} {header first : SourceLine} {problems : List (Problem × Nat)}
  {tag : Option String} {body front behind lines : List SourceLine}

theorem Skips.opensBlock (skips : state.Skips header problems tag)
    (brace : header.text.toList.getLast? = some '{') :
    LineKind.opensBlock header.text.toList = true := by
  unfold LineKind.opensBlock
  rw [brace, beq_self_eq_true, Bool.true_and]
  cases skips with
  | unmodeled kind =>
      generalize LineKind.classify false header.text.toList = found at kind ⊢
      cases found <;> first | rfl | cases kind
  | malformed kind => rw [kind]
  | rejected kind => rw [kind]

theorem skipBlock_of_balanceAtEnd (state : ReadState)
    (balanced : SourceLine.BalanceAtEnd (header :: body)) (nonempty : body ≠ []) (rest : List SourceLine) :
    state.skipBlock header (body ++ rest) = (state, rest) := by
  unfold skipBlock
  rw [Skipped.ofHeader_of_balanceAtEnd balanced nonempty]
  rfl

/-- A step at the header of the block says what is to be said of the header and skips what it begins. -/
theorem Skips.step_eq_skipBlock (skips : state.Skips header problems tag) (following : List SourceLine) :
    step policy .none state header following =
      .ok ((state.skipping header problems tag).skipBlock header following) := by
  refine step_eq_ok_iff.mpr ⟨rfl, ?_⟩
  cases skips with
  | unmodeled kind =>
      generalize LineKind.classify false header.text.toList = found at kind ⊢
      cases found with
      | enum | project | tableGroup =>
          cases kind
          rfl
      | table | ref | columnLike | note | indexes | brace | unknown => cases kind
  | malformed kind unread =>
      rw [kind]
      simp only [readKind, readTable, unread]
      rfl
  | @rejected declared kind read rejected =>
      rw [kind]
      simp only [readKind, readTable, read]
      cases problems : declared.nameProblems state.catalog with
      | nil => exact absurd problems rejected
      | cons problem problems => rfl

/-- Where its braces balance at its end, the step passes just the block. -/
theorem Skips.step_eq (skips : state.Skips header problems tag)
    (balanced : SourceLine.BalanceAtEnd (header :: body)) (nonempty : body ≠ []) (rest : List SourceLine) :
    step policy .none state header (body ++ rest) =
      .ok (state.skipping header problems tag, rest) := by
  rw [skips.step_eq_skipBlock, skipBlock_of_balanceAtEnd _ balanced nonempty]

/-- Up to a line at which a step begins, everything is read before that step, and it makes no difference
whether that line or the header of another block stands there. -/
theorem exists_reached (begins : first ∈ stepLines policy state (front ++ first :: behind))
    (notBefore : first ∉ front) (notBehind : first ∉ behind) :
    ∃ middle, readLines policy .none state front = (middle, none) ∧
      readLines policy .none state (front ++ first :: behind) =
        readLines policy .none middle (first :: behind) ∧
      ∀ header block, LineKind.opensBlock header.text.toList = true →
        readLines policy .none state (front ++ header :: block) =
          readLines policy .none middle (header :: block) := by
  obtain ⟨middle, complete, same, replaced⟩ := exists_middle begins notBefore notBehind
  exact ⟨middle, complete, same, fun header block opens =>
    replaced _ (.ofHeader (List.cons_ne_nil first behind) opens block)⟩

/-- What was read of lines stands in them. -/
theorem stands_of_readLines {middle : ReadState}
    (complete : readLines policy .none {} lines = (middle, none)) :
    (∀ use ∈ middle.inlineUses, use.line ∈ lines) ∧
      ∀ diagnostic ∈ middle.journal, ∃ line ∈ lines, diagnostic.line = line.number := by
  have stands : (readLines policy .none {} lines).1.StandsIn lines :=
    StandsIn.initial.readLines (List.Subset.refl lines)
  rw [complete] at stands
  refine ⟨fun use among => (stands.inlineUses use among).1, fun diagnostic member => ?_⟩
  obtain ⟨line, among, _, _, _, _, rfl⟩ := stands.journal diagnostic member
  exact ⟨line, among, rfl⟩

theorem reportAll_eq_adding (state : ReadState) (line : SourceLine) (problems : List (Problem × Nat)) :
    state.reportAll line problems =
      state.adding [] (problems.map fun (problem, offset) => problem.foundAt line offset) := by
  induction problems generalizing state with
  | nil => exact adding_nil.symm
  | cons found problems ih =>
      have rest := ih (state.reportAt found.1 line found.2)
      rw [reportAt_eq_adding, adding_adding] at rest
      rw [← reportAt_eq_adding] at rest
      exact rest

/-- Two scripts side by side behind a block that only the second one has. -/
def behindBlock (middle : ReadState) (number count : Nat) (said : Journal) (tag : Option String) :
    Comparison where
  pairs := fun line other => other = line.shifted number count
  sameText := @SourceLine.text_of_eq_shifted number count
  before := middle.journal
  otherBefore := middle.journal ++ said
  known := tag.toList

theorem exists_noted (state : ReadState) (tag : Option String) :
    ∃ features, tag.elim state state.addFeature = { state with features } ∧
      features.filter (· ∉ tag.toList) = state.features.filter (· ∉ tag.toList) ∧
      ∀ noted ∈ tag.toList, noted ∈ features := by
  cases tag with
  | none => exact ⟨state.features, rfl, rfl, List.forall_mem_nil _⟩
  | some tag =>
      by_cases known : tag ∈ state.features
      · refine ⟨state.features, ?_, rfl, by simpa using known⟩
        rw [Option.elim_some, addFeature, if_pos known]
      · refine ⟨state.features ++ [tag], ?_, ?_, by simp⟩
        · rw [Option.elim_some, addFeature, if_neg known]
        · simp

theorem alike_skipping {number : Nat} (earlier : ∀ use ∈ state.inlineUses, use.line.number < number)
    (count : Nat) (header : SourceLine) (problems : List (Problem × Nat)) (tag : Option String) :
    Alike (behindBlock state number count
        (problems.map fun (problem, offset) => problem.foundAt header offset) tag)
      state (state.skipping header problems tag) := by
  have stays : ∀ use ∈ state.inlineUses, use.line = use.line.shifted number count := by
    intro use member
    rw [SourceLine.shifted, if_neg (Nat.not_le_of_lt (earlier use member))]
  obtain ⟨features, noted, same, known⟩ := exists_noted state tag
  rw [skipping, reportAll_eq_adding, noted, adding]
  simp only [List.map_nil, List.append_nil, List.length_nil, Nat.add_zero]
  exact .ofSame state stays rfl rfl same known

end ReadState

theorem ReadState.Alike.saidAmong {number count : Nat} {said : Journal} {tag : Option String}
    {middle last final : ReadState} (alike : Alike (behindBlock middle number count said tag) last final)
    (earlier : ∀ diagnostic ∈ middle.journal, diagnostic.line < number) (severity : Severity) :
    Diagnostic.SaidAmong number count (said.ofSeverity severity) (last.journal.ofSeverity severity)
      (final.journal.ofSeverity severity) := by
  obtain ⟨later, others, one, two, pairs⟩ := alike.ofSeverity severity
  have stays : (middle.journal.ofSeverity severity).map (Diagnostic.shifted number count) =
      middle.journal.ofSeverity severity :=
    Diagnostic.map_shifted_eq_self fun diagnostic member =>
      earlier diagnostic (List.mem_of_mem_filter member)
  refine ⟨middle.journal.ofSeverity severity, later, one, ?_⟩
  rw [two, stays, Diagnostic.eq_map_shifted pairs]
  exact congrArg (· ++ _) (List.filter_append _ _)

namespace Reading

variable {policy : Policy} {script longer : String} {front behind body : List SourceLine}
  {first header : SourceLine} {count : Nat} {problems : List (Problem × Nat)} {tag : Option String}

/-- Where both scripts are read alike up to a block that only the second one has and that is skipped, and the
second one goes on behind it with the same lines, moved on, what is said of the header of the block is all
that the second one has more. -/
theorem ofScript_behindBlock {middle : ReadState} {lines : List SourceLine} {number : Nat}
    (read : ReadState.readLines policy .none {} (SourceLine.ofScript script) =
      ReadState.readLines policy .none middle lines)
    (reread : ReadState.readLines policy .none {} (SourceLine.ofScript longer) =
      ReadState.readLines policy .none (middle.skipping header problems tag) (lines.map (·.movedBy count)))
    (standing : ∀ use ∈ middle.inlineUses, use.line.number < number)
    (earlier : ∀ diagnostic ∈ middle.journal, diagnostic.line < number)
    (late : ∀ line ∈ lines, number ≤ line.number) :
    let reading := ofScript policy script
    let inserted := ofScript policy longer
    let said : Journal := problems.map fun (problem, offset) => problem.foundAt header offset
    inserted.tables = reading.tables ∧ inserted.references = reading.references ∧
      Diagnostic.SaidAmong number count said.errors reading.errors inserted.errors ∧
      Diagnostic.SaidAmong number count said.warnings reading.warnings inserted.warnings ∧
      inserted.features.filter (· ∉ tag.toList) = reading.features.filter (· ∉ tag.toList) ∧
      ∀ noted ∈ tag, noted ∈ inserted.features := by
  intro reading inserted said
  obtain ⟨_, last, whole, _, checked, _, finished⟩ := ReadState.ofLines_checked policy script
  obtain ⟨_, final, longerWhole, _, rechecked, _, refinished⟩ := ReadState.ofLines_checked policy longer
  rw [read] at whole
  rw [reread] at longerWhole
  have start := ReadState.alike_skipping standing count header problems tag
  obtain ⟨_, again, together⟩ := start.readLines (SourceLine.forall₂_shifted late count) whole
  rw [longerWhole] at again
  cases again
  obtain ⟨_, checkedAgain, alike⟩ := together.checkInlines checked
  rw [rechecked] at checkedAgain
  cases checkedAgain
  have features := alike.featuresUsed
  simp only [reading, inserted, ofScript, ofInterrupted, finished, refinished]
  refine ⟨congrArg Catalog.tables alike.catalog, alike.references, alike.saidAmong earlier .error,
    alike.saidAmong earlier .warning, features, fun noted member => ?_⟩
  exact List.mem_append_right _ (alike.known noted (Option.mem_toList.mpr member))

/-- Reading is the same with a block in front of a line where a step begins, if the block is skipped there:
its braces balance at its last line, and its header is that of a block that is not modelled or of a table
that is not accepted. What is said of the header comes between what was found before and what is found
behind, and nothing depends on what stands in the block. -/
theorem ofScript_skippedBlock
    (lines : SourceLine.ofScript script = front ++ first :: behind)
    (begins : first ∈ ReadState.stepLines policy {} (SourceLine.ofScript script))
    (longerLines : SourceLine.ofScript longer =
      front ++ header :: (body ++ (first :: behind).map (·.movedBy count)))
    (brace : header.text.toList.getLast? = some '{') (several : body ≠ [])
    (balanced : SourceLine.BalanceAtEnd (header :: body))
    (skips : (ReadState.readLines policy .none {} front).1.Skips header problems tag) :
    let reading := ofScript policy script
    let inserted := ofScript policy longer
    let said : Journal := problems.map fun (problem, offset) => problem.foundAt header offset
    inserted.tables = reading.tables ∧ inserted.references = reading.references ∧
      Diagnostic.SaidAmong first.number count said.errors reading.errors inserted.errors ∧
      Diagnostic.SaidAmong first.number count said.warnings reading.warnings inserted.warnings ∧
      inserted.features.filter (· ∉ tag.toList) = reading.features.filter (· ∉ tag.toList) ∧
      ∀ noted ∈ tag, noted ∈ inserted.features := by
  obtain ⟨before, after⟩ := SourceLine.number_lt_of_split lines
  -- Both scripts are read alike up to the line and the block in front of it.
  rw [lines] at begins
  obtain ⟨middle, complete, same, put⟩ := ReadState.exists_reached begins
    (fun member => Nat.lt_irrefl _ (before first member)) (fun member => Nat.lt_irrefl _ (after first member))
  rw [complete] at skips
  have stepped : ReadState.step policy .none middle header
        (body ++ (first :: behind).map (·.movedBy count)) =
      .ok (middle.skipping header problems tag, (first :: behind).map (·.movedBy count)) :=
    skips.step_eq balanced several _
  obtain ⟨standing, found⟩ := ReadState.stands_of_readLines complete
  refine ofScript_behindBlock (by rw [lines, same]) ?_
    (fun use member => before _ (standing use member)) ?_ ?_
  · rw [longerLines, put header _ (skips.opensBlock brace), ReadState.readLines_cons stepped]
  · intro diagnostic member
    obtain ⟨line, inFront, place⟩ := found diagnostic member
    exact place ▸ Int.ofNat_lt.mpr (before line inFront)
  · exact List.forall_mem_cons.mpr ⟨Nat.le_refl _, fun line later => Nat.le_of_lt (after line later)⟩

/-- A table that is never closed, then the header of another one, and between them a block that holds what
looks like a table. -/
theorem ofScript_skippedBlock_unclosed :
    let script := "Table a \x7b\n  id integer [ref: > b.x]\nTable b \x7b\n  x integer\n\x7d"
    let longer := "Table a \x7b\n  id integer [ref: > b.x]\nEnum e \x7b\n  Table z \x7b\n  \x7d\n\x7d\n" ++
      "Table b \x7b\n  x integer\n\x7d"
    let front : List SourceLine := [⟨"Table a \x7b", 1, 0⟩, ⟨"id integer [ref: > b.x]", 2, 2⟩]
    let first : SourceLine := ⟨"Table b \x7b", 3, 0⟩
    let behind : List SourceLine := [⟨"x integer", 4, 2⟩, ⟨"\x7d", 5, 0⟩]
    let header : SourceLine := ⟨"Enum e \x7b", 3, 0⟩
    let body : List SourceLine := [⟨"Table z \x7b", 4, 2⟩, ⟨"\x7d", 5, 2⟩, ⟨"\x7d", 6, 0⟩]
    SourceLine.ofScript script = front ++ first :: behind ∧
      first ∈ ReadState.stepLines {} {} (SourceLine.ofScript script) ∧
      SourceLine.ofScript longer = front ++ header :: (body ++ (first :: behind).map (·.movedBy 4)) ∧
      (ofScript {} longer).tables = (ofScript {} script).tables ∧
      (ofScript {} longer).references = (ofScript {} script).references ∧
      Diagnostic.SaidAmong 3 4 [] (ofScript {} script).errors (ofScript {} longer).errors ∧
      Diagnostic.SaidAmong 3 4 [(Problem.skippedBlock .enum "Enum e \x7b").foundAt header 0]
        (ofScript {} script).warnings (ofScript {} longer).warnings := by
  intro script longer front first behind header body
  have lines : SourceLine.ofScript script = front ++ first :: behind := by decide +kernel
  have begins : first ∈ ReadState.stepLines {} {} (SourceLine.ofScript script) := by decide +kernel
  have longerLines : SourceLine.ofScript longer =
      front ++ header :: (body ++ (first :: behind).map (·.movedBy 4)) := by decide +kernel
  have balanced : SourceLine.BalanceAtEnd (header :: body) := by
    unfold SourceLine.BalanceAtEnd
    decide +kernel
  have unmodeled : (LineKind.classify false header.text.toList).skippedBlock? = some .enum := by
    decide +kernel
  obtain ⟨tables, references, errors, warnings, _⟩ :=
    ofScript_skippedBlock lines begins longerLines (by decide +kernel) (by decide) balanced
      (ReadState.Skips.unmodeled unmodeled)
  exact ⟨lines, begins, longerLines, tables, references, errors, warnings⟩

end Reading

end TableScript
