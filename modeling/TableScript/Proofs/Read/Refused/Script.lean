import TableScript.Proofs.Read.Compared.Shifted
import TableScript.Proofs.Read.Refused.Body
import TableScript.Proofs.Read.Sound.Inline

/-! A line that is refused is as good as missing. It has used up no number, marked no column and declared
nothing, so that all lines behind it are read as if it were not there, and its error is the only thing that
is left of it. -/

namespace TableScript

namespace ReadState

/-- The line is dropped with an error where it stands: it begins a step for a reference and gives none, or
it is taken for a column in the body of a table that is accepted and gives none. -/
inductive RefusedLine (policy : Policy) (lines : List SourceLine) (line : SourceLine) : Prop where
  | reference {front behind : List SourceLine} {state : ReadState}
      (place : lines = front ++ line :: behind) (begins : line ∈ stepLines policy {} lines)
      (kind : LineKind.classify false line.text.toList = .ref)
      (reached : (readLines policy .none {} front).1 = state)
      (kept : (readReference policy state line).references = state.references)
  | column {front following body : List SourceLine} {header : SourceLine} {declared : TableHeader}
      {earlier later : List BodyItem} {state middle : ReadState} {table : Table}
      (place : lines = front ++ header :: following) (begins : header ∈ stepLines policy {} lines)
      (kind : LineKind.classify false header.text.toList = .table)
      (reached : (readLines policy .none {} front).1 = state)
      (read : TableHeader.read? header.text.toList = some declared)
      (accepted : declared.nameProblems state.catalog = [])
      (begun : declared.bodyLines? following = some body)
      (items : (Body.ofLines body).items = earlier ++ .column line :: later)
      (taken : earlier.foldl (takeBodyItem policy)
        (state.withHeader policy header declared, declared.table state.tablesNumbered) = (middle, table))
      (dropped : (readColumn policy table middle line).2 = none)

variable {policy : Policy} {state middle after : ReadState} {line header : SourceLine}
  {following rest front behind : List SourceLine} {table : Table} {declared : TableHeader}
  {earlier later : List BodyItem} {problem : Problem} {offset : Nat}

/-- A state beside the same state with one more notice. -/
def besideNotice (state : ReadState) (said : Diagnostic) : Comparison where
  pairs := Eq
  sameText := by
    rintro line _ rfl
    rfl
  before := state.journal
  otherBefore := state.journal ++ [said]

theorem alike_reportAt (state : ReadState) (problem : Problem) (line : SourceLine) (offset : Nat) :
    Alike (state.besideNotice (problem.foundAt line offset)) state (state.reportAt problem line offset) :=
  .ofSame state (fun _ _ => rfl) rfl rfl rfl (List.forall_mem_nil _)

theorem readReference_of_kept (kept : (readReference policy state line).references = state.references) :
    ∃ problem offset, problem.severity = .error ∧
      readReference policy state line = state.reportAt problem line offset := by
  rcases readReference_cases policy state line with
    ⟨written, source, _, _, given⟩ | ⟨problem, offset, refusal, reported⟩
  · rw [given] at kept
    simp [withReference] at kept
  · exact ⟨problem, offset, refusal.grave.1, reported⟩

theorem readColumn_of_none (dropped : (readColumn policy table state line).2 = none) :
    ∃ problem, problem.severity = .error ∧
      readColumn policy table state line = (state.report problem line, none) := by
  rcases readColumn_cases policy state table line with
    ⟨declared, _, _, given⟩ | ⟨problem, refusal, reported⟩
  · rw [given] at dropped
    cases dropped
  · exact ⟨problem, refusal.grave.1, reported⟩

theorem alike_foldl_refused
    (refused : readColumn policy table middle line = (middle.report problem line, none))
    (later : List BodyItem) :
    AlikeWith (middle.besideNotice (problem.foundAt line 0))
      (later.foldl (takeBodyItem policy) (middle, table))
      ((.column line :: later).foldl (takeBodyItem policy) (middle, table)) := by
  have dropped : takeBodyItem policy (middle, table) (.column line) =
      (middle.report problem line, table) := by
    simp only [takeBodyItem, refused]
  rw [List.foldl_cons, dropped]
  refine AlikeWith.foldl_same (fun table item together => ?_) later
    ⟨alike_reportAt middle problem line 0, rfl⟩
  refine together.takeBodyItem ?_ policy table
  cases item with
  | column line => exact .column rfl
  | note line => exact .note rfl
  | indexes line closed => exact .indexes closed rfl
  | other line => exact .other rfl

theorem readBody_of_bodyLines? {lines : List SourceLine} (begun : declared.bodyLines? following = some lines)
    (progress : ReadState × Table) :
    readBody policy header declared following progress =
      let read := (Body.ofLines lines).items.foldl (takeBodyItem policy) progress
      ((if (Body.ofLines lines).closed then read.1
        else read.1.report (.unclosedTable read.2.qualifiedName) header, read.2),
        (Body.ofLines lines).rest) := by
  rw [readBody, begun]

theorem exists_step_of_readLines (done : readLines policy .none state (line :: following) = (after, none)) :
    ∃ middle rest, step policy .none state line following = .ok (middle, rest) ∧
      readLines policy .none middle rest = (after, none) := by
  cases stepped : step policy .none state line following with
  | ok result => exact ⟨result.1, result.2, rfl, (readLines_cons stepped).symm.trans done⟩
  | error failure =>
      rw [readLines_cons_of_failure stepped] at done
      cases done

theorem not_mem_of_nodup (distinct : (front ++ line :: behind).Nodup) : line ∉ front ∧ line ∉ behind := by
  simpa using (List.nodup_cons.mp (List.nodup_middle.mp distinct)).1

theorem readLines_refusedReference (begins : line ∈ stepLines policy {} (front ++ line :: behind))
    (distinct : (front ++ line :: behind).Nodup)
    (kind : LineKind.classify false line.text.toList = .ref)
    (refused : readReference policy (readLines policy .none {} front).1 line =
      (readLines policy .none {} front).1.reportAt problem line offset)
    (next : ∀ next ∈ behind.head?, next.isOpening = false)
    (done : readLines policy .none {} (front ++ behind) = (after, none)) :
    ∃ longer, readLines policy .none {} (front ++ line :: behind) = (longer, none) ∧
      Alike ((readLines policy .none {} front).1.besideNotice (problem.foundAt line offset)) after
        longer := by
  obtain ⟨notBefore, notBehind⟩ := not_mem_of_nodup distinct
  obtain ⟨middle, complete, same, replaced⟩ := exists_middle begins notBefore notBehind
  have plain : LineKind.opensBlock line.text.toList = false := by
    rw [LineKind.opensBlock, kind]
    simp
  have stepped : step policy .none middle line behind =
      .ok (middle.reportAt problem line offset, behind) := by
    rw [complete] at refused
    rw [step_eq_ok_iff, kind, ← refused]
    exact ⟨rfl, rfl⟩
  rw [replaced behind (.ofMissing plain next [])] at done
  rw [same, readLines_cons stepped, complete]
  exact (alike_reportAt middle problem line offset).readLines (List.forall₂_same.mpr fun _ _ => rfl) done

theorem step_accepted_iff (kind : LineKind.classify false header.text.toList = .table)
    (read : TableHeader.read? header.text.toList = some declared)
    (accepted : declared.nameProblems state.catalog = []) {result : ReadState × List SourceLine} :
    step policy .none state header following = .ok result ↔
      readAcceptedTable policy state header declared following = .ok result := by
  rw [step_eq_ok_iff, kind, readKind, readTable, read]
  dsimp only
  rw [accepted]
  exact and_iff_right rfl

/-- Where a step begins at the header of a table that is accepted, the lines in front of it are read first,
then the table and then what the table leaves, whatever stands behind the header. -/
theorem readLines_accepted_iff (begins : header ∈ stepLines policy {} (front ++ header :: following))
    (distinct : (front ++ header :: following).Nodup)
    (kind : LineKind.classify false header.text.toList = .table)
    (read : TableHeader.read? header.text.toList = some declared)
    (accepted : declared.nameProblems (readLines policy .none {} front).1.catalog = [])
    (others : List SourceLine) :
    readLines policy .none {} (front ++ header :: others) = (after, none) ↔
      ∃ middle rest,
        readAcceptedTable policy (readLines policy .none {} front).1 header declared others =
            .ok (middle, rest) ∧
          readLines policy .none middle rest = (after, none) := by
  obtain ⟨notBefore, notBehind⟩ := not_mem_of_nodup distinct
  obtain ⟨state, complete, _, replaced⟩ := exists_middle begins notBefore notBehind
  rw [complete] at accepted ⊢
  rw [replaced _ (.ofSameHead header following others)]
  constructor
  · intro done
    obtain ⟨middle, rest, stepped, later⟩ := exists_step_of_readLines done
    exact ⟨middle, rest, (step_accepted_iff kind read accepted).mp stepped, later⟩
  · rintro ⟨middle, rest, table, later⟩
    exact (readLines_cons ((step_accepted_iff kind read accepted).mpr table)).trans later

section Column

variable {before taken : List SourceLine}
  (start : ∀ lines, declared.bodyLines? (taken ++ lines) = some lines)
  (place : Body.HasPlace (before ++ line :: behind) earlier line later before behind)
  (items : (Body.ofLines (before ++ line :: behind)).items = earlier ++ .column line :: later)
  (progress : earlier.foldl (takeBodyItem policy)
    (state.withHeader policy header declared, declared.table state.tablesNumbered) = (middle, table))
  (refused : readColumn policy table middle line = (middle.report problem line, none))
  (next : ∀ next ∈ behind.head?, next.isOpening = false)

include start place items progress refused next

/-- What a table is with the line of a column that is refused is what it is without the line, beside the
error. -/
theorem readAcceptedTable_refused
    (done : readAcceptedTable policy state header declared (taken ++ (before ++ behind)) =
      .ok (after, rest)) :
    ∃ longer, readAcceptedTable policy state header declared (taken ++ (before ++ line :: behind)) =
        .ok (longer, rest) ∧ Alike (middle.besideNotice (problem.foundAt line 0)) after longer := by
  have without := place.without next
  rw [readAcceptedTable_eq, readBody_of_bodyLines? (start _)] at done ⊢
  rw [without] at done
  dsimp only at done ⊢
  rw [List.foldl_append, progress] at done
  rw [items, List.foldl_append, progress]
  obtain ⟨short, long, given, read, reread, together⟩ :=
    (alike_foldl_refused refused later).exists_states
  rw [read] at done
  rw [reread]
  dsimp only at done ⊢
  -- The table may have been closed or not, on both sides alike.
  have ended : Alike (middle.besideNotice (problem.foundAt line 0))
      (if (Body.ofLines (before ++ line :: behind)).closed then short
        else short.report (.unclosedTable given.qualifiedName) header)
      (if (Body.ofLines (before ++ line :: behind)).closed then long
        else long.report (.unclosedTable given.qualifiedName) header) := by
    split
    · exact together
    · exact together.report rfl _
  rw [ended.catalog]
  split at done
  · rename_i catalog declares
    cases done
    rw [declares]
    exact ⟨_, rfl, ended.withCatalog catalog⟩
  · cases done

theorem readLines_refusedColumn
    (begins : header ∈ stepLines policy {} (front ++ header :: (taken ++ (before ++ line :: behind))))
    (distinct : (front ++ header :: (taken ++ (before ++ line :: behind))).Nodup)
    (kind : LineKind.classify false header.text.toList = .table)
    (reached : (readLines policy .none {} front).1 = state)
    (read : TableHeader.read? header.text.toList = some declared)
    (accepted : declared.nameProblems state.catalog = [])
    (done : readLines policy .none {} (front ++ header :: (taken ++ (before ++ behind))) = (after, none)) :
    ∃ longer, readLines policy .none {} (front ++ header :: (taken ++ (before ++ line :: behind))) =
        (longer, none) ∧ Alike (middle.besideNotice (problem.foundAt line 0)) after longer := by
  subst reached
  obtain ⟨_, rest, short, done⟩ := (readLines_accepted_iff begins distinct kind read accepted _).mp done
  obtain ⟨_, long, alike⟩ := readAcceptedTable_refused start place items progress refused next short
  obtain ⟨longer, again, alike⟩ := alike.readLines (List.forall₂_same.mpr fun _ _ => rfl) done
  refine ⟨longer, ?_, alike⟩
  exact (readLines_accepted_iff begins distinct kind read accepted _).mpr ⟨_, rest, long, again⟩

end Column

/-- Reading the lines with the refused one gives what reading them without it gives, beside one error. -/
theorem RefusedLine.exists_alike (refused : RefusedLine policy (front ++ line :: behind) line)
    (distinct : (front ++ line :: behind).Nodup)
    (next : ∀ next ∈ behind.head?, next.isOpening = false)
    (done : readLines policy .none {} (front ++ behind) = (after, none)) :
    ∃ (middle : ReadState) (problem : Problem) (offset : Nat) (longer : ReadState),
      problem.severity = .error ∧ readLines policy .none {} (front ++ line :: behind) = (longer, none) ∧
        Alike (middle.besideNotice (problem.foundAt line offset)) after longer := by
  obtain ⟨notBefore, notBehind⟩ := not_mem_of_nodup distinct
  cases refused with
  | reference place begins kind reached kept =>
      obtain ⟨rfl, _, rfl⟩ := (List.append_cons_inj_of_notMem notBefore notBehind).mp place
      subst reached
      obtain ⟨problem, offset, grave, reported⟩ := readReference_of_kept kept
      obtain ⟨longer, read, alike⟩ := readLines_refusedReference begins distinct kind reported next done
      exact ⟨_, problem, offset, longer, grave, read, alike⟩
  | @column beforeTable _ _ header _ _ _ _ _ _ split begins kind reached read accepted begun items progress
      dropped =>
      obtain ⟨before, later, place⟩ := Body.exists_place items
      obtain ⟨taken, rfl, start⟩ := TableHeader.bodyLines?_front begun
      obtain ⟨problem, grave, reported⟩ := readColumn_of_none dropped
      cases place.split
      have whole : front ++ line :: behind =
          (beforeTable ++ header :: (taken ++ before)) ++ line :: later := by
        rw [split]
        simp
      obtain ⟨rfl, _, rfl⟩ := (List.append_cons_inj_of_notMem notBefore notBehind).mp whole
      rw [split] at begins distinct ⊢
      have without : beforeTable ++ header :: (taken ++ before) ++ behind =
          beforeTable ++ header :: (taken ++ (before ++ behind)) := by simp
      rw [without] at done
      obtain ⟨longer, whole, alike⟩ := readLines_refusedColumn start place items progress reported next
        begins distinct kind reached read accepted done
      exact ⟨_, problem, 0, longer, grave, whole, alike⟩

/-- Two scripts side by side, of which the second has the lines from that number on further down. -/
def movedFrom (number count : Nat) : Comparison where
  pairs := fun line other => other = line.shifted number count
  sameText := @SourceLine.text_of_eq_shifted number count

theorem alike_movedFrom (number count : Nat) : Alike (movedFrom number count) {} {} :=
  Alike.refl {} _ (movedFrom number count).sameText (by simp)

/-- Behind lines that were moved on and beside one more error, the diagnostics are those from before, moved
on, and the error among them. -/
theorem Alike.saidAmong_moved {number count : Nat} {said : Diagnostic} {short moved long : ReadState}
    (alike : Alike (movedFrom number count) short moved)
    (beside : Alike (middle.besideNotice said) moved long) (severity : Severity) :
    Diagnostic.SaidAmong number count (Journal.ofSeverity [said] severity)
      (short.journal.ofSeverity severity) (long.journal.ofSeverity severity) := by
  obtain ⟨found, others, one, two, pairs⟩ := alike.ofSeverity severity
  obtain ⟨later, same, three, four, equals⟩ := beside.ofSeverity severity
  have sameLater : same = later :=
    (List.forall₂_eq_eq_eq ▸ equals.imp fun _ _ alike => alike.eq.symm : later = same).symm
  have movedFound : found.map (Diagnostic.shifted number count) =
      middle.journal.ofSeverity severity ++ later := by
    rw [← Diagnostic.eq_map_shifted pairs]
    exact two.symm.trans three
  obtain ⟨first, last, rfl, movedFirst, movedLast⟩ := List.map_eq_append_iff.mp movedFound
  refine ⟨first, last, one, ?_⟩
  rw [four, movedFirst, movedLast, sameLater]
  exact congrArg (· ++ _) (List.filter_append _ _)

end ReadState

namespace Reading

variable {policy : Policy} {script : String} {front behind : List SourceLine} {line : SourceLine}

/-- A line that is refused is as good as missing. Without it the script has the same tables, references and
features, and the same diagnostics, those behind it moved up, except for one error of the line. -/
theorem ofScript_refusedLine (lines : SourceLine.ofScript script = front ++ line :: behind)
    (next : ∀ next ∈ behind.head?, next.isOpening = false)
    (refused : ReadState.RefusedLine policy (SourceLine.ofScript script) line) :
    let original := ofScript policy script
    let reading := ofScript policy (SourceLine.textWithout script line.number)
    original.tables = reading.tables ∧ original.references = reading.references ∧
      original.features = reading.features ∧ original.lineCount = reading.lineCount + 1 ∧
      (∃ problem offset, Problem.severity problem = .error ∧
        Diagnostic.SaidAmong line.number 1 [problem.foundAt line offset] reading.errors original.errors) ∧
      original.warnings = reading.warnings.map (Diagnostic.shifted line.number 1) := by
  intro original reading
  obtain ⟨left, shorterLines, rfl, late⟩ := SourceLine.ofScript_textWithout lines
  obtain ⟨smaller, _⟩ := SourceLine.number_lt_of_split lines
  have distinct := SourceLine.nodup_ofScript script
  obtain ⟨_, last, whole, _, checked, _, finished⟩ :=
    ReadState.ofLines_checked policy (SourceLine.textWithout script line.number)
  obtain ⟨_, final, longerWhole, _, rechecked, _, refinished⟩ := ReadState.ofLines_checked policy script
  rw [shorterLines] at whole
  rw [lines] at longerWhole refused distinct
  -- The lines behind the refused one are moved up first, then the refused one is put in front of them.
  have aligned : List.Forall₂ (ReadState.movedFrom line.number 1).pairs (front ++ left)
      (front ++ left.map (·.movedBy 1)) := by
    refine List.rel_append (List.forall₂_same.mpr fun other member => ?_)
      (SourceLine.forall₂_shifted late 1)
    exact (if_neg (Nat.not_le_of_lt (smaller other member))).symm
  obtain ⟨_, movedWhole, moved⟩ := (ReadState.alike_movedFrom line.number 1).readLines aligned whole
  obtain ⟨middle, problem, offset, _, grave, again, beside⟩ :=
    refused.exists_alike distinct next movedWhole
  rw [longerWhole] at again
  cases again
  obtain ⟨_, movedChecked, moved⟩ := moved.checkInlines checked
  obtain ⟨_, checkedAgain, beside⟩ := beside.checkInlines movedChecked
  rw [rechecked] at checkedAgain
  cases checkedAgain
  have errors := moved.saidAmong_moved beside .error
  have warnings := moved.saidAmong_moved beside .warning
  have features := beside.featuresUsed.trans moved.featuresUsed
  simp only [original, reading, ofScript, ofInterrupted, finished, refinished]
  refine ⟨congrArg Catalog.tables (beside.catalog.trans moved.catalog),
    beside.references.trans moved.references, ?_, ?_, ⟨problem, offset, grave, ?_⟩, ?_⟩
  · simpa [ReadState.besideNotice, ReadState.movedFrom] using features
  · simp [lines, shorterLines, Nat.add_assoc]
  · have said : Journal.ofSeverity [problem.foundAt line offset] .error = [problem.foundAt line offset] := by
      simp [Journal.ofSeverity, grave]
    exact said ▸ errors
  · have silent : Journal.ofSeverity [problem.foundAt line offset] .warning = [] := by
      simp [Journal.ofSeverity, grave]
    exact Diagnostic.SaidAmong.eq_map (silent ▸ warnings)

/-- A column with a number for a name, and a reference to a column that is not there. -/
theorem ofScript_refusedLine_column_reference :
    let script := "Table a \x7b\n  id integer\n  9 integer [ref: > a.id]\n\x7d\n" ++
      "Ref: a.id > a.x\nRef: a.id > a.id"
    let column : SourceLine := ⟨"9 integer [ref: > a.id]", 3, 2⟩
    let reference : SourceLine := ⟨"Ref: a.id > a.x", 5, 0⟩
    ReadState.RefusedLine {} (SourceLine.ofScript script) column ∧
      ReadState.RefusedLine {} (SourceLine.ofScript script) reference ∧
      (ofScript {} script).tables = (ofScript {} (SourceLine.textWithout script 3)).tables ∧
      (ofScript {} script).references = (ofScript {} (SourceLine.textWithout script 5)).references := by
  intro script column reference
  let header : SourceLine := ⟨"Table a \x7b", 1, 0⟩
  let first : SourceLine := ⟨"id integer", 2, 2⟩
  let body : List SourceLine := [first, column, ⟨"\x7d", 4, 0⟩]
  let last : List SourceLine := [⟨"Ref: a.id > a.id", 6, 0⟩]
  have whole : SourceLine.ofScript script = [] ++ header :: (body ++ reference :: last) := by decide +kernel
  have read : TableHeader.read? header.text.toList = some ⟨['a'], 6, none, true⟩ := by decide +kernel
  have items : (Body.ofLines (body ++ reference :: last)).items =
      [.column first] ++ .column column :: [] := by decide +kernel
  have refusedColumn : ReadState.RefusedLine {} (SourceLine.ofScript script) column :=
    .column whole (by decide +kernel) (by decide +kernel) rfl read (by decide +kernel) rfl items rfl
      (by decide +kernel)
  have beforeReference : SourceLine.ofScript script = (header :: body) ++ reference :: last := whole
  have refusedReference : ReadState.RefusedLine {} (SourceLine.ofScript script) reference :=
    .reference beforeReference (by decide +kernel) (by decide +kernel) rfl (by decide +kernel)
  have beforeColumn : SourceLine.ofScript script =
      [header, first] ++ column :: ⟨"\x7d", 4, 0⟩ :: reference :: last := whole
  have tables := (ofScript_refusedLine beforeColumn (by decide) refusedColumn).1
  have references := (ofScript_refusedLine beforeReference (by decide) refusedReference).2.1
  exact ⟨refusedColumn, refusedReference, tables, references⟩

end Reading

end TableScript
