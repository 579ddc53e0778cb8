import TableScript.Proofs.Read.BlockEnd
import TableScript.Proofs.Read.Trace

/-! A table that is written twice. The first copy ends at a brace on a line of its own. The second copy is not
accepted, and it ends where the braces of its lines balance. It leaves nothing behind but one error where
both ends are the same; elsewhere some of its lines are read as if they stood behind it, or lines that do
stand behind it are lost. -/

namespace TableScript

/-- The script is one table that is read without an error and that its last line closes. -/
structure IsTableBlock (policy : Policy) (script : String) (header : SourceLine) (body : List SourceLine) :
    Prop where
  lines : SourceLine.ofScript script = header :: body
  kind : LineKind.classify false header.text.toList = .table
  brace : header.text.toList.getLast? = some '\x7b'
  clean : (Reading.ofScript policy script).errors = []
  closed : (Body.ofLines body).closed = true
  rest : (Body.ofLines body).rest = []

/-- The name in a header that was accepted is forbidden for being taken from then on. -/
theorem TableHeader.nameProblems_of_contains {header : TableHeader} {before after : Catalog}
    (allowed : header.nameProblems before = [])
    (taken : after.contains ⟨header.nameParts.1.map String.ofList, String.ofList header.nameParts.2⟩ = true) :
    header.nameProblems after = [(.duplicateTable (String.ofList header.name), header.nameOffset)] := by
  obtain ⟨named, qualified, _⟩ := isIdentifier_of_nameProblems_eq_nil allowed
  unfold nameProblems
  cases parts : header.nameParts with
  | mk schema name =>
      rw [parts] at named qualified taken
      cases schema with
      | none => simp [named, show after.contains ⟨none, String.ofList name⟩ = true from taken]
      | some text =>
          have good : Lexeme.isIdentifier text = true := qualified text rfl
          have known : after.contains ⟨some (String.ofList text), String.ofList name⟩ = true := taken
          simp [named, good, known]

/-- The second reading has one error more than the first one. The lines from that number on are moved on. -/
structure Reading.AddsOneError (number count : Nat) (said : Diagnostic) (first second : Reading) : Prop where
  tables : second.tables = first.tables
  references : second.references = first.references
  errors : Diagnostic.SaidAmong number count [said] first.errors second.errors
  warnings : second.warnings = first.warnings.map (Diagnostic.shifted number count)

namespace Reading

variable {number count : Nat} {said diagnostic : Diagnostic} {first second : Reading}

/-- What the second reading says is the one error more, or it is said by the first reading too. -/
theorem AddsOneError.eq_or_exists_of_mem (adds : AddsOneError number count said first second)
    (member : diagnostic ∈ second.errors ++ second.warnings) :
    diagnostic = said ∨ ∃ same ∈ first.errors ++ first.warnings, diagnostic = same.shifted number count := by
  obtain ⟨earlier, later, errors, more⟩ := adds.errors
  rw [more, adds.warnings] at member
  rw [errors]
  simp only [List.mem_append, List.mem_map, List.mem_singleton] at member ⊢
  rcases member with ((⟨same, among, rfl⟩ | rfl) | ⟨same, among, rfl⟩) | ⟨same, among, rfl⟩
  · exact .inr ⟨same, .inl (.inl among), rfl⟩
  · exact .inl rfl
  · exact .inr ⟨same, .inl (.inr among), rfl⟩
  · exact .inr ⟨same, .inr among, rfl⟩

/-- Where the first reading says nothing behind the line after the given ones, the second one says nothing
else behind them than the one error more and what is said of that line. -/
theorem AddsOneError.line_of_mem (adds : AddsOneError (count + 1) count said first second)
    (lines : ∀ same ∈ first.errors ++ first.warnings,
      same.line < (count + 1 : Nat) ∨ same.line = (1 + count : Nat))
    (member : diagnostic ∈ second.errors ++ second.warnings) :
    diagnostic.line ≤ count ∨ diagnostic = said ∨ diagnostic.line = 1 + count + count := by
  rcases adds.eq_or_exists_of_mem member with rfl | ⟨same, among, rfl⟩
  · exact .inr (.inl rfl)
  · rcases lines same among with early | last
    · rw [Diagnostic.shifted, if_neg (by omega)]
      omega
    · rw [Diagnostic.shifted, if_pos (by omega)]
      dsimp only
      omega

theorem AddsOneError.shifted_mem (adds : AddsOneError number count said first second)
    (member : diagnostic ∈ first.errors) : diagnostic.shifted number count ∈ second.errors := by
  obtain ⟨earlier, later, errors, more⟩ := adds.errors
  rw [errors] at member
  rw [more]
  simp only [List.mem_append, List.mem_map, List.mem_singleton] at member ⊢
  exact member.elim (fun early => .inl (.inl ⟨_, early, rfl⟩)) fun late => .inr ⟨_, late, rfl⟩

/-- An error that the first reading reports on the line after the given ones is reported by the second reading
too, as many lines further on. -/
theorem AddsOneError.exists_line_eq (adds : AddsOneError (count + 1) count said first second)
    (member : diagnostic ∈ first.errors) (place : diagnostic.line = (1 + count : Nat)) :
    ∃ found ∈ second.errors, found.line = 1 + count + count := by
  refine ⟨_, adds.shifted_mem member, ?_⟩
  rw [Diagnostic.shifted, if_pos (by omega)]
  dsimp only
  omega

/-- Where targets are not looked after, a script gives what its lines give. -/
theorem ofScript_of_readLines {script : String} {state : ReadState}
    (read : ReadState.readLines {} .none {} (SourceLine.ofScript script) = (state, none)) :
    (ofScript {} script).tables = state.catalog.tables ∧
      (ofScript {} script).references = state.references ∧
      (ofScript {} script).errors = state.journal.errors ∧
      (ofScript {} script).warnings = state.journal.warnings := by
  simp only [ofScript, ofInterrupted, ReadState.ofLines, read]
  exact ⟨rfl, rfl, rfl, rfl⟩

end Reading

/-- Every diagnostic is an error or a warning. -/
theorem Journal.mem_errors_append_warnings {journal : Journal} {diagnostic : Diagnostic} :
    diagnostic ∈ journal.errors ++ journal.warnings ↔ diagnostic ∈ journal := by
  rw [List.mem_append]
  refine ⟨fun member => member.elim List.mem_of_mem_filter List.mem_of_mem_filter, fun member => ?_⟩
  cases severity : diagnostic.severity with
  | error => exact .inl (mem_errors member severity)
  | warning => exact .inr (List.mem_filter.mpr ⟨member, by rw [severity]; rfl⟩)

namespace ReadState

variable {policy alone : Policy} {state after middle : ReadState} {line header : SourceLine}
  {declared : TableHeader} {following rest body lines : List SourceLine} {script : String} {count : Nat}

theorem contains_of_readAcceptedTable
    (done : readAcceptedTable policy state line declared following = .ok (after, rest)) :
    after.catalog.contains
      ⟨declared.nameParts.1.map String.ofList, String.ofList declared.nameParts.2⟩ = true := by
  obtain ⟨_, _, added⟩ := readBody_adds policy line declared following
    (state.withHeader policy line declared) (declared.table state.tablesNumbered)
  rw [readAcceptedTable_eq] at done
  generalize readBody policy line declared following
    (state.withHeader policy line declared, declared.table state.tablesNumbered) = read at done added
  obtain ⟨⟨_, table⟩, _⟩ := read
  dsimp only at done
  split at done
  · rename_i catalog declares
    cases done
    have key : table.key = ⟨declared.nameParts.1.map String.ofList, String.ofList declared.nameParts.2⟩ :=
      added.key.trans (declared.table_kept state.tablesNumbered).2.1
    rw [Catalog.contains_iff, Catalog.tables_of_declare declares, ← key, List.map_append]
    exact List.mem_append_right _ List.mem_cons_self
  · cases done

/-- A body that is closed is read in the same way whatever stands behind it. -/
theorem readAcceptedTable_of_closed (opens : declared.opensBody = true)
    (closed : (Body.ofLines body).closed = true)
    (done : readAcceptedTable policy state line declared body = .ok (after, rest)) :
    rest = (Body.ofLines body).rest ∧ ∀ tail,
      readAcceptedTable policy state line declared (body ++ tail) = .ok (after, rest ++ tail) := by
  have begun : ∀ lines, declared.bodyLines? lines = some lines := fun lines => if_pos opens
  have goesOn : ∀ tail progress, readBody policy line declared (body ++ tail) progress =
      ((readBody policy line declared body progress).1, (Body.ofLines body).rest ++ tail) := by
    intro tail progress
    rw [readBody_of_bodyLines? (begun _), readBody_of_bodyLines? (begun _),
      Body.ofLines_append_of_closed closed]
    rfl
  have left : ∀ progress, (readBody policy line declared body progress).2 = (Body.ofLines body).rest := by
    intro progress
    rw [readBody_of_bodyLines? (begun _)]
  rw [readAcceptedTable_eq] at done
  dsimp only at done
  split at done
  · rename_i catalog declares
    cases done
    refine ⟨left _, fun tail => ?_⟩
    rw [readAcceptedTable_eq, goesOn, left]
    dsimp only
    rw [declares]
  · cases done

/-- Where lines leave no trace but the last one does, just the last one is read. -/
theorem eq_singleton_of_traces {final : ReadState} {last : SourceLine} {behind : List SourceLine}
    (suffix : behind <:+ lines ++ [last]) (done : readLines policy .none after behind = (final, none))
    (sameSize : final.size = after.size)
    (silent : ∀ line ∈ lines, ∀ found ∈ final.journal, found.line ≠ line.number)
    (before : ∀ found ∈ after.journal, found.line ≠ last.number)
    (said : ∃ found ∈ final.journal, found.line = last.number) : behind = [last] := by
  obtain ⟨front, whole⟩ := suffix
  cases behind with
  | nil =>
      rw [readLines] at done
      cases done
      obtain ⟨found, member, place⟩ := said
      exact absurd place (before found member)
  | cons line behind =>
      rcases List.eq_nil_or_concat behind with rfl | ⟨between, ending, rfl⟩
      · exact (List.append_inj' whole rfl).2
      · rw [List.concat_eq_append, ← List.cons_append, ← List.append_assoc] at whole
        have inside : front ++ line :: between = lines := (List.append_inj' whole rfl).1
        rcases leavesTrace_of_readLines done with more | ⟨found, member, place⟩
        · exact absurd sameSize (Nat.ne_of_gt more)
        · have among : line ∈ lines := inside ▸ List.mem_append_right front List.mem_cons_self
          exact absurd place (silent line among found member)

/-- A reference without endpoints. -/
def strayReference (number : Nat) : SourceLine :=
  ⟨"Ref:", number, 0⟩

theorem ofScript_strayReference : SourceLine.ofScript "Ref:" = [strayReference 1] := by
  decide +kernel

theorem readLines_strayReference (policy : Policy) (state : ReadState) (number : Nat) :
    readLines policy .none state [strayReference number] =
      (state.report (.badReference "Ref:") (strayReference number), none) := by
  have unread : ReferenceLine.read? "Ref:".toList = none := by decide +kernel
  have kind : LineKind.classify false "Ref:".toList = .ref := by decide +kernel
  have stepped : step policy .none state (strayReference number) [] =
      .ok (state.report (.badReference "Ref:") (strayReference number), []) := by
    rw [step_eq_ok_iff, strayReference, kind, readKind, readReference, unread]
    exact ⟨rfl, rfl⟩
  exact (readLines_cons stepped).trans (by rw [readLines])

/-- A block that is skipped behind a diagnostic of its header leaves tables and references alone, and nothing
is said but of the header. -/
theorem skipping_skipBlock_kept (state : ReadState) (header : SourceLine) (problem : Problem) (offset : Nat)
    (following : List SourceLine) :
    let after := ((state.skipping header [(problem, offset)] none).skipBlock header following).1
    after.size = state.size ∧
      ∀ diagnostic ∈ after.journal, diagnostic ∈ state.journal ∨ diagnostic.line = header.number := by
  intro after
  have said : (state.skipping header [(problem, offset)] none).journal =
      state.journal ++ [problem.foundAt header offset] := by
    rw [skipping, reportAll_eq_adding, journal_adding]
    rfl
  have kept := (state.skipping header [(problem, offset)] none).skipBlock_kept header following
  refine ⟨?_, fun diagnostic member => ?_⟩
  · unfold size
    rw [kept.1, kept.2.1]
    rfl
  · have found : diagnostic ∈ (state.skipping header [(problem, offset)] none).journal ∨
        diagnostic.line = header.number := by
      unfold after skipBlock at member
      dsimp only at member
      split at member
      · exact .inl member
      · rcases List.mem_append.mp member with before | unclosed
        · exact .inl before
        · exact .inr (List.mem_singleton.mp unclosed ▸ rfl)
    rw [said, List.mem_append, List.mem_singleton] at found
    rcases found with (before | same) | place
    · exact .inl before
    · exact .inr (same ▸ rfl)
    · exact .inr place

/-- All that was read of lines up to a number stands there. -/
theorem stands_of_number_le (complete : readLines policy .none {} lines = (middle, none))
    (early : ∀ line ∈ lines, line.number ≤ count) :
    (∀ use ∈ middle.inlineUses, use.line.number < count + 1) ∧
      ∀ diagnostic ∈ middle.journal, diagnostic.line < (count + 1 : Nat) := by
  obtain ⟨standing, found⟩ := stands_of_readLines complete
  refine ⟨fun use member => Nat.lt_succ_of_le (early _ (standing use member)), fun diagnostic member => ?_⟩
  obtain ⟨line, among, place⟩ := found diagnostic member
  exact place ▸ Int.ofNat_lt.mpr (Nat.lt_succ_of_le (early line among))

end ReadState

namespace IsTableBlock

open ReadState

variable {policy alone : Policy} {block : String} {header : SourceLine} {body : List SourceLine}
  {declared : TableHeader} {count : Nat}

theorem body_ne_nil (table : IsTableBlock alone block header body) : body ≠ [] := by
  rintro rfl
  have closed := table.closed
  rw [Body.ofLines] at closed
  cases closed

theorem number_le (table : IsTableBlock alone block header body) :
    ∀ line ∈ header :: body, line.number ≤ SourceLine.rawCount block := by
  rw [← table.lines]
  exact fun line member => SourceLine.number_le_rawCount member

/-- The header is accepted, since there is no error. -/
theorem exists_declared (table : IsTableBlock alone block header body) :
    ∃ declared, TableHeader.read? header.text.toList = some declared ∧
      declared.nameProblems ({} : ReadState).catalog = [] := by
  obtain ⟨_, _, whole, _⟩ := ofLines_checked alone block
  rw [table.lines] at whole
  obtain ⟨middle, rest, stepped, _⟩ := exists_step_of_readLines whole
  obtain ⟨_, read⟩ := step_eq_ok_iff.mp stepped
  rw [table.kind] at read
  rcases accepted_or_error read with accepted | ⟨found, member, grave, _⟩
  · exact accepted
  · have reached := table.lines ▸ readLines_cons stepped
    have error := Reading.mem_errors_of_readLines reached member grave
    rw [table.clean] at error
    cases error

/-- The first copy declares its table, whatever stands behind it, and from then on its header is that of a
table that is already there. -/
theorem exists_reached (table : IsTableBlock alone block header body)
    (read : TableHeader.read? header.text.toList = some declared)
    (accepted : declared.nameProblems ({} : ReadState).catalog = []) (policy : Policy) :
    ∃ middle, readLines policy .none {} (header :: body) = (middle, none) ∧
      (∀ tail, readLines policy .none {} (header :: (body ++ tail)) = readLines policy .none middle tail) ∧
      ∀ count, middle.Skips (header.movedBy count)
        [(.duplicateTable (String.ofList declared.name), declared.nameOffset)] none := by
  have opens : declared.opensBody = true := TableHeader.opensBody_of_brace read table.brace
  obtain ⟨last, _, whole, _⟩ := ofLines_checked policy block
  rw [table.lines] at whole
  obtain ⟨middle, rest, stepped, later⟩ := exists_step_of_readLines whole
  have done := (step_accepted_iff table.kind read accepted).mp stepped
  obtain ⟨ended, longer⟩ := readAcceptedTable_of_closed opens table.closed done
  rw [table.rest] at ended
  subst ended
  rw [readLines] at later
  cases later
  have goesOn : ∀ tail, step policy .none {} header (body ++ tail) = .ok (last, tail) := fun tail =>
    (step_accepted_iff table.kind read accepted).mpr (longer tail)
  refine ⟨last, whole, fun tail => readLines_cons (goesOn tail), fun count => ?_⟩
  have taken := TableHeader.nameProblems_of_contains accepted (contains_of_readAcceptedTable done)
  rw [← taken]
  exact .rejected table.kind read (by rw [taken]; exact List.cons_ne_nil _ _)

/-- The lines of a script that begins with the table once, and of one that begins with it twice. -/
theorem ofScript_join (table : IsTableBlock alone block header body)
    (rows : SourceLine.rawCount block = count) (rest : String) :
    SourceLine.ofScript (Text.join "\n" [block, rest]) =
        header :: (body ++ (SourceLine.ofScript rest).map (·.movedBy count)) ∧
      SourceLine.ofScript (Text.join "\n" [block, block, rest]) =
        header :: (body ++ header.movedBy count :: (body.map (·.movedBy count) ++
          ((SourceLine.ofScript rest).map (·.movedBy count)).map (·.movedBy count))) := by
  have last : Text.join "\n" [rest] = rest := by
    rw [Text.join, List.map_singleton, List.intercalate_singleton, String.ofList_toList]
  have once : SourceLine.ofScript (Text.join "\n" [block, rest]) =
      header :: (body ++ (SourceLine.ofScript rest).map (·.movedBy count)) := by
    rw [SourceLine.ofScript_join_cons block (List.cons_ne_nil rest []), last, table.lines, rows]
    rfl
  refine ⟨once, ?_⟩
  rw [SourceLine.ofScript_join_cons block (List.cons_ne_nil block [rest]), once, table.lines, rows,
    List.map_cons, List.map_append]
  rfl

/-- What is said of the second copy. -/
def duplicate (header : SourceLine) (declared : TableHeader) (count : Nat) : Diagnostic :=
  (Problem.duplicateTable (String.ofList declared.name)).foundAt (header.movedBy count) declared.nameOffset

/-- Where its braces balance at its end, the second copy leaves nothing but its error, whatever is behind. -/
theorem addsOneError (table : IsTableBlock alone block header body)
    (rows : SourceLine.rawCount block = count)
    (read : TableHeader.read? header.text.toList = some declared)
    (accepted : declared.nameProblems ({} : ReadState).catalog = [])
    (balanced : header.BalancedBlock body) (policy : Policy) (rest : String) :
    Reading.AddsOneError (count + 1) count (duplicate header declared count)
      (Reading.ofScript policy (Text.join "\n" [block, rest]))
      (Reading.ofScript policy (Text.join "\n" [block, block, rest])) := by
  obtain ⟨middle, complete, goesOn, skips⟩ := table.exists_reached read accepted policy
  obtain ⟨once, twice⟩ := table.ofScript_join rows rest
  obtain ⟨standing, earlier⟩ := stands_of_number_le complete (rows ▸ table.number_le)
  have passed : ∀ tail, step policy .none middle (header.movedBy count) (body.map (·.movedBy count) ++ tail) =
      .ok (middle.skipping (header.movedBy count)
        [(.duplicateTable (String.ofList declared.name), declared.nameOffset)] none, tail) := by
    intro tail
    have whole := Skipped.ofHeader_of_balancedBlock
      ((SourceLine.balancedBlock_movedBy header body count).mpr balanced)
      (List.map_eq_nil_iff.not.mpr table.body_ne_nil) tail
    rw [(skips count).step_eq_skipBlock, skipBlock, whole]
    rfl
  have late : ∀ line ∈ (SourceLine.ofScript rest).map (·.movedBy count), count + 1 ≤ line.number := by
    intro line member
    obtain ⟨other, among, rfl⟩ := List.mem_map.mp member
    have first : 1 ≤ other.number := SourceLine.le_number_of_mem_ofRaws among
    exact (Nat.add_comm count 1).trans_le (Nat.add_le_add_right first count)
  obtain ⟨tables, references, errors, warnings, _⟩ := Reading.ofScript_behindBlock
    (by rw [once, goesOn]) (by rw [twice, goesOn, readLines_cons (passed _)]) standing earlier late
  exact ⟨tables, references, errors, Diagnostic.SaidAmong.eq_map warnings⟩

/-- A reference that cannot be read, behind the table, leaves one more error on its line. -/
theorem readLines_join_strayReference (table : IsTableBlock alone block header body)
    (rows : SourceLine.rawCount block = count) {middle : ReadState}
    (goesOn : ∀ tail, readLines {} .none {} (header :: (body ++ tail)) = readLines {} .none middle tail) :
    readLines {} .none {} (SourceLine.ofScript (Text.join "\n" [block, "Ref:"])) =
      (middle.report (.badReference "Ref:") (strayReference (1 + count)), none) := by
  rw [(table.ofScript_join rows "Ref:").1, goesOn, ofScript_strayReference]
  exact readLines_strayReference {} middle (1 + count)

/-- Where the lines behind the header of the second copy leave no trace, and the last one does, the copy ends
right before the last one: a line of the copy that was read would have declared something or been reported. -/
theorem skipped_rest_eq_strayReference (table : IsTableBlock alone block header body)
    (rows : SourceLine.rawCount block = count) {middle final : ReadState}
    (earlier : ∀ found ∈ middle.journal, found.line < (count + 1 : Nat))
    (twice : readLines {} .none
      ((middle.skipping (header.movedBy count)
        [(.duplicateTable (String.ofList declared.name), declared.nameOffset)] none).skipBlock
          (header.movedBy count) (body.map (·.movedBy count) ++ [strayReference (1 + count + count)])).1
      (Skipped.ofHeader (header.movedBy count)
        (body.map (·.movedBy count) ++ [strayReference (1 + count + count)])).rest = (final, none))
    (sameSize : final.size = middle.size)
    (places : ∀ found ∈ final.journal, found.line ≤ count ∨
      found = duplicate header declared count ∨ found.line = 1 + count + count)
    (lost : ∃ found ∈ final.journal, found.line = 1 + count + count) :
    (Skipped.ofHeader (header.movedBy count)
      (body.map (·.movedBy count) ++ [strayReference (1 + count + count)])).rest =
        [strayReference (1 + count + count)] := by
  obtain ⟨skippedSize, said⟩ := middle.skipping_skipBlock_kept (header.movedBy count)
    (.duplicateTable (String.ofList declared.name)) declared.nameOffset
    (body.map (·.movedBy count) ++ [strayReference (1 + count + count)])
  have split : SourceLine.ofScript block = [] ++ header :: body := table.lines
  have greater := (SourceLine.number_lt_of_split split).2
  have within : ∀ line ∈ header :: body, line.number ≤ count := rows ▸ table.number_le
  refine eq_singleton_of_traces (Skipped.ofHeader_suffix _ _) twice (sameSize.trans skippedSize.symm)
    (fun line member found among place => ?_) (fun found among place => ?_) lost
  · obtain ⟨other, inBody, rfl⟩ := List.mem_map.mp member
    have above := greater other inBody
    have below := within other (List.mem_cons_of_mem header inBody)
    simp only [SourceLine.movedBy] at place
    rcases places found among with early | rfl | last
    · omega
    · have atHeader : (duplicate header declared count).line = (header.number + count : Nat) := rfl
      omega
    · omega
  · have below := within header List.mem_cons_self
    rcases said found among with old | atHeader
    · have early := earlier found old
      simp only [strayReference] at place
      omega
    · simp only [strayReference, SourceLine.movedBy] at place atHeader
      omega

/-- Where the second copy leaves nothing but its error in front of a reference that cannot be read, its braces
balance at its end. -/
theorem balancedBlock_of_addsOneError (table : IsTableBlock alone block header body)
    (rows : SourceLine.rawCount block = count)
    (read : TableHeader.read? header.text.toList = some declared)
    (accepted : declared.nameProblems ({} : ReadState).catalog = [])
    (adds : Reading.AddsOneError (count + 1) count (duplicate header declared count)
      (Reading.ofScript {} (Text.join "\n" [block, "Ref:"]))
      (Reading.ofScript {} (Text.join "\n" [block, block, "Ref:"]))) :
    header.BalancedBlock body := by
  obtain ⟨middle, complete, goesOn, skips⟩ := table.exists_reached read accepted {}
  obtain ⟨_, earlier⟩ := stands_of_number_le complete (rows ▸ table.number_le)
  -- Written once, the table is followed by the error of the last line.
  obtain ⟨onceTables, onceReferences, onceErrors, onceWarnings⟩ :=
    Reading.ofScript_of_readLines (table.readLines_join_strayReference rows goesOn)
  -- Written twice, it is followed by what the second copy leaves unread.
  obtain ⟨final, _, twice, _⟩ := ofLines_checked {} (Text.join "\n" [block, block, "Ref:"])
  obtain ⟨twiceTables, twiceReferences, twiceErrors, twiceWarnings⟩ := Reading.ofScript_of_readLines twice
  rw [(table.ofScript_join rows "Ref:").2, goesOn, ofScript_strayReference,
    readLines_cons ((skips count).step_eq_skipBlock _)] at twice
  have sameSize : final.size = middle.size := by
    have tables : final.catalog.tables = middle.catalog.tables :=
      twiceTables.symm.trans (adds.tables.trans onceTables)
    have references : final.references = middle.references :=
      twiceReferences.symm.trans (adds.references.trans onceReferences)
    rw [size, size, Catalog.size, Catalog.size, tables, references]
  have places : ∀ found ∈ final.journal, found.line ≤ count ∨
      found = duplicate header declared count ∨ found.line = 1 + count + count := by
    intro found member
    rw [← Journal.mem_errors_append_warnings, ← twiceErrors, ← twiceWarnings] at member
    refine adds.line_of_mem (fun same among => ?_) member
    rw [onceErrors, onceWarnings, Journal.mem_errors_append_warnings] at among
    rcases List.mem_append.mp among with before | new
    · exact .inl (earlier same before)
    · exact .inr (List.mem_singleton.mp new ▸ rfl)
  have lost : ∃ found ∈ final.journal, found.line = 1 + count + count := by
    have error : (Problem.badReference "Ref:").foundAt (strayReference (1 + count)) 0 ∈
        (Reading.ofScript {} (Text.join "\n" [block, "Ref:"])).errors := by
      rw [onceErrors]
      exact Journal.mem_errors (mem_journal_report middle _ _) rfl
    obtain ⟨found, member, place⟩ := adds.exists_line_eq error rfl
    rw [twiceErrors] at member
    exact ⟨found, List.mem_of_mem_filter member, place⟩
  have left := table.skipped_rest_eq_strayReference rows earlier twice sameSize places lost
  refine (SourceLine.balancedBlock_movedBy header body count).mp ?_
  exact Skipped.balancedBlock_of_rest (List.map_eq_nil_iff.not.mpr table.body_ne_nil)
    (List.cons_ne_nil _ _) left

end IsTableBlock

namespace Reading

/-- A table that is written twice gives what it gives when it is written once, and one error at the header of
the second copy, in front of whatever begins a block or is a reference: exactly if the braces of the lines of
the table balance at the last of them, those in quotes left out. The first copy ends at that line in any
case. -/
theorem ofScript_repeatedTable_iff {alone : Policy} {block : String} {header : SourceLine}
    {body : List SourceLine} (table : IsTableBlock alone block header body) :
    ∃ declared, TableHeader.read? header.text.toList = some declared ∧
      ((∀ (policy : Policy) (rest : String) (first : SourceLine) (others : List SourceLine),
          SourceLine.ofScript rest = first :: others →
          LineKind.classify false first.text.toList ∈
            [LineKind.table, .ref, .enum, .project, .tableGroup, .indexes] →
          let count := SourceLine.rawCount block
          AddsOneError (count + 1) count
            ((Problem.duplicateTable (String.ofList declared.name)).foundAt (header.movedBy count)
              declared.nameOffset)
            (ofScript policy (Text.join "\n" [block, rest]))
            (ofScript policy (Text.join "\n" [block, block, rest]))) ↔
        header.BalancedBlock body) := by
  obtain ⟨declared, read, accepted⟩ := table.exists_declared
  refine ⟨declared, read, fun adds => ?_, fun balanced policy rest _ _ _ _ =>
    table.addsOneError rfl read accepted balanced policy rest⟩
  have kind : LineKind.classify false "Ref:".toList = .ref := by decide +kernel
  refine table.balancedBlock_of_addsOneError rfl read accepted
    (adds {} "Ref:" _ [] ReadState.ofScript_strayReference ?_)
  rw [ReadState.strayReference, kind]
  decide

/-- A brace in quotes is none. -/
theorem ofScript_repeatedTable_quotedBrace :
    let block := "Table a \x7b\n  id integer [note: 'use \x7b here']\n\x7d"
    let rest := "Table b \x7b\n  x integer\n\x7d"
    let header : SourceLine := ⟨"Table a \x7b", 1, 0⟩
    let body : List SourceLine := [⟨"id integer [note: 'use \x7b here']", 2, 2⟩, ⟨"\x7d", 3, 0⟩]
    IsTableBlock {} block header body ∧ header.BalancedBlock body ∧
      (ofScript {} (Text.join "\n" [block, block, rest])).tables =
        (ofScript {} (Text.join "\n" [block, rest])).tables ∧
      (ofScript {} (Text.join "\n" [block, block, rest])).warnings =
        (ofScript {} (Text.join "\n" [block, rest])).warnings.map (Diagnostic.shifted 4 3) := by
  intro block rest header body
  have table : IsTableBlock {} block header body := by
    constructor <;> decide +kernel
  have balanced : header.BalancedBlock body := by
    unfold SourceLine.BalancedBlock SourceLine.BalanceAtEnd
    decide +kernel
  have lines : SourceLine.ofScript rest =
      ⟨"Table b \x7b", 1, 0⟩ :: [⟨"x integer", 2, 2⟩, ⟨"\x7d", 3, 0⟩] := by decide +kernel
  obtain ⟨_, _, adds⟩ := ofScript_repeatedTable_iff table
  have rows : SourceLine.rawCount block = 3 := by decide +kernel
  obtain ⟨tables, _, _, warnings⟩ := adds.mpr balanced {} rest _ _ lines (by decide +kernel)
  rw [rows] at warnings
  exact ⟨table, balanced, tables, warnings⟩

/-- A brace in a note of the table that stands without quotes counts in the second copy. It is never closed,
and the table behind it is lost. -/
theorem ofScript_repeatedTable_bareBrace :
    let block := "Table a \x7b\n  id integer\n  Note: use \x7b here\n\x7d"
    let rest := "Table b \x7b\n  x integer\n\x7d"
    let header : SourceLine := ⟨"Table a \x7b", 1, 0⟩
    let body : List SourceLine :=
      [⟨"id integer", 2, 2⟩, ⟨"Note: use \x7b here", 3, 2⟩, ⟨"\x7d", 4, 0⟩]
    IsTableBlock {} block header body ∧
      (ofScript {} (Text.join "\n" [block, rest])).tables.map (·.name) = ["a", "b"] ∧
      (ofScript {} (Text.join "\n" [block, block, rest])).tables.map (·.name) = ["a"] ∧
      (ofScript {} (Text.join "\n" [block, block, rest])).errors.map (·.message) =
        ["Duplicate table name: a", "Missing closing brace for block: Table a \x7b"] := by
  intro block rest header body
  refine ⟨?_, ?_⟩
  · constructor <;> decide +kernel
  · decide +kernel

end Reading

end TableScript
