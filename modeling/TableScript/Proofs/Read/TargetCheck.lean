import TableScript.Proofs.Read.Dropping
import TableScript.Proofs.Read.Marks
import TableScript.Proofs.Read.Sound.Inline

namespace TableScript

namespace ReadState

variable {state read : ReadState} {use : InlineUse}

/-- The lines of a script are read alike, whatever is asked for afterwards. -/
theorem readLines_targetCheck (check other : TargetCheck) (report : Bool) (interrupts : Interrupts)
    (state : ReadState) (lines : List SourceLine) :
    readLines ⟨check, report⟩ interrupts state lines =
      readLines ⟨other, report⟩ interrupts state lines := by
  have steps : step ⟨check, report⟩ = step ⟨other, report⟩ := rfl
  fun_induction readLines ⟨check, report⟩ interrupts state lines with
  | case1 state => rw [readLines]
  | case2 state line following after rest done ih =>
      rw [steps] at done
      rw [ih, readLines_cons done]
  | case3 state line following failure failed =>
      rw [steps] at failed
      rw [readLines_cons_of_failure failed]

/-- The inline references that lead nowhere, in the order of declaration. -/
def lostUses (state : ReadState) : List InlineUse :=
  state.inlineUses.filter (·.reference.target.isMissing state.catalog)

/-- A column with the identifier of an inline reference is the one that declared it. -/
theorem Sound.isDeclaredBy_of_id (sound : state.Sound state.catalog.tables) (marked : state.Marked)
    (member : use ∈ state.inlineUses) {table : Table} (among : table ∈ state.catalog.tables)
    {column : Column} (inside : column ∈ table.columns) (same : column.id = use.columnId) :
    use.IsDeclaredBy table column := by
  obtain ⟨owner, ownerAmong, own, ownInside, declared⟩ := marked.declared use member
  have distinct : ((state.catalog.tables.flatMap Table.columns).map Column.id).Nodup := by
    rw [sound.columnIds]
    exact nodup_numbered _ _
  obtain ⟨rfl, rfl⟩ := Table.eq_of_columnId distinct among ownerAmong inside ownInside
    (same.trans declared.id)
  exact declared

theorem Sound.nodup_references (sound : state.Sound state.catalog.tables) :
    state.references.Nodup := by
  have distinct : (state.references.map Reference.id).Nodup := by
    rw [sound.referenceIds]
    exact nodup_numbered _ _
  exact List.Nodup.of_map _ distinct

/-- What the three ways of checking inline targets leave of a script: the first what was read, the second
complaints besides, and the third complaints and fewer references. -/
theorem exists_read (report : Bool) (script : String) :
    ∃ read : ReadState, read.Sound read.catalog.tables ∧ read.Reachable ∧
      ofLines ⟨.ignore, report⟩ .none (SourceLine.ofScript script) = read ∧
      ofLines ⟨.warn, report⟩ .none (SourceLine.ofScript script) = { read with
        journal := read.journal ++ read.lostUses.map (·.complaint read.catalog .warning) } ∧
      ∃ cleared, Dropped read read.lostUses cleared
        (ofLines ⟨.fail, report⟩ .none (SourceLine.ofScript script)) := by
  obtain ⟨read, ignoring, lines, sound, ignored, _, complete⟩ :=
    ofLines_checked ⟨.ignore, report⟩ script
  have reachable : read.Reachable := by
    have reached : (readLines ⟨.ignore, report⟩ .none {} (SourceLine.ofScript script)).1.Reachable :=
      Reachable.initial.readLines _
    rwa [lines] at reached
  -- The other two go through the same lines.
  have others : ∀ check, ∃ after, checkInlines check read = .ok after ∧
      ofLines ⟨check, report⟩ .none (SourceLine.ofScript script) = after := by
    intro check
    obtain ⟨other, after, otherLines, _, done, _, otherComplete⟩ :=
      ofLines_checked ⟨check, report⟩ script
    rw [readLines_targetCheck check .ignore, lines] at otherLines
    cases otherLines
    exact ⟨after, done, otherComplete⟩
  refine ⟨read, sound, reachable, ?_, ?_, ?_⟩
  · rw [complete]
    cases ignored
    rfl
  · obtain ⟨warning, warned, same⟩ := others .warn
    have folded : checkInlines .warn read = _ := foldlM_checkInline_warn read read.inlineUses
    rw [folded] at warned
    cases warned
    exact same
  · obtain ⟨failing, failed, same⟩ := others .fail
    rw [same]
    exact foldlM_checkInline_fail (Dropped.initial read) sound.nodup_references
      (fun use member table among column inside id =>
        (sound.isDeclaredBy_of_id reachable.marked member among inside id).marked) failed

theorem map_reference_lostUses (sound : read.Sound read.catalog.tables) :
    read.lostUses.map InlineUse.reference =
      read.references.filter (·.isLost read.catalog) := by
  calc read.lostUses.map InlineUse.reference
      = (read.inlineUses.map InlineUse.reference).filter (·.target.isMissing read.catalog) := by
        rw [List.filter_map]
        rfl
    _ = (read.references.filter (·.inline)).filter (·.target.isMissing read.catalog) := by
        rw [sound.uses]
    _ = read.references.filter (·.isLost read.catalog) := by
        rw [List.filter_filter]
        exact List.filter_congr fun reference _ => Bool.and_comm _ _

theorem Dropped.references_eq {cleared : List String} {after : ReadState}
    (dropped : Dropped read read.lostUses cleared after) (sound : read.Sound read.catalog.tables) :
    after.references = read.references.filter (!·.isLost read.catalog) := by
  rw [dropped.references, map_reference_lostUses sound]
  refine List.filter_congr fun reference member => ?_
  simp [member]

end ReadState

theorem Journal.ofSeverity_append_complaints (journal : Journal) (catalog : Catalog)
    (severity other : Severity) (uses : List InlineUse) :
    Journal.ofSeverity (journal ++ uses.map (·.complaint catalog other)) severity =
      journal.ofSeverity severity ++
        if other = severity then uses.map (·.complaint catalog other) else [] := by
  have grave : ∀ diagnostic ∈ uses.map (·.complaint catalog other),
      diagnostic.severity = other := by
    intro diagnostic member
    obtain ⟨use, _, rfl⟩ := List.mem_map.mp member
    rfl
  rw [ofSeverity, List.filter_append]
  congr 1
  split
  · rename_i same
    exact List.filter_eq_self.mpr fun diagnostic member =>
      beq_iff_eq.mpr ((grave diagnostic member).trans same)
  · rename_i different
    exact List.filter_eq_nil_iff.mpr fun diagnostic member same =>
      different ((grave diagnostic member).symm.trans (beq_iff_eq.mp same))

/-- A script read in three ways. The inline references that lead nowhere are told by the finished
catalog, in the order of declaration. Asking for warnings adds one for each of them and changes nothing
else. Asking for failures adds an error for each at the same place and of the same wording, drops just
these references, and takes marks only from columns that declared one of them; what is left leads
somewhere. -/
theorem Reading.ofScript_targetCheck (report : Bool) (script : String) :
    let ignoring := ofScript ⟨.ignore, report⟩ script
    let warning := ofScript ⟨.warn, report⟩ script
    let failing := ofScript ⟨.fail, report⟩ script
    let finished := ReadState.ofLines ⟨.ignore, report⟩ .none (SourceLine.ofScript script)
    let lost := finished.lostUses
    lost.map InlineUse.reference = ignoring.references.filter (·.isLost finished.catalog) ∧
      (warning.tables = ignoring.tables ∧ warning.references = ignoring.references ∧
        warning.errors = ignoring.errors ∧
        warning.warnings =
          ignoring.warnings ++ lost.map (·.complaint finished.catalog .warning)) ∧
      (failing.warnings = ignoring.warnings ∧
        failing.errors = ignoring.errors ++ lost.map (·.complaint finished.catalog .error) ∧
        failing.references = ignoring.references.filter (!·.isLost finished.catalog) ∧
        ∃ cleared, failing.tables = ignoring.tables.map (·.clearing cleared) ∧
          ∀ table ∈ ignoring.tables, ∀ column ∈ table.columns, column.id ∈ cleared →
            ∃ use ∈ lost, use.IsDeclaredBy table column) ∧
      ∀ reference ∈ failing.references, reference.inline = true →
        reference.target.isMissing
          (ReadState.ofLines ⟨.fail, report⟩ .none (SourceLine.ofScript script)).catalog =
            false := by
  obtain ⟨read, sound, reachable, ignoring, warning, cleared, dropped⟩ :=
    ReadState.exists_read report script
  have references := dropped.references_eq sound
  have found := Journal.ofSeverity_append_complaints read.journal read.catalog
  simp only [ofScript, ofInterrupted, ignoring, warning, Journal.errors, Journal.warnings,
    dropped.journal, found, reduceCtorEq, if_true, if_false, List.append_nil, true_and]
  refine ⟨ReadState.map_reference_lostUses sound, ⟨references, cleared, dropped.tables, ?_⟩, ?_⟩
  · intro table member column inside gone
    obtain ⟨use, among, same⟩ := List.mem_map.mp (dropped.within gone)
    exact ⟨use, among, sound.isDeclaredBy_of_id reachable.marked (List.mem_of_mem_filter among)
      member inside same.symm⟩
  · intro reference member inline
    rw [references] at member
    have kept := (List.mem_filter.mp member).2
    rw [Reference.isLost, inline, Bool.true_and, Bool.not_eq_true'] at kept
    rw [Endpoint.isMissing_congr dropped.signatures, kept]

theorem Reading.ofScript_targetCheck_twoReferences :
    let script := "Table a \x7b\n  id integer [ref: > b.x, ref: > a.id]\n\x7d"
    let endpoint : Endpoint := ⟨none, "a", "id"⟩
    let lost : Reference :=
      { id := "ref_0", source := endpoint, target := ⟨none, "b", "x"⟩, inline := true }
    let kept : Reference := { id := "ref_1", source := endpoint, target := endpoint, inline := true }
    (ofScript ⟨.ignore, true⟩ script).references = [lost, kept] ∧
      kept ∈ (ofScript ⟨.fail, true⟩ script).references ∧ kept.inline = true ∧
      kept.target.isMissing
        (ReadState.ofLines ⟨.fail, true⟩ .none (SourceLine.ofScript script)).catalog = false :=
  ⟨by decide +kernel, by decide +kernel, rfl,
    (Reading.ofScript_targetCheck true _).2.2.2 _ (by decide +kernel) rfl⟩

end TableScript
