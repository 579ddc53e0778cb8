import TableScript.Proofs.Read.Reference
import TableScript.Proofs.Read.Sound.Table
import TableScript.Proofs.SourceLine
import TableScript.Read.Script

namespace TableScript.ReadState

variable {policy : Policy} {state : ReadState} {tables : List Table} {line : SourceLine}
  {following lines : List SourceLine}

theorem Grounded.marked (grounded : state.Grounded tables) {change : Table → List Column}
    (marking : IsMarking change) : state.Grounded (tables.map (·.withColumns change)) where
  wellFormed := by
    intro table member
    obtain ⟨before, among, rfl⟩ := List.mem_map.mp member
    exact marking.wellFormed (grounded.wellFormed before among)
  tableIds := by
    have ids := grounded.tableIds
    rwa [List.map_map]
  columnIds := by
    have same : ((tables.map (·.withColumns change)).flatMap Table.columns).map Column.id =
        (tables.flatMap Table.columns).map Column.id := by
      rw [List.flatMap_map, List.map_flatMap, List.map_flatMap]
      exact List.flatMap_congr fun table _ => marking.map_eq Column.id (fun _ => rfl) table
    rw [same, grounded.columnIds]
  inline := fun reference member inline =>
    (grounded.inline reference member inline).mono marking.isCovered
  standalone := fun reference member standalone =>
    ⟨(grounded.standalone reference member standalone).1.mono marking.isCovered,
      (grounded.standalone reference member standalone).2.mono marking.isCovered⟩
  calm := grounded.calm

theorem Sound.reportAt (sound : state.Sound tables) {problem : Problem}
    (calm : problem.kind ≠ .internal) (offset : Nat) :
    (state.reportAt problem line offset).Sound tables := by
  rw [reportAt_eq_adding]
  exact sound.adding _ (by simpa using calm)

theorem Sound.withReference (sound : state.Sound state.catalog.tables) {written : ReferenceLine}
    {source : Table} (resolved : written.resolve state.catalog = .ok source) :
    (state.withReference policy line written source).Sound
      (state.withReference policy line written source).catalog.tables := by
  obtain ⟨id, sourceKept, targetKept, _, notInline⟩ :=
    written.reference_kept state.referencesNumbered
  obtain ⟨sourceDeclared, targetDeclared⟩ := ReferenceLine.isDeclared_of_resolve resolved
  have reported := sound.adding (written.diagnostics policy line)
    fun diagnostic => ReferenceLine.kind_of_mem_diagnostics
  have unmarked : (state.withReference policy line written source).Sound state.catalog.tables := by
    refine ⟨⟨reported.wellFormed, reported.tableIds, reported.columnIds, ?_, ?_, reported.calm⟩,
      ?_, ?_⟩
    · intro reference member inline
      rcases List.mem_append.mp member with old | new
      · exact sound.inline reference old inline
      · rw [List.mem_singleton.mp new, notInline] at inline
        cases inline
    · intro reference member standalone
      rcases List.mem_append.mp member with old | new
      · exact sound.standalone reference old standalone
      · rw [List.mem_singleton.mp new, sourceKept, targetKept]
        exact ⟨sourceDeclared, targetDeclared⟩
    · simp only [ReadState.withReference, List.map_append, sound.referenceIds, List.map_singleton, id]
      exact (numbered_succ "ref_" state.referencesNumbered).symm
    · simp [ReadState.withReference, sound.uses, notInline]
  exact { unmarked with
    toGrounded := unmarked.toGrounded.marked
      (Catalog.isMarking_markForeignKey source.key written.source.column) }

theorem readReference_sound (sound : state.Sound state.catalog.tables) :
    (readReference policy state line).Sound (readReference policy state line).catalog.tables := by
  rcases readReference_cases policy state line with
    ⟨written, source, _, resolved, taken⟩ | ⟨problem, offset, refusal, reported⟩
  · rw [taken]
    exact sound.withReference resolved
  · rw [reported]
    exact sound.reportAt refusal.grave.2 offset

theorem skipBlock_sound (sound : state.Sound state.catalog.tables) :
    (state.skipBlock line following).1.Sound (state.skipBlock line following).1.catalog.tables := by
  unfold skipBlock
  dsimp only
  split
  · exact sound
  · exact sound.report (by simp [Problem.kind])

theorem noticeBlock_sound (sound : state.Sound state.catalog.tables) (block : SkippedBlock)
    (tag : String) :
    (state.noticeBlock block tag line).Sound
      (state.noticeBlock block tag line).catalog.tables := by
  have catalog : (state.noticeBlock block tag line).catalog = state.catalog := by
    simp only [noticeBlock, report_eq_adding, catalog_adding, addFeature]
    split <;> rfl
  rw [catalog]
  exact sound.noticeBlock block tag line

theorem reportAll_sound (sound : state.Sound state.catalog.tables)
    {problems : List (Problem × Nat)} (calm : ∀ found ∈ problems, found.1.kind ≠ .internal) :
    (state.reportAll line problems).Sound (state.reportAll line problems).catalog.tables := by
  induction problems generalizing state with
  | nil => exact sound
  | cons found problems ih =>
      exact ih (sound.reportAt (calm found List.mem_cons_self) found.2)
        fun other member => calm other (List.mem_cons_of_mem found member)

theorem readTable_sound (sound : state.Sound state.catalog.tables)
    (oneLine : ∀ other ∈ line :: following, '\n' ∉ other.text.toList) :
    ∃ after rest, readTable policy state line following = .ok (after, rest) ∧
      after.Sound after.catalog.tables := by
  unfold readTable
  cases read : TableHeader.read? line.text.toList with
  | none => exact ⟨_, _, rfl, skipBlock_sound (sound.report (by simp [Problem.kind]))⟩
  | some header =>
      dsimp only
      have nameOneLine : '\n' ∉ header.name := fun inside =>
        oneLine line List.mem_cons_self (TableHeader.mem_of_mem_name read inside)
      cases allowed : header.nameProblems state.catalog with
      | nil =>
          exact readAcceptedTable_sound sound allowed nameOneLine
            fun other member => oneLine other (List.mem_cons_of_mem line member)
      | cons problem problems =>
          refine ⟨_, _, rfl, skipBlock_sound (reportAll_sound sound fun found member => ?_)⟩
          rw [← allowed] at member
          exact TableHeader.kind_of_mem_nameProblems member

/-- What a line of the top level begins is read without a failure. -/
theorem step_sound (policy : Policy) (sound : state.Sound state.catalog.tables)
    (oneLine : ∀ other ∈ line :: following, '\n' ∉ other.text.toList) :
    ∃ after rest, step policy .none state line following = .ok (after, rest) ∧
      after.Sound after.catalog.tables := by
  have kinds : ∃ after rest,
      readKind policy state (LineKind.classify false line.text.toList) line following =
        .ok (after, rest) ∧ after.Sound after.catalog.tables := by
    cases LineKind.classify false line.text.toList with
    | table => exact readTable_sound sound oneLine
    | ref => exact ⟨_, _, rfl, readReference_sound sound⟩
    | enum | project | tableGroup | indexes =>
        exact ⟨_, _, rfl, skipBlock_sound (noticeBlock_sound sound _ _)⟩
    | columnLike | note | brace | unknown =>
        exact ⟨_, _, rfl, sound.report (by simp [Problem.kind])⟩
  obtain ⟨after, rest, done, kept⟩ := kinds
  exact ⟨after, rest, by simp only [step, Interrupts.none, done], kept⟩

theorem readLines_sound (policy : Policy) (sound : state.Sound state.catalog.tables)
    (oneLine : ∀ line ∈ lines, '\n' ∉ line.text.toList) :
    (readLines policy .none state lines).2 = none ∧
      (readLines policy .none state lines).1.Sound
        (readLines policy .none state lines).1.catalog.tables := by
  fun_induction readLines policy .none state lines with
  | case1 state => exact ⟨rfl, sound⟩
  | case2 state line following after rest done ih =>
      obtain ⟨next, behind, stepped, kept⟩ := step_sound policy sound oneLine
      rw [done] at stepped
      cases stepped
      exact ih kept fun other member =>
        oneLine other (List.mem_cons_of_mem line ((step_suffix done).subset member))
  | case3 state line following failure done =>
      obtain ⟨next, behind, stepped, _⟩ := step_sound policy sound oneLine
      rw [done] at stepped
      cases stepped

end TableScript.ReadState
