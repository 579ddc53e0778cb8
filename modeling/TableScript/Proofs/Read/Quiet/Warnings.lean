import TableScript.Proofs.Read.Origin
import TableScript.Proofs.Read.Quiet.Basic
import TableScript.Proofs.Read.Step

namespace TableScript

def isKnownAction (action : String) : Bool :=
  String.ofList (Text.lower action.toList) ∈ referentialActions

/-- The setting names an action, known or not. -/
def Setting.AsksFor (setting : Setting) (action : String) : Prop :=
  (setting.isDelete || setting.isUpdate) = true ∧ setting.value = some action

def Table.keys (table : Table) : List String :=
  table.properties.map Prod.fst

def Column.keys (column : Column) : List String :=
  column.properties.map Prod.fst

def Table.columnKeys (table : Table) : List String :=
  table.columns.flatMap Column.keys

namespace Problem

theorem eq_unknownSetting_of_message {problem : Problem} {owner : SettingOwner} {key : String}
    (same : problem.message = (unknownSetting owner key).message) : problem = unknownSetting owner key := by
  obtain ⟨outlined, rfl⟩ := outline_and_quoted (unknownSetting owner "") (by cases owner <;> decide) same
  cases problem with
  | unknownSetting other key =>
      cases outlined
      rfl
  | _ => cases outlined

end Problem

namespace Journal

variable {journal : Journal} {problems : List Problem} {line : SourceLine} {offset : Nat}

/-- Some warning says just that. -/
def Warns (journal : Journal) (problem : Problem) : Prop :=
  ∃ warning ∈ journal.warnings, warning.message = problem.message

theorem warns_append {found : Journal} {problem : Problem} :
    Warns (journal ++ found) problem ↔ journal.Warns problem ∨ found.Warns problem := by
  have both : (journal ++ found).warnings = journal.warnings ++ found.warnings := List.filter_append _ _
  simp only [Warns, both, List.mem_append, or_and_right, exists_or]

theorem warns_of_mem {problem : Problem} (member : problem ∈ problems) (mild : problem.severity = .warning) :
    Warns (problems.map (·.foundAt line offset)) problem := by
  refine ⟨problem.foundAt line offset, ?_, rfl⟩
  exact List.mem_filter.mpr ⟨List.mem_map_of_mem member, beq_iff_eq.mpr mild⟩

theorem warns_unknownSetting_iff {owner : SettingOwner} {key : String} :
    Warns (problems.map (·.foundAt line offset)) (.unknownSetting owner key) ↔
      .unknownSetting owner key ∈ problems := by
  refine ⟨fun ⟨warning, member, message⟩ => ?_, fun member => warns_of_mem member rfl⟩
  obtain ⟨problem, among, rfl⟩ := List.mem_map.mp (List.mem_of_mem_filter member)
  rwa [← Problem.eq_unknownSetting_of_message message]

/-- More was recorded, but nothing of settings that are not known. -/
def GoesOn (before after : Journal) : Prop :=
  ∃ found : Journal, after = before ++ found ∧ ∀ diagnostic ∈ found, diagnostic.namesUnknownSetting = false

theorem GoesOn.refl (journal : Journal) : journal.GoesOn journal :=
  ⟨[], (List.append_nil journal).symm, List.forall_mem_nil _⟩

theorem GoesOn.trans {before middle after : Journal} (first : before.GoesOn middle)
    (second : middle.GoesOn after) : before.GoesOn after := by
  obtain ⟨found, rfl, silent⟩ := first
  obtain ⟨more, rfl, alsoSilent⟩ := second
  exact ⟨found ++ more, List.append_assoc _ _ _, List.forall_mem_append.mpr ⟨silent, alsoSilent⟩⟩

theorem GoesOn.warns {before after : Journal} (goesOn : before.GoesOn after) {problem : Problem}
    (warns : before.Warns problem) : after.Warns problem := by
  obtain ⟨found, rfl, _⟩ := goesOn
  exact warns_append.mpr (.inl warns)

theorem GoesOn.warns_iff {before after : Journal} (goesOn : before.GoesOn after) {owner : SettingOwner}
    {key : String} :
    after.Warns (.unknownSetting owner key) ↔ before.Warns (.unknownSetting owner key) := by
  refine ⟨fun warns => ?_, goesOn.warns⟩
  obtain ⟨found, rfl, silent⟩ := goesOn
  rcases warns_append.mp warns with old | ⟨warning, member, message⟩
  · exact old
  · have names := Problem.namesUnknownSetting_eq message
    rw [silent warning (List.mem_of_mem_filter member)] at names
    cases names

end Journal

namespace ReadState

variable {state : ReadState}

/-- More was reported, but nothing of settings that are not known, and no table or reference was read. -/
structure Passes (before after : ReadState) : Prop where
  catalog : after.catalog = before.catalog
  references : after.references = before.references
  journal : before.journal.GoesOn after.journal

theorem Passes.trans {before middle after : ReadState} (first : before.Passes middle)
    (second : middle.Passes after) : before.Passes after where
  catalog := second.catalog.trans first.catalog
  references := second.references.trans first.references
  journal := first.journal.trans second.journal

theorem goesOn_reportAs (state : ReadState) (severity : Severity) {problem : Problem}
    (other : problem.isUnknownSetting = false) (line : SourceLine) (offset : Nat) :
    state.journal.GoesOn (state.reportAs severity problem line offset).journal := by
  refine ⟨_, rfl, List.forall_mem_singleton.mpr ?_⟩
  exact (Problem.namesUnknownSetting_eq rfl).trans other

theorem passes_reportAt (state : ReadState) {problem : Problem} (other : problem.isUnknownSetting = false)
    (line : SourceLine) (offset : Nat) : state.Passes (state.reportAt problem line offset) :=
  ⟨rfl, rfl, state.goesOn_reportAs problem.severity other line offset⟩

theorem passes_report (state : ReadState) {problem : Problem} (other : problem.isUnknownSetting = false)
    (line : SourceLine) : state.Passes (state.report problem line) :=
  state.passes_reportAt other line 0

theorem passes_skipBlock (state : ReadState) (header : SourceLine) (following : List SourceLine) :
    state.Passes (state.skipBlock header following).1 := by
  unfold skipBlock
  dsimp only
  split
  · exact ⟨rfl, rfl, .refl _⟩
  · exact state.passes_report rfl header

theorem passes_noticeBlock (state : ReadState) (block : SkippedBlock) (tag : String) (line : SourceLine) :
    state.Passes (state.noticeBlock block tag line) := by
  have noted : state.Passes (state.addFeature tag) := by
    unfold addFeature
    split <;> exact ⟨rfl, rfl, .refl _⟩
  exact noted.trans ((state.addFeature tag).passes_report rfl line)

theorem passes_reportAll (state : ReadState) (line : SourceLine) {problems : List (Problem × Nat)}
    (others : ∀ found ∈ problems, found.1.isUnknownSetting = false) :
    state.Passes (state.reportAll line problems) := by
  induction problems generalizing state with
  | nil => exact ⟨rfl, rfl, .refl _⟩
  | cons found problems ih =>
      obtain ⟨other, rest⟩ := List.forall_mem_cons.mp others
      exact (state.passes_reportAt other line found.2).trans
        (ih (state.reportAt found.1 line found.2) rest)

end ReadState

section Settings

variable {policy : Policy} {key action : String}

/-- Where it is asked for, just those keys are reported that are kept. -/
theorem Setting.mem_flatMap_iff {meant : List String} {owner : SettingOwner}
    {loud quiet : Setting → List Problem} (asked : policy.reportUnknownSettings = true)
    (reported : ∀ setting, Reported policy owner setting (setting.name ∈ meant) (loud setting) (quiet setting))
    (settings : List Setting) :
    .unknownSetting owner key ∈ settings.flatMap loud ↔ key ∈ (kept meant settings).map Prod.fst := by
  rw [mem_keys_kept, List.mem_flatMap]
  refine exists_congr fun setting => and_congr_right fun _ => ?_
  rw [(reported setting).mem_iff, and_iff_right asked, and_iff_right rfl]

theorem Setting.unknownAction_mem {setting : Setting} (asks : setting.AsksFor action)
    (unknown : isKnownAction action = false) : .unknownAction action ∈ setting.referenceProblems policy := by
  obtain ⟨acts, given⟩ := asks
  have notListed : String.ofList (Text.lower action.toList) ∉ referentialActions := of_decide_eq_false unknown
  rw [referenceProblems, if_pos acts, given]
  dsimp only
  rw [if_neg notListed]
  exact List.mem_singleton_self _

theorem ColumnLine.warns_diagnostics_iff {declared : ColumnLine} {line : SourceLine} {owner : SettingOwner} :
    (declared.diagnostics policy line).Warns (.unknownSetting owner key) ↔
      .unknownSetting owner key ∈ declared.settingList.flatMap (Setting.columnProblems policy) := by
  have ignored : (Setting.columnDiagnostics policy line declared.settingList).GoesOn
      (declared.diagnostics policy line) := by
    refine ⟨_, rfl, ?_⟩
    split
    · exact List.forall_mem_nil _
    · exact List.forall_mem_singleton.mpr (Problem.namesUnknownSetting_foundAt _ line _)
  rw [ignored.warns_iff, Setting.columnDiagnostics, Journal.warns_unknownSetting_iff]

end Settings

end TableScript
