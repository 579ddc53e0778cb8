import Mathlib.Data.List.Forall2
import TableScript.Read.Settings

/-! Two readings side by side. Lines of one script stand for lines of another that say the same, and what
has been read of both is alike: the tables, references and numbers are the same, and what was found since
the comparison began was found in lines that stand for one another. Where lines stand in their scripts
never matters. -/

namespace TableScript

/-- Which lines stand for one another, what was recorded on each side before they are compared, and the
features that the second script has in any case, so that they do not count. -/
structure Comparison where
  pairs : SourceLine → SourceLine → Prop
  sameText : ∀ {line other : SourceLine}, pairs line other → other.text = line.text
  before : Journal := []
  otherBefore : Journal := []
  known : List String := []

/-- Two diagnostics that say the same at the same place of two lines that stand for one another. -/
structure Diagnostic.Alike (pairs : SourceLine → SourceLine → Prop) (first second : Diagnostic) : Prop where
  message : second.message = first.message
  severity : second.severity = first.severity
  kind : second.kind = first.kind
  suggestion : second.suggestion = first.suggestion
  place : ∃ line other, pairs line other ∧ ∃ offset : Nat,
    first.line = line.number ∧ first.column = line.columnOf offset ∧
      second.line = other.number ∧ second.column = other.columnOf offset

structure InlineUse.Alike (pairs : SourceLine → SourceLine → Prop) (first second : InlineUse) : Prop where
  reference : second.reference = first.reference
  columnId : second.columnId = first.columnId
  line : pairs first.line second.line

namespace ReadState

structure Alike (comparison : Comparison) (first second : ReadState) : Prop where
  catalog : second.catalog = first.catalog
  references : second.references = first.references
  inlineUses : List.Forall₂ (InlineUse.Alike comparison.pairs) first.inlineUses second.inlineUses
  journal : ∃ found others, first.journal = comparison.before ++ found ∧
    second.journal = comparison.otherBefore ++ others ∧
      List.Forall₂ (Diagnostic.Alike comparison.pairs) found others
  features : second.features.filter (· ∉ comparison.known) =
    first.features.filter (· ∉ comparison.known)
  known : ∀ tag ∈ comparison.known, tag ∈ second.features
  tablesNumbered : second.tablesNumbered = first.tablesNumbered
  columnsNumbered : second.columnsNumbered = first.columnsNumbered
  referencesNumbered : second.referencesNumbered = first.referencesNumbered

/-- The states are alike, and what comes with them is the same. -/
structure AlikeWith {α : Type} (comparison : Comparison) (first second : ReadState × α) : Prop where
  state : Alike comparison first.1 second.1
  value : second.2 = first.2

theorem AlikeWith.exists_states {α : Type} {comparison : Comparison} {first second : ReadState × α}
    (alike : AlikeWith comparison first second) :
    ∃ state same value, first = (state, value) ∧ second = (same, value) ∧
      Alike comparison state same :=
  ⟨first.1, second.1, first.2, rfl, Prod.ext rfl alike.value, alike.state⟩

theorem AlikeWith.foldl {α β γ : Type} {comparison : Comparison} {related : β → γ → Prop}
    {f : ReadState × α → β → ReadState × α} {g : ReadState × α → γ → ReadState × α}
    (step : ∀ {first second} value item same, Alike comparison first second → related item same →
      AlikeWith comparison (f (first, value) item) (g (second, value) same))
    {items : List β} {others : List γ} (aligned : List.Forall₂ related items others)
    {first second : ReadState × α} (alike : AlikeWith comparison first second) :
    AlikeWith comparison (items.foldl f first) (others.foldl g second) := by
  induction aligned generalizing first second with
  | nil => exact alike
  | cons pair _ ih =>
      obtain ⟨state, same, value, rfl, rfl, together⟩ := alike.exists_states
      exact ih (step value _ _ together pair)

theorem AlikeWith.foldl_same {α β : Type} {comparison : Comparison}
    {f g : ReadState × α → β → ReadState × α}
    (step : ∀ {first second} value item, Alike comparison first second →
      AlikeWith comparison (f (first, value) item) (g (second, value) item))
    (items : List β) {first second : ReadState × α} (alike : AlikeWith comparison first second) :
    AlikeWith comparison (items.foldl f first) (items.foldl g second) := by
  have aligned : List.Forall₂ Eq items items := List.forall₂_same.mpr fun _ _ => rfl
  refine AlikeWith.foldl (fun value item same together equal => ?_) aligned alike
  rw [← equal]
  exact step value item together

theorem mem_features_addFeature {state : ReadState} {noted : String} (member : noted ∈ state.features)
    (tag : String) : noted ∈ (state.addFeature tag).features := by
  unfold addFeature
  split
  · exact member
  · exact List.mem_append_left _ member

/-- Noting a feature changes those that count at most by the feature itself. -/
theorem filter_features_addFeature (state : ReadState) (tag : String) (known : List String) :
    (state.addFeature tag).features.filter (· ∉ known) =
      if tag ∈ known ∨ tag ∈ state.features.filter (· ∉ known) then
        state.features.filter (· ∉ known)
      else state.features.filter (· ∉ known) ++ [tag] := by
  unfold addFeature
  by_cases noted : tag ∈ state.features <;> by_cases silent : tag ∈ known <;>
    simp [noted, silent, List.filter_append]

variable {comparison : Comparison} {first second : ReadState} {line other : SourceLine}

namespace Alike

/-- A state is like itself with more said, and perhaps with other features that do not count. -/
theorem ofSame (state : ReadState) {said : Journal} {features : List String}
    (lines : ∀ use ∈ state.inlineUses, comparison.pairs use.line use.line)
    (before : comparison.before = state.journal)
    (otherBefore : comparison.otherBefore = state.journal ++ said)
    (same : features.filter (· ∉ comparison.known) = state.features.filter (· ∉ comparison.known))
    (known : ∀ tag ∈ comparison.known, tag ∈ features) :
    Alike comparison state { state with journal := state.journal ++ said, features } where
  catalog := rfl
  references := rfl
  inlineUses := List.forall₂_same.mpr fun use member => ⟨rfl, rfl, lines use member⟩
  journal := ⟨[], [], by rw [before, List.append_nil], by rw [otherBefore, List.append_nil], .nil⟩
  features := same
  known := known
  tablesNumbered := rfl
  columnsNumbered := rfl
  referencesNumbered := rfl

/-- Every state is like itself from here on. -/
theorem refl (state : ReadState) (pairs : SourceLine → SourceLine → Prop)
    (sameText : ∀ {line other : SourceLine}, pairs line other → other.text = line.text)
    (lines : ∀ use ∈ state.inlineUses, pairs use.line use.line) :
    Alike ⟨pairs, sameText, state.journal, state.journal, []⟩ state state := by
  have same : Alike ⟨pairs, sameText, state.journal, state.journal, []⟩ state
      { state with journal := state.journal ++ [] } :=
    ofSame state lines rfl (List.append_nil _).symm rfl (List.forall_mem_nil _)
  rwa [List.append_nil] at same

theorem record (alike : Alike comparison first second) {diagnostic same : Diagnostic}
    (found : Diagnostic.Alike comparison.pairs diagnostic same) :
    Alike comparison (first.record diagnostic) (second.record same) := by
  obtain ⟨before, others, journal, otherJournal, together⟩ := alike.journal
  exact { alike with
    journal := ⟨before ++ [diagnostic], others ++ [same],
      (congrArg (· ++ _) journal).trans (List.append_assoc _ _ _),
      (congrArg (· ++ _) otherJournal).trans (List.append_assoc _ _ _),
      List.rel_append together (.cons found .nil)⟩ }

theorem reportAs (alike : Alike comparison first second) (pair : comparison.pairs line other)
    (severity : Severity) (problem : Problem) (offset : Nat) :
    Alike comparison (first.reportAs severity problem line offset)
      (second.reportAs severity problem other offset) :=
  alike.record ⟨rfl, rfl, rfl, rfl, line, other, pair, offset, rfl, rfl, rfl, rfl⟩

theorem reportAt (alike : Alike comparison first second) (pair : comparison.pairs line other)
    (problem : Problem) (offset : Nat) :
    Alike comparison (first.reportAt problem line offset) (second.reportAt problem other offset) :=
  alike.reportAs pair problem.severity problem offset

theorem report (alike : Alike comparison first second) (pair : comparison.pairs line other)
    (problem : Problem) : Alike comparison (first.report problem line) (second.report problem other) :=
  alike.reportAt pair problem 0

theorem addFeature (alike : Alike comparison first second) (tag : String) :
    Alike comparison (first.addFeature tag) (second.addFeature tag) := by
  have kept : (second.addFeature tag).features.filter (· ∉ comparison.known) =
      (first.addFeature tag).features.filter (· ∉ comparison.known) := by
    rw [filter_features_addFeature, filter_features_addFeature, alike.features]
  have known : ∀ noted ∈ comparison.known, noted ∈ (second.addFeature tag).features :=
    fun noted member => mem_features_addFeature (alike.known noted member) tag
  unfold ReadState.addFeature at kept known ⊢
  split <;> split <;> simp only [*] at kept known <;>
    exact { alike with features := kept, known := known }

theorem numberTable (alike : Alike comparison first second) :
    Alike comparison first.numberTable.2 second.numberTable.2 :=
  { alike with tablesNumbered := congrArg (· + 1) alike.tablesNumbered }

theorem numberColumn (alike : Alike comparison first second) :
    Alike comparison first.numberColumn.2 second.numberColumn.2 :=
  { alike with columnsNumbered := congrArg (· + 1) alike.columnsNumbered }

theorem numberReference (alike : Alike comparison first second) :
    Alike comparison first.numberReference.2 second.numberReference.2 :=
  { alike with referencesNumbered := congrArg (· + 1) alike.referencesNumbered }

theorem reportUnknown (alike : Alike comparison first second) (pair : comparison.pairs line other)
    (policy : Policy) (owner : SettingOwner) (setting : Setting) :
    Alike comparison (first.reportUnknown policy owner setting line)
      (second.reportUnknown policy owner setting other) := by
  unfold ReadState.reportUnknown
  split
  · exact alike.report pair _
  · exact alike

theorem takeAction (alike : Alike comparison first second) (pair : comparison.pairs line other)
    (setting : Setting) :
    AlikeWith comparison (first.takeAction line setting) (second.takeAction other setting) := by
  unfold ReadState.takeAction
  split
  · exact ⟨alike.report pair _, rfl⟩
  · split
    · exact ⟨alike, rfl⟩
    · exact ⟨alike.report pair _, rfl⟩

theorem takeTableSetting (alike : Alike comparison first second) (pair : comparison.pairs line other)
    (policy : Policy) (table : Table) (setting : Setting) :
    AlikeWith comparison (ReadState.takeTableSetting policy line (first, table) setting)
      (ReadState.takeTableSetting policy other (second, table) setting) := by
  unfold ReadState.takeTableSetting
  dsimp only
  split
  · exact ⟨alike, rfl⟩
  · exact ⟨alike.reportUnknown pair policy .table setting, rfl⟩

theorem takeReferenceSetting (alike : Alike comparison first second)
    (pair : comparison.pairs line other) (policy : Policy) (reference : Reference) (setting : Setting) :
    AlikeWith comparison (ReadState.takeReferenceSetting policy line (first, reference) setting)
      (ReadState.takeReferenceSetting policy other (second, reference) setting) := by
  have taken := alike.takeAction pair setting
  unfold ReadState.takeReferenceSetting
  dsimp only
  split
  · exact ⟨taken.state, congrArg (fun action => { reference with onDelete := action }) taken.value⟩
  · split
    · exact ⟨taken.state, congrArg (fun action => { reference with onUpdate := action }) taken.value⟩
    · exact ⟨alike.reportUnknown pair policy .reference setting, rfl⟩

theorem takeInlineReference (alike : Alike comparison first second)
    (pair : comparison.pairs line other) (table : Table) (column : Column) (setting : Setting) :
    AlikeWith comparison (ReadState.takeInlineReference line table (first, column) setting)
      (ReadState.takeInlineReference other table (second, column) setting) := by
  unfold ReadState.takeInlineReference
  dsimp only
  split
  · exact ⟨alike.report pair _, rfl⟩
  · -- The reference has the same number on both sides, so it is the same reference.
    have number : second.numberReference.1 = first.numberReference.1 :=
      congrArg (fun number : Nat => "ref_" ++ toString number) alike.referencesNumbered
    rw [number]
    refine ⟨{ alike.numberReference with references := ?_, inlineUses := ?_ }, rfl⟩
    · exact congrArg (· ++ _) alike.references
    · exact List.rel_append alike.inlineUses (.cons ⟨rfl, rfl, pair⟩ .nil)

theorem takeColumnSetting (alike : Alike comparison first second)
    (pair : comparison.pairs line other) (policy : Policy) (table : Table) (column : Column)
    (setting : Setting) :
    AlikeWith comparison (ReadState.takeColumnSetting policy line table (first, column) setting)
      (ReadState.takeColumnSetting policy other table (second, column) setting) := by
  unfold ReadState.takeColumnSetting
  dsimp only
  repeat' split
  · exact ⟨alike, rfl⟩
  · exact ⟨alike, rfl⟩
  · exact ⟨alike, rfl⟩
  · exact ⟨alike.report pair _, rfl⟩
  · exact ⟨alike, rfl⟩
  · exact ⟨alike, rfl⟩
  · exact alike.takeInlineReference pair table column setting
  · exact ⟨alike.reportUnknown pair policy .column setting, rfl⟩

theorem foldl_takeTableSetting (alike : Alike comparison first second)
    (pair : comparison.pairs line other) (policy : Policy) (table : Table) (settings : List Setting) :
    AlikeWith comparison (settings.foldl (ReadState.takeTableSetting policy line) (first, table))
      (settings.foldl (ReadState.takeTableSetting policy other) (second, table)) :=
  AlikeWith.foldl_same (fun table setting together => together.takeTableSetting pair policy table setting)
    settings ⟨alike, rfl⟩

theorem foldl_takeReferenceSetting (alike : Alike comparison first second)
    (pair : comparison.pairs line other) (policy : Policy) (reference : Reference)
    (settings : List Setting) :
    AlikeWith comparison (settings.foldl (ReadState.takeReferenceSetting policy line) (first, reference))
      (settings.foldl (ReadState.takeReferenceSetting policy other) (second, reference)) :=
  AlikeWith.foldl_same
    (fun reference setting together => together.takeReferenceSetting pair policy reference setting)
    settings ⟨alike, rfl⟩

theorem foldl_takeColumnSetting (alike : Alike comparison first second)
    (pair : comparison.pairs line other) (policy : Policy) (table : Table) (column : Column)
    (settings : List Setting) :
    AlikeWith comparison (settings.foldl (ReadState.takeColumnSetting policy line table) (first, column))
      (settings.foldl (ReadState.takeColumnSetting policy other table) (second, column)) :=
  AlikeWith.foldl_same
    (fun column setting together => together.takeColumnSetting pair policy table column setting)
    settings ⟨alike, rfl⟩

end Alike

end ReadState

end TableScript
