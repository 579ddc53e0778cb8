import Mathlib.Data.List.Perm.Subperm
import TableScript.Proofs.Read.Sound.Script

namespace TableScript.ReadState

open List

variable {state : ReadState} {use : InlineUse} {rest : List InlineUse} {check : TargetCheck}

/-- What looking after inline references leaves of a state; `rest` are those still to come. -/
structure Checked (check : TargetCheck) (before : ReadState) (rest : List InlineUse)
    (after : ReadState) : Prop where
  grounded : after.Grounded after.catalog.tables
  kept : after.references.Sublist before.references
  complete : check ≠ .fail → after.references = before.references
  listed : rest.map InlineUse.reference <+~ after.references

/-- What is kept where one inline reference is looked after is kept where all of them are. -/
theorem checkInlines_keeps {motive : ReadState → Prop} {before after : ReadState}
    (done : checkInlines check before = .ok after) (holds : motive before)
    (step : ∀ {state next : ReadState} {use : InlineUse}, motive state →
      checkInline check state use = .ok next → motive next) : motive after := by
  have folded : ∀ (uses : List InlineUse) (state : ReadState), motive state →
      uses.foldlM (checkInline check) state = .ok after → motive after := by
    intro uses
    induction uses with
    | nil =>
        intro state holds done
        cases done
        exact holds
    | cons use uses ih =>
        intro state holds done
        rw [List.foldlM_cons] at done
        cases first : checkInline check state use with
        | error failure =>
            rw [first] at done
            cases done
        | ok next =>
            rw [first] at done
            exact ih next (step holds first) done
  cases check with
  | ignore =>
      cases done
      exact holds
  | warn | fail => exact folded before.inlineUses before holds done

theorem kind_of_missingTarget? {catalog : Catalog} {target : Endpoint} {problem : Problem}
    (missing : missingTarget? catalog target = some problem) : problem.kind ≠ .internal := by
  unfold missingTarget? at missing
  repeat' split at missing
  all_goals cases missing
  all_goals simp [Problem.kind]

theorem Grounded.reportAs {tables : List Table} (grounded : state.Grounded tables)
    (severity : Severity) {problem : Problem} (calm : problem.kind ≠ .internal)
    (line : SourceLine) (offset : Nat) :
    (state.reportAs severity problem line offset).Grounded tables := by
  refine { grounded with calm := fun diagnostic member => ?_ }
  rcases List.mem_append.mp member with old | new
  · exact grounded.calm diagnostic old
  · rw [List.mem_singleton.mp new]
    exact calm

theorem dropInline_checked (state : ReadState) (grounded : state.Grounded state.catalog.tables)
    (listed : (use :: rest).map InlineUse.reference <+~ state.references) :
    ∃ after, state.dropInline use = .ok after ∧ after.Grounded after.catalog.tables ∧
      after.references.Sublist state.references ∧
      rest.map InlineUse.reference <+~ after.references := by
  have there : use.reference ∈ state.references := listed.subset (by simp)
  have remaining := listed.erase use.reference
  rw [List.map_cons, List.erase_cons_head] at remaining
  simp only [dropInline, if_pos there]
  refine ⟨_, rfl, ?_, List.erase_sublist, remaining⟩
  have fewer : Grounded state.catalog.tables
      { state with references := state.references.erase use.reference } :=
    { grounded with
      inline := fun reference member => grounded.inline reference (List.mem_of_mem_erase member)
      standalone := fun reference member =>
        grounded.standalone reference (List.mem_of_mem_erase member) }
  exact { fewer.marked (Catalog.isMarking_setForeignKey use.columnId
    ((state.references.erase use.reference).any (·.source == use.reference.source))) with }

theorem checkInline_checked (check : TargetCheck)
    (grounded : state.Grounded state.catalog.tables)
    (listed : (use :: rest).map InlineUse.reference <+~ state.references) :
    ∃ after, checkInline check state use = .ok after ∧ Checked check state rest after := by
  have behind : rest.map InlineUse.reference <+~ state.references :=
    ((List.sublist_cons_self _ _).subperm).trans listed
  unfold checkInline
  cases missing : missingTarget? state.catalog use.reference.target with
  | none => exact ⟨state, rfl, grounded, List.Sublist.refl _, fun _ => rfl, behind⟩
  | some problem =>
      have calm := kind_of_missingTarget? missing
      cases check with
      | ignore => exact ⟨state, rfl, grounded, List.Sublist.refl _, fun _ => rfl, behind⟩
      | warn =>
          exact ⟨_, rfl, grounded.reportAs .warning calm use.line 0, List.Sublist.refl _,
            fun _ => rfl, behind⟩
      | fail =>
          obtain ⟨after, dropped, kept, sublist, remaining⟩ :=
            dropInline_checked (state.reportAs .error problem use.line 0)
              (grounded.reportAs .error calm use.line 0) listed
          exact ⟨after, dropped, kept, sublist, fun other => absurd rfl other, remaining⟩

theorem foldlM_checkInline_checked {uses : List InlineUse}
    (grounded : state.Grounded state.catalog.tables)
    (listed : uses.map InlineUse.reference <+~ state.references) :
    ∃ after, uses.foldlM (checkInline check) state = .ok after ∧ Checked check state [] after := by
  induction uses generalizing state with
  | nil => exact ⟨state, rfl, grounded, List.Sublist.refl _, fun _ => rfl, List.nil_subperm⟩
  | cons use rest ih =>
      obtain ⟨middle, first, checked⟩ := checkInline_checked check grounded listed
      obtain ⟨after, last, done⟩ := ih checked.grounded checked.listed
      refine ⟨after, ?_, done.grounded, done.kept.trans checked.kept, fun other => ?_, done.listed⟩
      · rw [List.foldlM_cons, first]
        exact last
      · rw [done.complete other, checked.complete other]

/-- Looking after the inline references of everything read never fails. -/
theorem checkInlines_checked (sound : state.Sound state.catalog.tables) (check : TargetCheck) :
    ∃ after, checkInlines check state = .ok after ∧ Checked check state [] after := by
  have listed : state.inlineUses.map InlineUse.reference <+~ state.references := by
    rw [sound.uses]
    exact List.filter_sublist.subperm
  cases check with
  | ignore =>
      exact ⟨state, rfl, sound.toGrounded, List.Sublist.refl _, fun _ => rfl, List.nil_subperm⟩
  | warn | fail => exact foldlM_checkInline_checked sound.toGrounded listed

/-- A script is read to its end, and then its inline references are looked after. -/
theorem ofLines_checked (policy : Policy) (script : String) :
    ∃ read after, readLines policy .none {} (SourceLine.ofScript script) = (read, none) ∧
      read.Sound read.catalog.tables ∧ checkInlines policy.targetCheck read = .ok after ∧
      Checked policy.targetCheck read [] after ∧
      ofLines policy .none (SourceLine.ofScript script) = after := by
  have oneLine : ∀ line ∈ SourceLine.ofScript script, '\n' ∉ line.text.toList :=
    fun line member => SourceLine.lineFeed_not_mem member
  have initial : Sound ({} : ReadState).catalog.tables {} := Sound.initial
  obtain ⟨complete, sound⟩ := readLines_sound policy initial oneLine
  cases lines : readLines policy .none {} (SourceLine.ofScript script) with
  | mk read failure =>
      rw [lines] at complete sound
      cases complete
      obtain ⟨after, done, checked⟩ := checkInlines_checked sound policy.targetCheck
      exact ⟨read, after, rfl, sound, done, checked, by simp only [ofLines, lines, done]⟩

end TableScript.ReadState
