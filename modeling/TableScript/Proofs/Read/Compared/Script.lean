import TableScript.Proofs.Read.Compared.Table
import TableScript.Proofs.Read.Step

namespace TableScript.ReadState

variable {comparison : Comparison} {policy : Policy} {interrupts : Interrupts}
  {first second after : ReadState} {line other : SourceLine} {following others rest : List SourceLine}

namespace Alike

theorem readReference (alike : Alike comparison first second) (pair : comparison.pairs line other)
    (policy : Policy) :
    Alike comparison (ReadState.readReference policy first line)
      (ReadState.readReference policy second other) := by
  unfold ReadState.readReference
  rw [comparison.sameText pair, alike.catalog]
  split
  · exact alike.report pair _
  · rename_i written _
    split
    · exact alike.reportAt pair _ _
    · have number : second.numberReference.1 = first.numberReference.1 :=
        congrArg (fun number : Nat => "ref_" ++ toString number) alike.referencesNumbered
      obtain ⟨state, same, reference, read, reread, together⟩ :=
        (alike.numberReference.foldl_takeReferenceSetting pair policy
          { id := first.numberReference.1, source := written.source, target := written.target,
            cardinality := written.cardinality, name := written.name.map String.ofList }
          (Setting.readAll (written.settings.getD []))).exists_states
      dsimp only
      rw [number, read, reread, together.catalog, together.references]
      exact { together with catalog := rfl, references := rfl }

theorem readKind (alike : Alike comparison first second) (pair : comparison.pairs line other)
    (aligned : List.Forall₂ comparison.pairs following others) {kind : LineKind}
    (done : ReadState.readKind policy first kind line following = .ok (after, rest)) :
    ∃ same left, ReadState.readKind policy second kind other others = .ok (same, left) ∧
      Continue comparison (after, rest) (same, left) := by
  cases kind with
  | table => exact alike.readTable pair aligned policy done
  | ref =>
      cases done
      exact ⟨_, _, rfl, alike.readReference pair policy, aligned⟩
  | enum | project | tableGroup | indexes =>
      cases done
      exact ⟨_, _, rfl, (alike.noticeBlock pair _ _).skipBlock pair aligned⟩
  | columnLike | note | brace | unknown =>
      cases done
      refine ⟨_, _, rfl, ?_, aligned⟩
      rw [comparison.sameText pair]
      exact alike.report pair _

/-- What one step does in the first script, it does in the second. -/
theorem step (alike : Alike comparison first second) (pair : comparison.pairs line other)
    (aligned : List.Forall₂ comparison.pairs following others)
    (done : ReadState.step policy interrupts first line following = .ok (after, rest)) :
    ∃ same left, ReadState.step policy interrupts second other others = .ok (same, left) ∧
      Continue comparison (after, rest) (same, left) := by
  obtain ⟨free, read⟩ := step_eq_ok_iff.mp done
  obtain ⟨same, left, reread, continues⟩ := alike.readKind pair aligned read
  exact ⟨same, left, step_eq_ok_iff.mpr (by rw [comparison.sameText pair]; exact ⟨free, reread⟩),
    continues⟩

/-- Where the first script is read to its end, the second one is, and alike. -/
theorem readLines (alike : Alike comparison first second)
    (aligned : List.Forall₂ comparison.pairs following others)
    (done : ReadState.readLines policy interrupts first following = (after, none)) :
    ∃ same, ReadState.readLines policy interrupts second others = (same, none) ∧
      Alike comparison after same := by
  fun_induction ReadState.readLines policy interrupts first following generalizing second others with
  | case1 state =>
      cases aligned
      cases done
      exact ⟨second, by rw [ReadState.readLines], alike⟩
  | case2 state line following behind rest read ih =>
      obtain _ | ⟨pair, aligned⟩ := aligned
      obtain ⟨same, left, reread, continues⟩ := alike.step pair aligned read
      rw [readLines_cons reread]
      exact ih continues.state continues.rest done
  | case3 state line following failure failed => cases done

theorem dropInline (alike : Alike comparison first second) {use again : InlineUse}
    (uses : InlineUse.Alike comparison.pairs use again)
    (done : first.dropInline use = .ok after) :
    ∃ same, second.dropInline again = .ok same ∧ Alike comparison after same := by
  unfold ReadState.dropInline at done ⊢
  rw [alike.references, alike.catalog, uses.reference, uses.columnId]
  split at done
  · rename_i listed
    cases done
    rw [if_pos listed]
    exact ⟨_, rfl, { alike with catalog := rfl, references := rfl }⟩
  · cases done

theorem checkInline (alike : Alike comparison first second) {use again : InlineUse}
    (uses : InlineUse.Alike comparison.pairs use again) {check : TargetCheck}
    (done : ReadState.checkInline check first use = .ok after) :
    ∃ same, ReadState.checkInline check second again = .ok same ∧ Alike comparison after same := by
  unfold ReadState.checkInline at done ⊢
  rw [alike.catalog, uses.reference]
  cases missing : missingTarget? first.catalog use.reference.target with
  | none =>
      rw [missing] at done
      cases done
      exact ⟨second, rfl, alike⟩
  | some problem =>
      rw [missing] at done
      cases check with
      | ignore =>
          cases done
          exact ⟨second, rfl, alike⟩
      | warn =>
          cases done
          exact ⟨_, rfl, alike.reportAs uses.line .warning problem 0⟩
      | fail => exact (alike.reportAs uses.line .error problem 0).dropInline uses done

theorem foldlM_checkInline {uses others : List InlineUse} (alike : Alike comparison first second)
    (aligned : List.Forall₂ (InlineUse.Alike comparison.pairs) uses others) {check : TargetCheck}
    (done : uses.foldlM (ReadState.checkInline check) first = .ok after) :
    ∃ same, others.foldlM (ReadState.checkInline check) second = .ok same ∧
      Alike comparison after same := by
  induction aligned generalizing first second with
  | nil =>
      cases done
      exact ⟨second, rfl, alike⟩
  | @cons use again _ _ pair _ ih =>
      rw [List.foldlM_cons] at done ⊢
      cases checked : ReadState.checkInline check first use with
      | error failure =>
          rw [checked] at done
          cases done
      | ok middle =>
          rw [checked] at done
          obtain ⟨same, rechecked, together⟩ := alike.checkInline pair checked
          rw [rechecked]
          exact ih together done

theorem checkInlines (alike : Alike comparison first second) {check : TargetCheck}
    (done : ReadState.checkInlines check first = .ok after) :
    ∃ same, ReadState.checkInlines check second = .ok same ∧ Alike comparison after same := by
  cases check with
  | ignore =>
      cases done
      exact ⟨second, rfl, alike⟩
  | warn | fail => exact alike.foldlM_checkInline alike.inlineUses done

end Alike

/-- Features that count are used alike. -/
theorem Alike.featuresUsed (alike : Alike comparison first second) :
    second.featuresUsed.filter (· ∉ comparison.known) =
      first.featuresUsed.filter (· ∉ comparison.known) := by
  unfold ReadState.featuresUsed
  rw [alike.catalog, alike.references, List.filter_append, List.filter_append, alike.features]

/-- What was found of a severity since the comparison began. -/
theorem Alike.ofSeverity (alike : Alike comparison first second) (severity : Severity) :
    ∃ found others, first.journal.ofSeverity severity = comparison.before.ofSeverity severity ++ found ∧
      second.journal.ofSeverity severity = comparison.otherBefore.ofSeverity severity ++ others ∧
        List.Forall₂ (Diagnostic.Alike comparison.pairs) found others := by
  obtain ⟨found, others, journal, otherJournal, together⟩ := alike.journal
  refine ⟨Journal.ofSeverity found severity, Journal.ofSeverity others severity, ?_, ?_, ?_⟩
  · rw [journal]
    exact List.filter_append _ _
  · rw [otherJournal]
    exact List.filter_append _ _
  · refine List.rel_filter (fun one other same => ?_) together
    dsimp only
    rw [same.severity]

end TableScript.ReadState
