import TableScript.Proofs.Read.Extension
import TableScript.Proofs.Read.TargetCheck
import TableScript.Proofs.Read.Unread

namespace TableScript

namespace ReadState

variable {policy : Policy} {interrupts : Interrupts} {state after : ReadState} {line : SourceLine}
  {lines following rest : List SourceLine}

/-- The lines at which steps begin when nothing is held up. The others belong to a table or to a block
that is skipped. -/
def stepLines (policy : Policy) (state : ReadState) : List SourceLine → List SourceLine
  | [] => []
  | line :: following =>
      match _done : step policy .none state line following with
      | .ok (after, rest) => line :: stepLines policy after rest
      | .error _ => [line]
termination_by lines => lines.length
decreasing_by
  have := (step_suffix _done).length_le
  simp only [List.length_cons]
  omega

/-- What holds up the step that begins at the line. -/
def heldUp? (interrupts : Interrupts) (line : SourceLine) : Option String :=
  interrupts (LineKind.classify false line.text.toList)

theorem step_of_heldUp {reason : String} (held : heldUp? interrupts line = some reason) :
    step policy interrupts state line following = .error (.interrupted reason) := by
  unfold heldUp? at held
  simp only [step, held]

theorem step_of_free (policy : Policy) (state : ReadState) (following : List SourceLine)
    (free : heldUp? interrupts line = none) :
    step policy interrupts state line following = step policy .none state line following := by
  unfold heldUp? at free
  simp only [step, free, Interrupts.none]

/-- Where no step is held up, holding up makes no difference. -/
theorem readLines_of_free (free : ∀ line ∈ stepLines policy state lines, heldUp? interrupts line = none) :
    readLines policy interrupts state lines = readLines policy .none state lines := by
  fun_induction stepLines policy state lines with
  | case1 state => rw [readLines, readLines]
  | case2 state line following after rest done ih =>
      have same := step_of_free policy state following (free line List.mem_cons_self)
      rw [readLines_cons done, readLines_cons (same.trans done)]
      exact ih fun other member => free other (List.mem_cons_of_mem line member)
  | case3 state line following failure failed =>
      have same := step_of_free policy state following (free line List.mem_cons_self)
      rw [readLines_cons_of_failure failed, readLines_cons_of_failure (same.trans failed)]

/-- Reading stops at the line, which is held up. The lines in front of it are read to their end, and what
they give is what was read when reading stopped. -/
def StopsAt (policy : Policy) (interrupts : Interrupts) (state : ReadState) (lines : List SourceLine)
    (line : SourceLine) : Prop :=
  ∃ front behind reason, lines = front ++ line :: behind ∧ heldUp? interrupts line = some reason ∧
    (readLines policy .none state front).2 = none ∧
    readLines policy interrupts state lines =
      ((readLines policy .none state front).1, some (line, .interrupted reason))

theorem stopsAt_head (held : (heldUp? interrupts line).isSome = true) :
    StopsAt policy interrupts state (line :: following) line := by
  obtain ⟨reason, held⟩ := Option.isSome_iff_exists.mp held
  refine ⟨[], following, reason, rfl, held, ?_, ?_⟩
  · rw [readLines]
  · rw [readLines_cons_of_failure (step_of_heldUp held), readLines]

/-- Where reading stops behind a step, the step reads nothing from there on and is the same without it. -/
theorem StopsAt.cons {begin : SourceLine} (stops : StopsAt policy interrupts after rest line)
    (free : heldUp? interrupts begin = none)
    (done : step policy .none state begin following = .ok (after, rest)) :
    StopsAt policy interrupts state (begin :: following) line := by
  obtain ⟨front, behind, reason, split, held, complete, stopped⟩ := stops
  obtain ⟨taken, consumed⟩ := step_suffix done
  have unread : following = (taken ++ front) ++ line :: behind := by
    rw [← consumed, split, List.append_assoc]
  rw [unread] at done
  obtain ⟨left, same, cut⟩ := step_append done (by rw [split]; exact List.suffix_append _ _)
  rw [split] at same
  have sameFront := List.append_cancel_right same
  subst sameFront
  have whole := step_of_free policy state ((taken ++ front) ++ line :: behind) free
  refine ⟨begin :: (taken ++ front), behind, reason, by rw [unread]; rfl, held, ?_, ?_⟩
  · rw [readLines_cons cut]
    exact complete
  · rw [unread, readLines_cons (whole.trans done), readLines_cons cut]
    exact stopped

/-- Reading stops at the first step that is held up. -/
theorem stopsAt_of_find?
    (found : (stepLines policy state lines).find? (fun line => (heldUp? interrupts line).isSome) =
      some line) : StopsAt policy interrupts state lines line := by
  fun_induction stepLines policy state lines with
  | case1 state => cases found
  | case2 state begin following after rest done ih =>
      rw [List.find?_cons] at found
      cases free : heldUp? interrupts begin with
      | some reason =>
          simp only [free, Option.isSome_some] at found
          cases found
          exact stopsAt_head (by rw [free, Option.isSome_some])
      | none =>
          simp only [free, Option.isSome_none] at found
          exact (ih found).cons free done
  | case3 state begin following failure failed =>
      rw [List.find?_singleton] at found
      split at found
      · rename_i held
        cases found
        exact stopsAt_head held
      · cases found

end ReadState

/-- No advice is given where reading stopped. -/
theorem advice?_stopped (reason : String) : advice? (Problem.stopped reason).message = none := by
  have starts : (Problem.stopped reason).message.toList =
      'F' :: ("atal parsing error: ".toList ++ reason.toList) := by
    have label : "Fatal parsing error: ".toList = 'F' :: "atal parsing error: ".toList := by
      decide +kernel
    calc (Problem.stopped reason).message.toList
        = "Fatal parsing error: ".toList ++ reason.toList := String.toList_append
      _ = 'F' :: ("atal parsing error: ".toList ++ reason.toList) := by rw [label, List.cons_append]
  have begins : ∀ entry ∈ adviceTable, entry.1.toList.head?.any (· ≠ 'F') = true := by
    decide +kernel
  rw [advice?, Option.map_eq_none_iff, List.find?_eq_none]
  intro entry member
  obtain ⟨c, head, other⟩ := (Option.any_eq_true _ _).mp (begins entry member)
  obtain ⟨word, text⟩ := List.head?_eq_some_iff.mp head
  rw [text, starts, Text.after?, if_neg (of_decide_eq_true other)]
  exact Bool.false_ne_true

/-- What is said where reading stops. -/
def stopNotice (line : SourceLine) (reason : String) : Diagnostic where
  line := line.number
  column := line.indent + 1
  message := "Fatal parsing error: " ++ reason
  severity := .error
  kind := .internal

theorem ReadState.report_stopped (state : ReadState) (line : SourceLine) (reason : String) :
    state.report (.stopped reason) line =
      { state with journal := state.journal ++ [stopNotice line reason] } := by
  have place : line.columnOf 0 = line.indent + 1 := by
    rw [SourceLine.columnOf, Int.add_zero]
  have said : Diagnostic.make .error .internal line.number (line.columnOf 0)
      (Problem.stopped reason).message none = stopNotice line reason := by
    rw [Diagnostic.make, advice?_stopped, place]
    rfl
  rw [← said]
  rfl

/-- What a script gives where reading stops is what the text in front of the line gives, without a check of
targets, and the notice. -/
theorem ReadState.StopsAt.ofLines_eq {policy : Policy} {interrupts : Interrupts} {script : String}
    {line : SourceLine} (stops : StopsAt policy interrupts {} (SourceLine.ofScript script) line) :
    let front := SourceLine.textBefore script line.number
    let before := ofLines { policy with targetCheck := .ignore } .none (SourceLine.ofScript front)
    ∃ behind reason, SourceLine.ofScript script = SourceLine.ofScript front ++ line :: behind ∧
      heldUp? interrupts line = some reason ∧
      ofLines policy interrupts (SourceLine.ofScript script) =
        { before with journal := before.journal ++ [stopNotice line reason] } := by
  obtain ⟨front, behind, reason, lines, held, _, stopped⟩ := stops
  have frontLines := SourceLine.ofScript_textBefore_eq lines
  obtain ⟨read, after, complete, _, ignored, _, finished⟩ :=
    ofLines_checked { policy with targetCheck := .ignore } (SourceLine.textBefore script line.number)
  cases ignored
  rw [frontLines, readLines_targetCheck .ignore policy.targetCheck] at complete
  rw [complete] at stopped
  refine ⟨behind, reason, by rw [frontLines, lines], held, ?_⟩
  rw [finished, ← report_stopped]
  simp only [ofLines, stopped]
  rfl

/-- Steps that begin at lines of one kind are held up, for one reason. -/
def Interrupts.only (kind : LineKind) (reason : String) : Interrupts :=
  fun other => if other = kind then some reason else Option.none

/-- What is left of a script in which the lines of one kind are held up. If no step begins at such a line,
nothing is missing. Otherwise the tables, the references and the diagnostics are those of the text in
front of the first one, with targets not checked, and one more error says where and why reading stopped.
All lines of the script count. -/
theorem Reading.ofInterrupted_only (policy : Policy) (kind : LineKind) (reason script : String) :
    let interrupted := ofInterrupted policy (.only kind reason) script
    match (ReadState.stepLines policy {} (SourceLine.ofScript script)).find?
      (fun line => LineKind.classify false line.text.toList == kind) with
    | none => interrupted = ofScript policy script
    | some line =>
        let front := SourceLine.textBefore script line.number
        let before := ofScript { policy with targetCheck := .ignore } front
        (front.toList <+: script.toList ∧
            ∃ behind, SourceLine.ofScript script = SourceLine.ofScript front ++ line :: behind) ∧
          interrupted.tables = before.tables ∧ interrupted.references = before.references ∧
          interrupted.warnings = before.warnings ∧
          interrupted.errors = before.errors ++ [stopNotice line reason] ∧
          interrupted.lineCount = (ofScript policy script).lineCount := by
  intro interrupted
  have holds : (fun line : SourceLine => LineKind.classify false line.text.toList == kind) =
      fun line => (ReadState.heldUp? (.only kind reason) line).isSome := by
    funext line
    unfold ReadState.heldUp? Interrupts.only
    split <;> simp [*]
  rw [holds]
  cases found : (ReadState.stepLines policy {} (SourceLine.ofScript script)).find?
      (fun line => (ReadState.heldUp? (.only kind reason) line).isSome) with
  | none =>
      have free : ∀ line ∈ ReadState.stepLines policy {} (SourceLine.ofScript script),
          ReadState.heldUp? (.only kind reason) line = none := by
        intro line member
        simpa using List.find?_eq_none.mp found line member
      simp only [interrupted, ofScript, ofInterrupted, ReadState.ofLines,
        ReadState.readLines_of_free free]
  | some line =>
      obtain ⟨behind, given, lines, held, left⟩ := (ReadState.stopsAt_of_find? found).ofLines_eq
      have same : given = reason := by
        unfold ReadState.heldUp? Interrupts.only at held
        split at held
        · exact (Option.some.inj held).symm
        · cases held
      subst same
      refine ⟨⟨SourceLine.textBefore_prefix script line.number, behind, lines⟩, ?_⟩
      have errors (journal : Journal) : Journal.errors (journal ++ [stopNotice line given]) =
          journal.errors ++ [stopNotice line given] :=
        Journal.errors_append _ _
      have warnings (journal : Journal) : Journal.warnings (journal ++ [stopNotice line given]) =
          journal.warnings :=
        (List.filter_append _ _).trans (List.append_nil _)
      simp only [interrupted, ofScript, ofInterrupted, left, errors, warnings, and_self]

/-- A header without a body hands back the line behind it, where reading stops. -/
theorem Reading.ofInterrupted_only_handedBack :
    let script := "Table t\nRef: t.a > t.a\nTable u \x7b\n  a integer"
    let line : SourceLine := ⟨"Ref: t.a > t.a", 2, 0⟩
    let interrupted := ofInterrupted {} (.only .ref "held") script
    let before := ofScript {} (SourceLine.textBefore script 2)
    (ReadState.stepLines {} {} (SourceLine.ofScript script)).find?
        (fun line => LineKind.classify false line.text.toList == .ref) = some line ∧
      interrupted.tables = before.tables ∧
      interrupted.errors = before.errors ++ [stopNotice line "held"] := by
  intro script line interrupted before
  have found : (ReadState.stepLines {} {} (SourceLine.ofScript script)).find?
      (fun line => LineKind.classify false line.text.toList == .ref) = some line := by
    decide +kernel
  have stopped := Reading.ofInterrupted_only {} .ref "held" script
  rw [found] at stopped
  exact ⟨found, stopped.2.1, stopped.2.2.2.2.1⟩

end TableScript
