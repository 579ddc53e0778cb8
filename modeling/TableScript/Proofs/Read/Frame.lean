import Mathlib.Data.List.Forall2
import TableScript.Proofs.Read.Step

/-! What was found before, and the inline references that were taken before, are never looked at while lines
are read. So a reading that goes on behind them adds to them what it gives without them. -/

namespace TableScript

/-- The uses are of the same reference, in lines at the same place. -/
structure InlineUse.Like (use other : InlineUse) : Prop where
  reference : other.reference = use.reference
  columnId : other.columnId = use.columnId
  number : other.line.number = use.line.number
  indent : other.line.indent = use.line.indent

theorem InlineUse.Like.refl (use : InlineUse) : use.Like use :=
  ⟨rfl, rfl, rfl, rfl⟩

namespace ReadState

/-- The state behind what was found before and inline references that were taken before. -/
def behind (journal : Journal) (uses : List InlineUse) (state : ReadState) : ReadState :=
  { state with
    journal := journal ++ state.journal
    inlineUses := uses ++ state.inlineUses }

/-- The state without what was found so far and the inline references that were taken so far. -/
def bare (state : ReadState) : ReadState :=
  { state with
    journal := []
    inlineUses := [] }

/-- Every state is behind what was found so far. -/
theorem behind_bare (state : ReadState) : state.bare.behind state.journal state.inlineUses = state := by
  simp only [behind, bare, List.append_nil]

variable {policy : Policy} {interrupts : Interrupts} {journal : Journal} {uses : List InlineUse}

theorem behind_adding (state : ReadState) (added : List InlineUse) (found : Journal) :
    (state.behind journal uses).adding added found = (state.adding added found).behind journal uses := by
  simp only [behind, adding, List.append_assoc]

theorem behind_reportAs (state : ReadState) (severity : Severity) (problem : Problem) (line : SourceLine)
    (offset : Nat) :
    (state.behind journal uses).reportAs severity problem line offset =
      (state.reportAs severity problem line offset).behind journal uses := by
  simp only [behind, reportAs, record, List.append_assoc]

theorem behind_reportAt (state : ReadState) (problem : Problem) (line : SourceLine) (offset : Nat) :
    (state.behind journal uses).reportAt problem line offset =
      (state.reportAt problem line offset).behind journal uses :=
  state.behind_reportAs problem.severity problem line offset

theorem behind_report (state : ReadState) (problem : Problem) (line : SourceLine) :
    (state.behind journal uses).report problem line =
      (state.report problem line).behind journal uses :=
  state.behind_reportAt problem line 0

theorem behind_skipBlock (state : ReadState) (header : SourceLine) (following : List SourceLine) :
    (state.behind journal uses).skipBlock header following =
      ((state.skipBlock header following).1.behind journal uses,
        (state.skipBlock header following).2) := by
  unfold skipBlock
  dsimp only
  split
  · rfl
  · rw [state.behind_report]

theorem behind_noticeBlock (state : ReadState) (block : SkippedBlock) (tag : String) (line : SourceLine) :
    (state.behind journal uses).noticeBlock block tag line =
      (state.noticeBlock block tag line).behind journal uses := by
  have noted : (state.behind journal uses).addFeature tag =
      (state.addFeature tag).behind journal uses := by
    rw [addFeature, addFeature, apply_ite (behind journal uses)]
    rfl
  rw [noticeBlock, noted]
  exact behind_report _ _ line

variable (policy) (line : SourceLine) (following : List SourceLine)

theorem behind_withColumn (state : ReadState) (table : Table) (declared : ColumnLine) :
    (state.behind journal uses).withColumn policy table line declared =
      (state.withColumn policy table line declared).behind journal uses :=
  congrArg (fun after : ReadState => { after with columnsNumbered := state.columnsNumbered + 1 })
    (state.behind_adding _ _)

theorem behind_readColumn (state : ReadState) (table : Table) :
    readColumn policy table (state.behind journal uses) line =
      (readColumn policy table state line).map (behind journal uses) id := by
  cases read : ColumnLine.read? line.text.toList with
  | none =>
      simp only [readColumn, read]
      exact Prod.ext (state.behind_report _ line) rfl
  | some declared =>
      cases accepted : declared.isAccepted with
      | true =>
          rw [readColumn_accepted read accepted, readColumn_accepted read accepted, behind_withColumn]
          rfl
      | false =>
          simp only [readColumn, read]
          split
          · exact Prod.ext (state.behind_report _ line) rfl
          · split
            · exact Prod.ext (state.behind_report _ line) rfl
            · simp_all [ColumnLine.isAccepted]

theorem behind_takeBodyItem (progress : ReadState × Table) (item : BodyItem) :
    takeBodyItem policy (progress.map (behind journal uses) id) item =
      (takeBodyItem policy progress item).map (behind journal uses) id := by
  obtain ⟨state, table⟩ := progress
  cases item with
  | column line =>
      simp only [takeBodyItem, Prod.map, id, behind_readColumn policy line state table]
      obtain ⟨after, column⟩ := readColumn policy table state line
      cases column <;> rfl
  | note line =>
      simp only [takeBodyItem, Prod.map, id, readNote]
      cases noteText? line.text.toList with
      | none => exact Prod.ext (state.behind_report _ line) rfl
      | some text =>
          cases text with
          | nil => exact Prod.ext (state.behind_report _ line) rfl
          | cons c text => rfl
  | indexes line closed =>
      simp only [takeBodyItem, Prod.map, id, behind_noticeBlock]
      cases closed with
      | true => rfl
      | false => exact Prod.ext (behind_report _ _ line) rfl
  | other line => exact Prod.ext (state.behind_report _ line) rfl

theorem behind_foldl_takeBodyItem (progress : ReadState × Table) (items : List BodyItem) :
    items.foldl (takeBodyItem policy) (progress.map (behind journal uses) id) =
      (items.foldl (takeBodyItem policy) progress).map (behind journal uses) id :=
  List.foldl_hom (Prod.map (behind journal uses) id) (behind_takeBodyItem policy)

theorem behind_readBody (header : TableHeader) (progress : ReadState × Table) :
    readBody policy line header following (progress.map (behind journal uses) id) =
      (readBody policy line header following progress).map (Prod.map (behind journal uses) id) id := by
  unfold readBody
  cases header.bodyLines? following with
  | none => rfl
  | some lines =>
      simp only [behind_foldl_takeBodyItem]
      obtain ⟨state, table⟩ := (Body.ofLines lines).items.foldl (takeBodyItem policy) progress
      cases (Body.ofLines lines).closed with
      | true => rfl
      | false => exact Prod.ext (Prod.ext (state.behind_report _ line) rfl) rfl

theorem behind_withHeader (state : ReadState) (header : TableHeader) :
    (state.behind journal uses).withHeader policy line header =
      (state.withHeader policy line header).behind journal uses :=
  congrArg (fun after : ReadState => { after with tablesNumbered := state.tablesNumbered + 1 })
    (state.behind_adding _ _)

theorem behind_readAcceptedTable (state : ReadState) (header : TableHeader) :
    readAcceptedTable policy (state.behind journal uses) line header following =
      (readAcceptedTable policy state line header following).map (Prod.map (behind journal uses) id) := by
  have begun : ((state.behind journal uses).withHeader policy line header,
      header.table (state.behind journal uses).tablesNumbered) =
        Prod.map (behind journal uses) id
          (state.withHeader policy line header, header.table state.tablesNumbered) := by
    rw [behind_withHeader]
    rfl
  rw [readAcceptedTable_eq, readAcceptedTable_eq, begun, behind_readBody]
  obtain ⟨⟨after, table⟩, rest⟩ := readBody policy line header following
    (state.withHeader policy line header, header.table state.tablesNumbered)
  have catalog : (after.behind journal uses).catalog.declare table = after.catalog.declare table := rfl
  simp only [Prod.map, id, catalog]
  cases after.catalog.declare table <;> rfl

theorem behind_reportAll (state : ReadState) (problems : List (Problem × Nat)) :
    (state.behind journal uses).reportAll line problems =
      (state.reportAll line problems).behind journal uses :=
  List.foldl_hom (behind journal uses) fun state found => state.behind_reportAt found.1 line found.2

theorem behind_readTable (state : ReadState) :
    readTable policy (state.behind journal uses) line following =
      (readTable policy state line following).map (Prod.map (behind journal uses) id) := by
  unfold readTable
  cases TableHeader.read? line.text.toList with
  | none =>
      dsimp only
      rw [state.behind_report, behind_skipBlock]
      rfl
  | some header =>
      have catalog : (state.behind journal uses).catalog = state.catalog := rfl
      simp only [catalog]
      cases named : header.nameProblems state.catalog with
      | nil => exact behind_readAcceptedTable policy line following state header
      | cons problem problems =>
          have reported : (state.behind journal uses).reportAll line (problem :: problems) =
              (state.reportAll line (problem :: problems)).behind journal uses :=
            behind_reportAll line state _
          unfold reportAll at reported
          simp only [reported, behind_skipBlock]
          rfl

theorem behind_withReference (state : ReadState) (written : ReferenceLine) (source : Table) :
    (state.behind journal uses).withReference policy line written source =
      (state.withReference policy line written source).behind journal uses := by
  rw [withReference, behind_adding]
  rfl

theorem behind_readReference (state : ReadState) :
    readReference policy (state.behind journal uses) line =
      (readReference policy state line).behind journal uses := by
  cases read : ReferenceLine.read? line.text.toList with
  | none =>
      simp only [readReference, read]
      exact state.behind_report _ line
  | some written =>
      have catalog : (state.behind journal uses).catalog = state.catalog := rfl
      cases resolved : written.resolve state.catalog with
      | ok source =>
          rw [readReference_resolved read resolved,
            readReference_resolved read (catalog.symm ▸ resolved), behind_withReference]
      | error missing =>
          simp only [readReference, read, catalog, resolved]
          exact state.behind_reportAt missing.1 line missing.2

theorem behind_readKind (state : ReadState) (kind : LineKind) :
    readKind policy (state.behind journal uses) kind line following =
      (readKind policy state kind line following).map (Prod.map (behind journal uses) id) := by
  cases kind with
  | table => exact behind_readTable policy line following state
  | ref =>
      rw [readKind, behind_readReference]
      rfl
  | enum | project | tableGroup | indexes =>
      simp only [readKind, behind_noticeBlock, behind_skipBlock]
      rfl
  | columnLike | note | brace | unknown =>
      rw [readKind, state.behind_report]
      rfl

theorem behind_step (interrupts : Interrupts) (state : ReadState) :
    step policy interrupts (state.behind journal uses) line following =
      (step policy interrupts state line following).map (Prod.map (behind journal uses) id) := by
  unfold step
  dsimp only
  cases interrupts (LineKind.classify false line.text.toList) with
  | some reason => rfl
  | none =>
      simp only [behind_readKind]
      cases readKind policy state (LineKind.classify false line.text.toList) line following <;> rfl

/-- Lines are read alike behind whatever was read before. -/
theorem behind_readLines (interrupts : Interrupts) (state : ReadState) (lines : List SourceLine) :
    readLines policy interrupts (state.behind journal uses) lines =
      (readLines policy interrupts state lines).map (behind journal uses) id := by
  fun_induction readLines policy interrupts state lines with
  | case1 state => rw [readLines]; rfl
  | case2 state line following after rest done ih =>
      have later : step policy interrupts (state.behind journal uses) line following =
          .ok (after.behind journal uses, rest) := by
        rw [behind_step, done]
        rfl
      rw [readLines_cons later, ih]
  | case3 state line following failure failed =>
      have later : step policy interrupts (state.behind journal uses) line following = .error failure := by
        rw [behind_step, failed]
        rfl
      rw [readLines_cons_of_failure later]
      rfl

variable {check : TargetCheck} {use other : InlineUse} {after : ReadState}

theorem dropInline_behind {state : ReadState} (like : use.Like other)
    (done : (state.behind journal uses).dropInline use = .ok after) :
    ∃ bare : ReadState, after = bare.behind journal uses ∧
      ∀ found others, (state.behind found others).dropInline other = .ok (bare.behind found others) := by
  unfold dropInline at done
  split at done
  · rename_i listed
    cases done
    let references := state.references.erase use.reference
    let catalog := state.catalog.setForeignKey use.columnId
      (references.any (·.source == use.reference.source))
    refine ⟨{ state with references, catalog }, rfl, fun found others => ?_⟩
    rw [dropInline, like.reference, like.columnId]
    exact if_pos listed
  · cases done

/-- What is said of an inline reference depends on the place of its line alone. -/
theorem checkInline_behind {state : ReadState} (like : use.Like other)
    (done : checkInline check (state.behind journal uses) use = .ok after) :
    ∃ bare : ReadState, after = bare.behind journal uses ∧
      ∀ found others,
        checkInline check (state.behind found others) other = .ok (bare.behind found others) := by
  have catalog : ∀ found others, (state.behind found others).catalog = state.catalog := fun _ _ => rfl
  have said : ∀ severity problem, state.reportAs severity problem other.line 0 =
      state.reportAs severity problem use.line 0 := by
    intro severity problem
    rw [reportAs, reportAs, SourceLine.columnOf, SourceLine.columnOf, like.number, like.indent]
  unfold checkInline at done ⊢
  simp only [catalog, like.reference] at done ⊢
  cases missing : missingTarget? state.catalog use.reference.target with
  | none =>
      rw [missing] at done
      cases done
      exact ⟨state, rfl, fun _ _ => rfl⟩
  | some problem =>
      rw [missing] at done
      cases check with
      | ignore =>
          cases done
          exact ⟨state, rfl, fun _ _ => rfl⟩
      | warn =>
          cases done
          refine ⟨_, state.behind_reportAs .warning problem use.line 0, fun found others => ?_⟩
          exact congrArg Except.ok ((state.behind_reportAs .warning problem other.line 0).trans
            (congrArg (behind found others) (said .warning problem)))
      | fail =>
          dsimp only at done ⊢
          rw [behind_reportAs] at done
          obtain ⟨bare, rfl, dropped⟩ := dropInline_behind like done
          refine ⟨bare, rfl, fun found others => ?_⟩
          rw [behind_reportAs, said]
          exact dropped found others

theorem foldlM_checkInline_behind {state : ReadState} {first second : List InlineUse}
    (alike : List.Forall₂ InlineUse.Like first second)
    (done : first.foldlM (checkInline check) (state.behind journal uses) = .ok after) :
    ∃ bare : ReadState, after = bare.behind journal uses ∧ ∀ found others,
      second.foldlM (checkInline check) (state.behind found others) = .ok (bare.behind found others) := by
  induction alike generalizing state with
  | nil =>
      cases done
      exact ⟨state, rfl, fun _ _ => rfl⟩
  | @cons use other _ _ like _ ih =>
      rw [List.foldlM_cons] at done
      cases checked : checkInline check (state.behind journal uses) use with
      | error failure =>
          rw [checked] at done
          cases done
      | ok middle =>
          rw [checked] at done
          obtain ⟨next, rfl, again⟩ := checkInline_behind like checked
          obtain ⟨bare, rfl, rest⟩ := ih done
          refine ⟨bare, rfl, fun found others => ?_⟩
          rw [List.foldlM_cons, again]
          exact rest found others

/-- Inline references are looked after alike behind whatever was read before, if those that were taken before
stand at the same places. -/
theorem checkInlines_behind {state : ReadState} {others : List InlineUse}
    (alike : List.Forall₂ InlineUse.Like uses others)
    (done : checkInlines check (state.behind journal uses) = .ok after) :
    ∃ bare : ReadState, after = bare.behind journal uses ∧
      ∀ found, checkInlines check (state.behind found others) = .ok (bare.behind found others) := by
  cases check with
  | ignore =>
      cases done
      exact ⟨state, rfl, fun _ => rfl⟩
  | warn | fail =>
      have all : List.Forall₂ InlineUse.Like (state.behind journal uses).inlineUses
          (state.behind journal others).inlineUses :=
        List.rel_append alike (List.forall₂_same.mpr fun use _ => .refl use)
      obtain ⟨bare, same, again⟩ := foldlM_checkInline_behind all done
      exact ⟨bare, same, fun found => again found others⟩

end ReadState

end TableScript
