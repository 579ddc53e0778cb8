import TableScript.Proofs.Read.Compared.Basic
import TableScript.Proofs.Read.Table

namespace TableScript

variable {comparison : Comparison} {line other : SourceLine} {following others : List SourceLine}

namespace Comparison

theorem sameBalance (pair : comparison.pairs line other) : other.balance = line.balance :=
  congrArg (fun text : String => Text.braceBalance .outside text.toList) (comparison.sameText pair)

theorem sameOpening (pair : comparison.pairs line other) : other.isOpening = line.isOpening :=
  congrArg (· == "\x7b") (comparison.sameText pair)

theorem sameClosing (pair : comparison.pairs line other) : other.isClosing = line.isClosing :=
  congrArg (· == "\x7d") (comparison.sameText pair)

end Comparison

/-- Two skipped blocks that end alike. -/
structure Skipped.Alike (pairs : SourceLine → SourceLine → Prop) (first second : Skipped) : Prop where
  closed : second.closed = first.closed
  rest : List.Forall₂ pairs first.rest second.rest

theorem Skipped.toDepthZero_alike (aligned : List.Forall₂ comparison.pairs following others)
    (depth : Int) :
    Skipped.Alike comparison.pairs (toDepthZero depth following) (toDepthZero depth others) := by
  induction aligned generalizing depth with
  | nil => exact ⟨rfl, .nil⟩
  | cons pair rest ih =>
      rw [toDepthZero, toDepthZero, Comparison.sameBalance pair]
      split
      · exact ⟨rfl, .cons pair rest⟩
      · exact ih _

theorem Skipped.ofHeader_alike (pair : comparison.pairs line other)
    (aligned : List.Forall₂ comparison.pairs following others) :
    Skipped.Alike comparison.pairs (ofHeader line following) (ofHeader other others) := by
  unfold ofHeader
  rw [Comparison.sameBalance pair]
  split
  · cases aligned with
    | nil => exact ⟨rfl, .nil⟩
    | cons next rest =>
        dsimp only
        rw [Comparison.sameOpening next]
        split
        · exact toDepthZero_alike rest 1
        · exact ⟨rfl, .cons next rest⟩
  · exact toDepthZero_alike aligned _

/-- Two items of the same kind on lines that stand for one another. -/
inductive BodyItem.Alike (pairs : SourceLine → SourceLine → Prop) : BodyItem → BodyItem → Prop where
  | column : ∀ {line other}, pairs line other → Alike pairs (.column line) (.column other)
  | note : ∀ {line other}, pairs line other → Alike pairs (.note line) (.note other)
  | indexes : ∀ {line other} (closed : Bool), pairs line other →
      Alike pairs (.indexes line closed) (.indexes other closed)
  | other : ∀ {line other}, pairs line other → Alike pairs (.other line) (.other other)

structure Body.Alike (pairs : SourceLine → SourceLine → Prop) (first second : Body) : Prop where
  items : List.Forall₂ (BodyItem.Alike pairs) first.items second.items
  closed : second.closed = first.closed
  rest : List.Forall₂ pairs first.rest second.rest

theorem Body.Alike.cons {pairs : SourceLine → SourceLine → Prop} {first second : Body}
    {item same : BodyItem} (alike : Body.Alike pairs first second)
    (items : BodyItem.Alike pairs item same) :
    Body.Alike pairs (first.cons item) (second.cons same) :=
  { alike with items := .cons items alike.items }

theorem Body.ofLines_alike (aligned : List.Forall₂ comparison.pairs following others) :
    Body.Alike comparison.pairs (ofLines following) (ofLines others) := by
  fun_induction ofLines following generalizing others with
  | case1 =>
      cases aligned
      rw [ofLines]
      exact ⟨.nil, rfl, .nil⟩
  | case2 line rest closing =>
      obtain _ | ⟨pair, aligned⟩ := aligned
      rw [ofLines, Comparison.sameClosing pair, if_pos closing]
      exact ⟨.nil, rfl, aligned⟩
  | case3 line rest inside opens =>
      obtain _ | ⟨pair, aligned⟩ := aligned
      rw [ofLines, Comparison.sameClosing pair, comparison.sameText pair, if_neg inside, if_pos opens]
      exact ⟨.nil, rfl, .cons pair aligned⟩
  | case4 line rest inside stays kind ih =>
      obtain _ | ⟨pair, aligned⟩ := aligned
      rw [ofLines, Comparison.sameClosing pair, comparison.sameText pair, if_neg inside, if_neg stays]
      simp only [kind]
      exact (ih aligned).cons (.column pair)
  | case5 line rest inside stays kind ih =>
      obtain _ | ⟨pair, aligned⟩ := aligned
      rw [ofLines, Comparison.sameClosing pair, comparison.sameText pair, if_neg inside, if_neg stays]
      simp only [kind]
      exact (ih aligned).cons (.note pair)
  | case6 line rest inside stays kind skipped =>
      rename_i ih
      obtain _ | ⟨pair, aligned⟩ := aligned
      rw [ofLines, Comparison.sameClosing pair, comparison.sameText pair, if_neg inside, if_neg stays]
      simp only [kind]
      have block := Skipped.ofHeader_alike pair aligned
      rw [block.closed]
      exact (ih block.rest).cons (.indexes _ pair)
  | case7 line rest inside stays noColumn noNote noIndexes ih =>
      obtain _ | ⟨pair, aligned⟩ := aligned
      rw [ofLines, Comparison.sameClosing pair, comparison.sameText pair, if_neg inside, if_neg stays]
      simp only
      exact (ih aligned).cons (.other pair)

theorem TableHeader.bodyLines?_alike (header : TableHeader)
    (aligned : List.Forall₂ comparison.pairs following others) :
    Option.Rel (List.Forall₂ comparison.pairs) (header.bodyLines? following)
      (header.bodyLines? others) := by
  unfold bodyLines?
  split
  · exact .some aligned
  · cases aligned with
    | nil => exact .none
    | cons next rest =>
        dsimp only
        rw [Comparison.sameOpening next]
        split
        · exact .some rest
        · exact .none

namespace ReadState

/-- Reading goes on alike: the states are alike, and the lines that are left stand for one another. -/
structure Continue (comparison : Comparison) (first second : ReadState × List SourceLine) : Prop where
  state : Alike comparison first.1 second.1
  rest : List.Forall₂ comparison.pairs first.2 second.2

namespace Alike

variable {first second : ReadState}

theorem reportAll (alike : Alike comparison first second) (pair : comparison.pairs line other)
    (problems : List (Problem × Nat)) :
    Alike comparison (first.reportAll line problems) (second.reportAll other problems) := by
  induction problems generalizing first second with
  | nil => exact alike
  | cons problem problems ih => exact ih (alike.reportAt pair problem.1 problem.2)

theorem skipBlock (alike : Alike comparison first second) (pair : comparison.pairs line other)
    (aligned : List.Forall₂ comparison.pairs following others) :
    Continue comparison (first.skipBlock line following) (second.skipBlock other others) := by
  have skipped := Skipped.ofHeader_alike pair aligned
  refine ⟨?_, skipped.rest⟩
  unfold ReadState.skipBlock
  dsimp only
  rw [skipped.closed, comparison.sameText pair]
  split
  · exact alike
  · exact alike.report pair _

theorem noticeBlock (alike : Alike comparison first second) (pair : comparison.pairs line other)
    (block : SkippedBlock) (tag : String) :
    Alike comparison (first.noticeBlock block tag line) (second.noticeBlock block tag other) := by
  unfold ReadState.noticeBlock
  rw [comparison.sameText pair]
  exact (alike.addFeature tag).report pair _

theorem readColumn (alike : Alike comparison first second) (pair : comparison.pairs line other)
    (policy : Policy) (table : Table) :
    AlikeWith comparison (ReadState.readColumn policy table first line)
      (ReadState.readColumn policy table second other) := by
  unfold ReadState.readColumn
  rw [comparison.sameText pair]
  split
  · exact ⟨alike.report pair _, rfl⟩
  · rename_i declared _
    dsimp only
    split
    · exact ⟨alike.report pair _, rfl⟩
    · split
      · exact ⟨alike.report pair _, rfl⟩
      · have number : second.numberColumn.1 = first.numberColumn.1 :=
          congrArg (fun number : Nat => "col_" ++ toString number) alike.columnsNumbered
        rw [number]
        have settings := alike.numberColumn.foldl_takeColumnSetting pair policy table
          { id := first.numberColumn.1, name := String.ofList declared.name.text,
            type := String.ofList declared.type, quotedName := declared.name.quoted }
          (Setting.readAll (declared.settings.getD []))
        refine ⟨?_, congrArg some settings.value⟩
        split
        · exact settings.state
        · exact settings.state.reportAt pair _ _

theorem readNote (alike : Alike comparison first second) (pair : comparison.pairs line other) :
    AlikeWith comparison (ReadState.readNote first line) (ReadState.readNote second other) := by
  unfold ReadState.readNote
  rw [comparison.sameText pair]
  split
  · exact ⟨alike, rfl⟩
  · exact ⟨alike.report pair _, rfl⟩

theorem takeBodyItem (alike : Alike comparison first second) {item same : BodyItem}
    (items : BodyItem.Alike comparison.pairs item same) (policy : Policy) (table : Table) :
    AlikeWith comparison (ReadState.takeBodyItem policy (first, table) item)
      (ReadState.takeBodyItem policy (second, table) same) := by
  cases items with
  | @column line other pair =>
      obtain ⟨state, same, given, read, reread, together⟩ :=
        (alike.readColumn pair policy table).exists_states
      simp only [ReadState.takeBodyItem, read, reread]
      cases given <;> exact ⟨together, rfl⟩
  | @note line other pair =>
      obtain ⟨state, same, given, read, reread, together⟩ := (alike.readNote pair).exists_states
      simp only [ReadState.takeBodyItem, read, reread]
      cases given <;> exact ⟨together, rfl⟩
  | @indexes line other closed pair =>
      have noticed := alike.noticeBlock pair .indexes LineKind.indexes.featureTag
      refine ⟨?_, rfl⟩
      simp only [ReadState.takeBodyItem, comparison.sameText pair]
      cases closed with
      | true => exact noticed
      | false => exact noticed.report pair _
  | @other line other pair =>
      simp only [ReadState.takeBodyItem, comparison.sameText pair]
      exact ⟨alike.report pair _, rfl⟩

theorem readBody (alike : Alike comparison first second) (pair : comparison.pairs line other)
    (aligned : List.Forall₂ comparison.pairs following others) (policy : Policy) (header : TableHeader)
    (table : Table) :
    ∃ state same given rest left,
      ReadState.readBody policy line header following (first, table) = ((state, given), rest) ∧
        ReadState.readBody policy other header others (second, table) = ((same, given), left) ∧
          Alike comparison state same ∧ List.Forall₂ comparison.pairs rest left := by
  have begun := header.bodyLines?_alike aligned
  unfold ReadState.readBody
  generalize header.bodyLines? following = lines at begun ⊢
  generalize header.bodyLines? others = more at begun ⊢
  cases begun with
  | none => exact ⟨first, second, table, following, others, rfl, rfl, alike, aligned⟩
  | some within =>
      have body := Body.ofLines_alike within
      have start : AlikeWith comparison (first, table) (second, table) := ⟨alike, rfl⟩
      obtain ⟨state, same, given, read, reread, together⟩ :=
        (AlikeWith.foldl (fun table _ _ together items => together.takeBodyItem items policy table)
          body.items start).exists_states
      dsimp only
      rw [read, reread, body.closed]
      refine ⟨_, _, given, _, _, rfl, rfl, ?_, body.rest⟩
      split
      · exact together
      · exact together.report pair _

theorem withHeader (alike : Alike comparison first second) (pair : comparison.pairs line other)
    (policy : Policy) (header : TableHeader) :
    Alike comparison (first.withHeader policy line header) (second.withHeader policy other header) := by
  have settings := alike.numberTable.foldl_takeTableSetting pair policy
    (header.bareTable first.tablesNumbered) header.settingList
  rw [ReadState.foldl_takeTableSetting, ReadState.foldl_takeTableSetting] at settings
  exact settings.state

theorem withCatalog (alike : Alike comparison first second) (catalog : Catalog) :
    Alike comparison { first with catalog } { second with catalog } :=
  { alike with catalog := rfl }

theorem readAcceptedTable (alike : Alike comparison first second) (pair : comparison.pairs line other)
    (aligned : List.Forall₂ comparison.pairs following others) (policy : Policy)
    (header : TableHeader) {after : ReadState} {rest : List SourceLine}
    (done : ReadState.readAcceptedTable policy first line header following = .ok (after, rest)) :
    ∃ same left, ReadState.readAcceptedTable policy second other header others = .ok (same, left) ∧
      Continue comparison (after, rest) (same, left) := by
  rw [readAcceptedTable_eq] at done ⊢
  obtain ⟨state, same, given, _, left, read, reread, together, behind⟩ :=
    (alike.withHeader pair policy header).readBody pair aligned policy header
      (header.table first.tablesNumbered)
  rw [read] at done
  rw [alike.tablesNumbered, reread]
  dsimp only at done ⊢
  rw [together.catalog]
  cases declared : state.catalog.declare given with
  | error refusal =>
      rw [declared] at done
      cases done
  | ok catalog =>
      rw [declared] at done
      cases done
      exact ⟨_, left, rfl, together.withCatalog catalog, behind⟩

theorem readTable (alike : Alike comparison first second) (pair : comparison.pairs line other)
    (aligned : List.Forall₂ comparison.pairs following others) (policy : Policy)
    {after : ReadState} {rest : List SourceLine}
    (done : ReadState.readTable policy first line following = .ok (after, rest)) :
    ∃ same left, ReadState.readTable policy second other others = .ok (same, left) ∧
      Continue comparison (after, rest) (same, left) := by
  unfold ReadState.readTable at done ⊢
  rw [comparison.sameText pair]
  cases read : TableHeader.read? line.text.toList with
  | none =>
      rw [read] at done
      cases done
      exact ⟨_, _, rfl, (alike.report pair _).skipBlock pair aligned⟩
  | some header =>
      rw [read] at done
      dsimp only at done ⊢
      rw [alike.catalog]
      cases problems : header.nameProblems first.catalog with
      | nil =>
          rw [problems] at done
          exact alike.readAcceptedTable pair aligned policy header done
      | cons problem problems' =>
          rw [problems] at done
          cases done
          exact ⟨_, _, rfl, (alike.reportAll pair (problem :: problems')).skipBlock pair aligned⟩

end Alike

end ReadState

end TableScript
