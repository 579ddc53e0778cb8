import TableScript.Proofs.Read.Completion
import TableScript.Proofs.Read.Walk.Basic

/-! A cursor reads what the lines behind it say. At each of its loops the cursor is moved over just the lines
that the reading of the lines left takes from the front, one by one. Only from the body of a table that
was never closed it comes back by a line. -/

namespace TableScript

theorem atPosition_eq_ok {α : Type} {list : List α} {position : Int} {found : α}
    (inFront : 0 ≤ position) (there : list[position.toNat]? = some found) :
    atPosition list position = .ok found := by
  have inside := (List.getElem?_eq_some_iff.mp there).1
  have index : positionIndex list.length position = .ok position.toNat := by
    have bounds : 0 ≤ position ∧ position < list.length := by omega
    simp only [positionIndex, if_neg (Int.not_lt.mpr inFront), if_pos bounds]
  simp only [atPosition, index, bind, Except.bind, there]

/-- The header of another block at which the body ends, if it was never closed. -/
def Body.handedBack (body : Body) : Option SourceLine :=
  if body.closed then none else body.rest.head?

theorem Body.opensBlock_of_mem_handedBack {lines : List SourceLine} {next : SourceLine}
    (member : next ∈ (ofLines lines).handedBack) : LineKind.opensBlock next.text.toList = true := by
  fun_induction ofLines lines with
  | case1 => cases member
  | case2 => cases member
  | case3 line rest _ opens =>
      cases member
      exact opens
  | case4 line rest _ _ _ ih | case5 line rest _ _ _ ih | case7 line rest _ _ _ _ _ ih => exact ih member
  | case6 line rest _ _ _ skipped ih => exact ih member

namespace Walk

def unread (walk : Walk) : List SourceLine :=
  walk.cursor.lines.drop (walk.cursor.position + 1).toNat

/-- The walk goes on to where it has read the state and leaves the rest unread. It was moved to every line in
between once, and then perhaps to one from which it was moved back. -/
structure Reaches (before after : Walk) (state : ReadState) (rest : List SourceLine)
    (back : Option SourceLine) : Prop where
  lines : after.cursor.lines = before.cursor.lines
  reads : after.cursor.state = state
  leaves : after.unread = rest
  took : ∃ taken, before.unread = taken ++ rest ∧
    after.cursor.position = before.cursor.position + taken.length ∧
    after.visited = before.visited ++ taken ++ back.toList

variable {policy : Policy} {walk middle after : Walk} {state final : ReadState} {table : Table}
  {line header : SourceLine} {rest left : List SourceLine} {back : Option SourceLine}

namespace Reaches

theorem refl (walk : Walk) : Reaches walk walk walk.cursor.state walk.unread none :=
  ⟨rfl, rfl, rfl, [], by simp⟩

theorem trans (first : Reaches walk middle state rest none) (second : Reaches middle after final left back) :
    Reaches walk after final left back := by
  obtain ⟨taken, unread, position, visited⟩ := first.took
  obtain ⟨more, nextUnread, nextPosition, nextVisited⟩ := second.took
  refine ⟨second.lines.trans first.lines, second.reads, second.leaves, taken ++ more, ?_, ?_, ?_⟩
  · rw [unread, ← first.leaves, nextUnread, List.append_assoc]
  · rw [nextPosition, position, List.length_append]
    omega
  · rw [nextVisited, visited, Option.toList_none, List.append_nil, List.append_assoc walk.visited]

theorem update (reaches : Reaches walk after state rest back) (change : ReadState → ReadState) :
    Reaches walk (after.update change) (change state) rest back := by
  obtain ⟨lines, reads, leaves, took⟩ := reaches
  exact ⟨lines, congrArg change reads, leaves, took⟩

theorem ofUpdate {change : ReadState → ReadState}
    (reaches : Reaches (walk.update change) after state rest back) :
    Reaches walk after state rest back :=
  ⟨reaches.lines, reaches.reads, reaches.leaves, reaches.took⟩

theorem inFront (reaches : Reaches walk after state rest back) (front : 0 ≤ walk.cursor.position) :
    0 ≤ after.cursor.position := by
  obtain ⟨taken, _, position, _⟩ := reaches.took
  omega

end Reaches

section Loops

theorem next?_eq_none (front : 0 ≤ walk.cursor.position) (unread : walk.unread = []) :
    walk.next? = none := by
  have behind := List.drop_eq_nil_iff.mp unread
  have last : walk.cursor.hasNext = false := by
    rw [Cursor.hasNext, decide_eq_false_iff_not]
    omega
  rw [next?, last]
  rfl

theorem exists_next (front : 0 ≤ walk.cursor.position) (unread : walk.unread = line :: rest) :
    ∃ after, walk.next? = some (line, after) ∧
      Reaches walk after walk.cursor.state rest none ∧
      Reaches walk after.stepBack walk.cursor.state (line :: rest) (some line) := by
  have there : walk.cursor.lines[(walk.cursor.position + 1).toNat]? = some line := by
    rw [← List.head?_drop, ← Walk.unread, unread, List.head?_cons]
  have inside := (List.getElem?_eq_some_iff.mp there).1
  have more : walk.cursor.hasNext = true := by
    rw [Cursor.hasNext, decide_eq_true_iff]
    omega
  have found := atPosition_eq_ok (by omega) there
  have behind : walk.cursor.lines.drop (walk.cursor.position + 1 + 1).toNat = rest := by
    have next : (walk.cursor.position + 1 + 1).toNat = (walk.cursor.position + 1).toNat + 1 := by omega
    rw [next, ← List.tail_drop, ← Walk.unread, unread, List.tail_cons]
  refine ⟨⟨{ walk.cursor with position := walk.cursor.position + 1 }, walk.visited ++ [line]⟩, ?_, ?_, ?_⟩
  · simp only [next?, more, if_true, Cursor.advance, found]
  · exact ⟨rfl, rfl, behind, [line], unread, rfl, by simp⟩
  · have back : walk.cursor.position + 1 - 1 = walk.cursor.position := by omega
    refine ⟨rfl, rfl, ?_, [], by simpa using unread, ?_, by simp [stepBack]⟩
    · simpa only [Walk.unread, stepBack, Cursor.stepBack, back] using unread
    · simp [stepBack, Cursor.stepBack, back]

theorem passDepth_reaches (depth : Int) (front : 0 ≤ walk.cursor.position) :
    (walk.passDepth depth).1 = (Skipped.toDepthZero depth walk.unread).closed ∧
      Reaches walk (walk.passDepth depth).2 walk.cursor.state
        (Skipped.toDepthZero depth walk.unread).rest none := by
  generalize unread : walk.unread = lines
  induction lines generalizing walk depth with
  | nil =>
      have stays := Reaches.refl walk
      rw [unread] at stays
      rw [passDepth, Skipped.toDepthZero]
      by_cases balanced : depth ≤ 0
      · rw [if_pos balanced]
        exact ⟨(decide_eq_true balanced).symm, stays⟩
      · rw [if_neg balanced]
        split
        · rename_i moved
          rw [next?_eq_none front unread] at moved
          cases moved
        · exact ⟨(decide_eq_false balanced).symm, stays⟩
  | cons line rest ih =>
      rw [passDepth, Skipped.toDepthZero]
      by_cases balanced : depth ≤ 0
      · have stays := Reaches.refl walk
        rw [unread] at stays
        rw [if_pos balanced, if_pos balanced]
        exact ⟨rfl, stays⟩
      · obtain ⟨next, moved, reaches, _⟩ := exists_next front unread
        have inside := ih (depth + line.balance) (reaches.inFront front) reaches.leaves
        rw [reaches.reads] at inside
        rw [if_neg balanced, if_neg balanced]
        split
        · rename_i again
          rw [moved] at again
          cases again
          exact ⟨inside.1, reaches.trans inside.2⟩
        · rename_i again
          rw [moved] at again
          cases again

theorem passBlock_reaches (header : SourceLine) (front : 0 ≤ walk.cursor.position) :
    (walk.passBlock header).1 = (Skipped.ofHeader header walk.unread).closed ∧
      Reaches walk (walk.passBlock header).2 walk.cursor.state
        (Skipped.ofHeader header walk.unread).rest none := by
  have stays := Reaches.refl walk
  unfold passBlock Skipped.ofHeader
  by_cases plain : header.balance ≤ 0
  · rw [if_pos plain, if_pos plain]
    cases unread : walk.unread with
    | nil =>
        rw [unread] at stays
        rw [next?_eq_none front unread]
        exact ⟨rfl, stays⟩
    | cons line rest =>
        rw [unread] at stays
        obtain ⟨next, moved, reaches, _⟩ := exists_next front unread
        rw [moved]
        dsimp only
        by_cases opening : line.isOpening = true
        · have inside := passDepth_reaches 1 (reaches.inFront front)
          rw [reaches.leaves, reaches.reads] at inside
          rw [if_pos opening, if_pos opening]
          exact ⟨inside.1, reaches.trans inside.2⟩
        · rw [if_neg opening, if_neg opening]
          exact ⟨rfl, stays⟩
  · rw [if_neg plain, if_neg plain]
    exact passDepth_reaches header.balance front

theorem skipBlock_reaches (header : SourceLine) (front : 0 ≤ walk.cursor.position) :
    Reaches walk (walk.skipBlock header) (walk.cursor.state.skipBlock header walk.unread).1
      (walk.cursor.state.skipBlock header walk.unread).2 none := by
  obtain ⟨closed, reaches⟩ := passBlock_reaches header front
  unfold skipBlock ReadState.skipBlock
  dsimp only
  rw [closed]
  split
  · exact reaches
  · exact reaches.update (·.report (.unclosedBlock header.text) header)

theorem skipUpdated_reaches (change : ReadState → ReadState) (header : SourceLine)
    (front : 0 ≤ walk.cursor.position) :
    Reaches walk ((walk.update change).skipBlock header)
      ((change walk.cursor.state).skipBlock header walk.unread).1
      ((change walk.cursor.state).skipBlock header walk.unread).2 none := by
  have updatedFront : 0 ≤ (walk.update change).cursor.position := front
  exact (skipBlock_reaches header updatedFront).ofUpdate

theorem takeBodyItem_reaches (policy : Policy) (table : Table) (item : BodyItem)
    (reaches : Reaches walk after state rest back) :
    Reaches walk (takeBodyItem policy (after, table) item).1
        (ReadState.takeBodyItem policy (state, table) item).1 rest back ∧
      (takeBodyItem policy (after, table) item).2 =
        (ReadState.takeBodyItem policy (state, table) item).2 := by
  obtain ⟨lines, rfl, leaves, took⟩ := reaches
  exact ⟨⟨lines, rfl, leaves, took⟩, rfl⟩

theorem readBody_of_none (policy : Policy) (table : Table) (last : walk.next? = none) :
    readBody policy (walk, table) = (false, walk, table) := by
  rw [readBody]
  split
  · rfl
  · rename_i moved
    rw [last] at moved
    cases moved

theorem readBody_of_next (policy : Policy) (table : Table) (moved : walk.next? = some (line, after)) :
    readBody policy (walk, table) =
      if line.isClosing then (true, after, table)
      else if LineKind.opensBlock line.text.toList then (false, after.stepBack, table)
      else
        match LineKind.classify true line.text.toList with
        | .columnLike => readBody policy (takeBodyItem policy (after, table) (.column line))
        | .note => readBody policy (takeBodyItem policy (after, table) (.note line))
        | .indexes =>
            let passed := after.passBlock line
            readBody policy (takeBodyItem policy (passed.2, table) (.indexes line passed.1))
        | _ => readBody policy (takeBodyItem policy (after, table) (.other line)) := by
  rw [readBody]
  split
  · rename_i again
    rw [moved] at again
    cases again
  · rename_i again
    rw [moved] at again
    cases again
    rfl

/-- What a walk through a body has read is what its items say, and where the body was never closed, the walk
was at the line that is handed back. -/
structure ReadsBody (policy : Policy) (walk : Walk) (table : Table) (read : Bool × Walk × Table)
    (body : Body) : Prop where
  closed : read.1 = body.closed
  declares : read.2.2 =
    (body.items.foldl (ReadState.takeBodyItem policy) (walk.cursor.state, table)).2
  reaches : Reaches walk read.2.1
    (body.items.foldl (ReadState.takeBodyItem policy) (walk.cursor.state, table)).1 body.rest
    body.handedBack

theorem ReadsBody.cons {item : BodyItem} {body : Body} {read : Bool × Walk × Table}
    (reaches : Reaches walk after walk.cursor.state rest none)
    (reads : ReadsBody policy (takeBodyItem policy (after, table) item).1
      (takeBodyItem policy (after, table) item).2 read body) :
    ReadsBody policy walk table read (body.cons item) := by
  obtain ⟨taken, sameTable⟩ := takeBodyItem_reaches policy table item reaches
  obtain ⟨closed, tables, behind⟩ := reads
  rw [taken.reads, sameTable] at tables behind
  exact ⟨closed, tables, taken.trans behind⟩

theorem readBody_reaches (policy : Policy) (table : Table) (front : 0 ≤ walk.cursor.position) :
    ReadsBody policy walk table (readBody policy (walk, table)) (Body.ofLines walk.unread) := by
  generalize unread : walk.unread = lines
  fun_induction Body.ofLines lines generalizing walk table with
  | case1 =>
      have stays := Reaches.refl walk
      rw [unread] at stays
      rw [readBody_of_none policy table (next?_eq_none front unread)]
      exact ⟨rfl, rfl, stays⟩
  | case2 line rest closing =>
      obtain ⟨next, moved, reaches, _⟩ := exists_next front unread
      rw [readBody_of_next policy table moved, if_pos closing]
      exact ⟨rfl, rfl, reaches⟩
  | case3 line rest other opens =>
      obtain ⟨next, moved, _, backwards⟩ := exists_next front unread
      rw [readBody_of_next policy table moved, if_neg other, if_pos opens]
      exact ⟨rfl, rfl, backwards⟩
  | case4 line rest other inside kind ih | case5 line rest other inside kind ih =>
      obtain ⟨next, moved, reaches, _⟩ := exists_next front unread
      rw [readBody_of_next policy table moved, if_neg other, if_neg inside]
      simp only [kind]
      exact .cons reaches (ih _ (reaches.inFront front) reaches.leaves)
  | case6 line rest other inside kind skipped =>
      rename_i ih
      obtain ⟨next, moved, reaches, _⟩ := exists_next front unread
      obtain ⟨closed, passed⟩ := passBlock_reaches line (reaches.inFront front)
      rw [reaches.leaves, reaches.reads] at passed
      rw [reaches.leaves] at closed
      have through := reaches.trans passed
      rw [readBody_of_next policy table moved, if_neg other, if_neg inside]
      simp only [kind, closed]
      exact .cons through (ih _ (through.inFront front) through.leaves)
  | case7 line rest other inside noColumn noNote noIndexes ih =>
      obtain ⟨next, moved, reaches, _⟩ := exists_next front unread
      rw [readBody_of_next policy table moved, if_neg other, if_neg inside]
      simp only
      exact .cons reaches (ih _ (reaches.inFront front) reaches.leaves)

theorem enterBody?_reaches (header : TableHeader) (front : 0 ≤ walk.cursor.position) :
    match header.bodyLines? walk.unread with
    | none => walk.enterBody? header = none
    | some lines => ∃ inside, walk.enterBody? header = some inside ∧
        Reaches walk inside walk.cursor.state lines none := by
  unfold enterBody? TableHeader.bodyLines?
  by_cases opens : header.opensBody = true
  · simp only [if_pos opens]
    exact ⟨walk, rfl, .refl walk⟩
  · simp only [if_neg opens]
    cases unread : walk.unread with
    | nil => simp only [next?_eq_none front unread]
    | cons line rest =>
        obtain ⟨next, moved, reaches, _⟩ := exists_next front unread
        by_cases opening : line.isOpening = true
        · simp only [moved, if_pos opening]
          exact ⟨next, rfl, reaches⟩
        · simp only [moved, if_neg opening]

end Loops

/-- The header of another block at which the body that the header begins ends, if it is never closed. -/
def handedBack (header : TableHeader) (following : List SourceLine) : Option SourceLine :=
  (header.bodyLines? following).bind fun lines => (Body.ofLines lines).handedBack

theorem readTableBody_reaches (policy : Policy) (line : SourceLine) (header : TableHeader) (table : Table)
    (front : 0 ≤ walk.cursor.position) :
    Reaches walk (readTableBody policy line header (walk, table)).1
        (ReadState.readBody policy line header walk.unread (walk.cursor.state, table)).1.1
        (ReadState.readBody policy line header walk.unread (walk.cursor.state, table)).2
        (handedBack header walk.unread) ∧
      (readTableBody policy line header (walk, table)).2 =
        (ReadState.readBody policy line header walk.unread (walk.cursor.state, table)).1.2 := by
  have entered := enterBody?_reaches header front
  unfold readTableBody ReadState.readBody handedBack
  cases begun : header.bodyLines? walk.unread with
  | none =>
      simp only [begun] at entered
      simp only [entered, and_true]
      exact .refl walk
  | some lines =>
      simp only [begun] at entered
      obtain ⟨inside, into, reaches⟩ := entered
      have body := readBody_reaches policy table (reaches.inFront front)
      rw [reaches.leaves] at body
      obtain ⟨closed, declares, behind⟩ := body
      rw [reaches.reads] at declares behind
      have through := reaches.trans behind
      simp only [into, closed, declares, and_true]
      split
      · exact through
      · exact through.update _

end Walk

/-- The line begins a table whose body is never closed and ends in front of the header of another block. -/
structure HandsBack (line : SourceLine) (following : List SourceLine) (next : SourceLine) : Prop where
  begins : LineKind.classify false line.text.toList = .table
  unclosed : ∃ header lines, TableHeader.read? line.text.toList = some header ∧
    header.bodyLines? following = some lines ∧ (Body.ofLines lines).closed = false ∧
    (Body.ofLines lines).rest.head? = some next
  opens : LineKind.opensBlock next.text.toList = true

namespace Walk

variable {policy : Policy} {walk : Walk} {final : ReadState} {line : SourceLine} {rest : List SourceLine}

theorem handsBack_of_mem {following : List SourceLine} {header : TableHeader} {next : SourceLine}
    (begins : LineKind.classify false line.text.toList = .table)
    (read : TableHeader.read? line.text.toList = some header)
    (member : next ∈ handedBack header following) : HandsBack line following next := by
  unfold handedBack at member
  cases begun : header.bodyLines? following with
  | none =>
      rw [begun] at member
      cases member
  | some lines =>
      rw [begun, Option.bind_some] at member
      refine ⟨begins, ⟨header, lines, read, begun, ?_⟩, Body.opensBlock_of_mem_handedBack member⟩
      unfold Body.handedBack at member
      split at member
      · cases member
      · rename_i unclosed
        exact ⟨Bool.eq_false_iff.mpr unclosed, member⟩

theorem head?_of_mem_handedBack (policy : Policy) (line : SourceLine) {following : List SourceLine}
    {header : TableHeader} {next : SourceLine} (progress : ReadState × Table)
    (member : next ∈ handedBack header following) :
    (ReadState.readBody policy line header following progress).2.head? = some next := by
  unfold handedBack at member
  unfold ReadState.readBody
  cases begun : header.bodyLines? following with
  | none =>
      rw [begun] at member
      cases member
  | some lines =>
      rw [begun, Option.bind_some] at member
      unfold Body.handedBack at member
      split at member
      · cases member
      · exact member

theorem readAcceptedTable_reaches {header : TableHeader} (front : 0 ≤ walk.cursor.position)
    (done : ReadState.readAcceptedTable policy walk.cursor.state line header walk.unread =
      .ok (final, rest)) :
    ∃ after, walk.readAcceptedTable policy line header = .ok after ∧
      Reaches walk after final rest (handedBack header walk.unread) ∧
      ∀ next ∈ handedBack header walk.unread, rest.head? = some next := by
  have headedFront : 0 ≤ (walk.update (·.withHeader policy line header)).cursor.position := front
  have body := readTableBody_reaches policy line header
    (header.table walk.cursor.state.tablesNumbered) headedFront
  have headed : (walk.update (·.withHeader policy line header)).cursor.state =
      walk.cursor.state.withHeader policy line header := rfl
  have sameLines : (walk.update (·.withHeader policy line header)).unread = walk.unread := rfl
  have atEnd := fun next (member : next ∈ handedBack header walk.unread) =>
    head?_of_mem_handedBack policy line
      (walk.cursor.state.withHeader policy line header, header.table walk.cursor.state.tablesNumbered)
      member
  rw [headed, sameLines] at body
  rw [ReadState.readAcceptedTable_eq] at done
  unfold readAcceptedTable
  generalize readTableBody policy line header (walk.update (·.withHeader policy line header),
    header.table walk.cursor.state.tablesNumbered) = progress at body ⊢
  generalize ReadState.readBody policy line header walk.unread
    (walk.cursor.state.withHeader policy line header, header.table walk.cursor.state.tablesNumbered) =
    read at body done atEnd
  obtain ⟨walked, table⟩ := progress
  obtain ⟨reaches, rfl⟩ := body
  dsimp only at done reaches ⊢
  rw [reaches.reads]
  cases declared : read.1.1.catalog.declare read.1.2 with
  | error refusal =>
      rw [declared] at done
      cases done
  | ok catalog =>
      rw [declared] at done
      cases done
      exact ⟨_, rfl, reaches.ofUpdate.update ({ · with catalog }), atEnd⟩

/-- What the lines behind a line of the top level say is read, and the walk stays in front of the rest; only
from the first line of the rest it may have come back. -/
theorem readTable_reaches (front : 0 ≤ walk.cursor.position)
    (begins : LineKind.classify false line.text.toList = .table)
    (done : ReadState.readTable policy walk.cursor.state line walk.unread = .ok (final, rest)) :
    ∃ after back, walk.readTable policy line = .ok after ∧ Reaches walk after final rest back ∧
      ∀ next ∈ back, rest.head? = some next ∧ HandsBack line walk.unread next := by
  unfold ReadState.readTable at done
  unfold readTable
  cases read : TableHeader.read? line.text.toList with
  | none =>
      rw [read] at done
      have skipped := skipUpdated_reaches (·.report (.badTableHeader line.text) line) line front
      cases done
      exact ⟨_, none, rfl, skipped, by simp⟩
  | some header =>
      rw [read] at done
      dsimp only at done ⊢
      cases allowed : header.nameProblems walk.cursor.state.catalog with
      | nil =>
          rw [allowed] at done
          obtain ⟨after, accepted, reaches, atEnd⟩ := readAcceptedTable_reaches front done
          exact ⟨after, _, accepted, reaches,
            fun next member => ⟨atEnd next member, handsBack_of_mem begins read member⟩⟩
      | cons problem problems =>
          rw [allowed] at done
          have skipped := skipUpdated_reaches (·.reportAll line (problem :: problems)) line front
          cases done
          exact ⟨_, none, rfl, skipped, by simp⟩

theorem readKind_reaches (front : 0 ≤ walk.cursor.position)
    (done : ReadState.readKind policy walk.cursor.state (LineKind.classify false line.text.toList) line
      walk.unread = .ok (final, rest)) :
    ∃ after back, walk.readKind policy (LineKind.classify false line.text.toList) line = .ok after ∧
      Reaches walk after final rest back ∧
      ∀ next ∈ back, rest.head? = some next ∧ HandsBack line walk.unread next := by
  cases kind : LineKind.classify false line.text.toList with
  | table =>
      rw [kind] at done
      exact readTable_reaches front kind done
  | enum | project | tableGroup | indexes =>
      rw [kind] at done
      cases done
      exact ⟨_, none, rfl, skipUpdated_reaches (·.noticeBlock _ _ line) line front, by simp⟩
  | ref | columnLike | note | brace | unknown =>
      rw [kind] at done
      cases done
      exact ⟨_, none, rfl, (Reaches.refl walk).update _, by simp⟩

end Walk

end TableScript
