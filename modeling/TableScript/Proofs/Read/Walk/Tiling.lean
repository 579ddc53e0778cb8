import TableScript.Proofs.Read.Step
import TableScript.Proofs.Read.Walk.Agreement

namespace TableScript

namespace Turn

variable {turn : Turn} {lines : List SourceLine} {later : List Turn}

/-- The lines from where the turn began up to where it ended. -/
def taken (turn : Turn) (lines : List SourceLine) : List SourceLine :=
  (lines.drop turn.start.toNat).take (turn.stop - turn.start).toNat

theorem taken_eq {start : Int} {line : SourceLine} {own rest visited : List SourceLine}
    (unread : lines.drop start.toNat = line :: (own ++ rest)) :
    taken ⟨start, line, visited, start + own.length + 1⟩ lines = line :: own := by
  have length : (start + own.length + 1 - start).toNat = own.length + 1 := by omega
  rw [taken, unread, length, List.take_succ_cons, List.take_left]

/-- The turn looked at its lines once and at no other line but perhaps the one at which the next turn
begins. -/
def IsExact (turn : Turn) (lines : List SourceLine) (later : List Turn) : Prop :=
  turn.line :: turn.visited = turn.taken lines ∨
    ∃ next more, later = next :: more ∧
      turn.line :: turn.visited = turn.taken lines ++ [next.line] ∧
      HandsBack turn.line (lines.drop (turn.start.toNat + 1)) next.line

end Turn

/-- The turns follow one another from the position to the end of the lines. -/
inductive Tiling (lines : List SourceLine) : Int → List Turn → Prop where
  | done : Tiling lines lines.length []
  | turn {turn : Turn} {later : List Turn} (inFront : 0 ≤ turn.start) (forward : turn.start < turn.stop)
      (begins : lines[turn.start.toNat]? = some turn.line) (exact : turn.IsExact lines later)
      (behind : Tiling lines turn.stop later) : Tiling lines turn.start (turn :: later)

namespace Tiling

variable {lines : List SourceLine} {start : Int} {turns earlier later : List Turn} {turn : Turn}

theorem length_le (tiling : Tiling lines start turns) : start + turns.length ≤ lines.length := by
  induction tiling with
  | done => simp
  | turn _ forward _ _ _ ih =>
      rw [List.length_cons]
      omega

theorem boundaries (tiling : Tiling lines start turns) :
    turns.map Turn.start ++ [(lines.length : Int)] = start :: turns.map Turn.stop := by
  induction tiling with
  | done => rfl
  | turn _ _ _ _ _ ih => rw [List.map_cons, List.cons_append, ih, List.map_cons]

/-- The lines of the turns together are all lines from the position on. -/
theorem flatMap_taken (tiling : Tiling lines start turns) :
    turns.flatMap (·.taken lines) = lines.drop start.toNat := by
  induction tiling with
  | done => simp
  | @turn turn later inFront forward _ _ _ ih =>
      have stop : turn.start.toNat + (turn.stop - turn.start).toNat = turn.stop.toNat := by omega
      rw [List.flatMap_cons, ih, Turn.taken, ← stop, ← List.drop_drop, List.take_append_drop]

theorem isExact_of_append (tiling : Tiling lines start (earlier ++ turn :: later)) :
    (0 ≤ turn.start ∧ turn.start < turn.stop) ∧ lines[turn.start.toNat]? = some turn.line ∧
      turn.IsExact lines later ∧ Tiling lines turn.stop later := by
  induction earlier generalizing start with
  | nil =>
      cases tiling with
      | turn inFront forward begins exact behind => exact ⟨⟨inFront, forward⟩, begins, exact, behind⟩
  | cons first earlier ih =>
      cases tiling with
      | turn _ _ _ _ behind => exact ih behind

theorem exists_head {line : SourceLine} (tiling : Tiling lines start turns)
    (there : lines[start.toNat]? = some line) :
    ∃ next more, turns = next :: more ∧ next.line = line := by
  cases tiling with
  | done => simp at there
  | @turn turn later _ _ begins _ _ =>
      exact ⟨turn, later, rfl, Option.some.inj (begins.symm.trans there)⟩

end Tiling

namespace Cursor

variable {policy : Policy} {cursor : Cursor} {final : ReadState}

theorem readLines_of_done {line : SourceLine} {walk : Walk} (inside : cursor.position < cursor.lines.length)
    (there : atPosition cursor.lines cursor.position = .ok line)
    (done : Walk.readKind policy (LineKind.classify false line.text.toList) line ⟨cursor, []⟩ = .ok walk) :
    cursor.readLines policy =
      let next : Cursor := ⟨walk.cursor.lines, walk.cursor.position + 1, walk.cursor.state⟩
      ((next.readLines policy).1,
        ⟨cursor.position, line, walk.visited, next.position⟩ :: (next.readLines policy).2) := by
  rw [readLines, dif_pos inside]
  split
  · rename_i again
    rw [there] at again
    cases again
  · rename_i again
    rw [there] at again
    cases again
    split
    · rename_i again
      rw [done] at again
      cases again
    · rename_i again
      rw [done] at again
      cases again
      rfl

/-- One turn reads what one step reads. It moves the cursor over the lines that the step takes from the
front. -/
theorem exists_turn {line : SourceLine} {following rest : List SourceLine} {after : ReadState}
    (inFront : 0 ≤ cursor.position)
    (unread : cursor.lines.drop cursor.position.toNat = line :: following)
    (done : ReadState.step policy .none cursor.state line following = .ok (after, rest)) :
    ∃ walk taken back,
      Walk.readKind policy (LineKind.classify false line.text.toList) line ⟨cursor, []⟩ = .ok walk ∧
      following = taken ++ rest ∧
      walk.cursor = ⟨cursor.lines, cursor.position + taken.length, after⟩ ∧
      walk.visited = taken ++ Option.toList back ∧
      cursor.lines.drop (cursor.position + taken.length + 1).toNat = rest ∧
      ∀ next ∈ back, rest.head? = some next ∧ HandsBack line following next := by
  have behind : (Walk.mk cursor []).unread = following := by
    have next : (cursor.position + 1).toNat = cursor.position.toNat + 1 := by omega
    rw [Walk.unread, next, ← List.tail_drop, unread, List.tail_cons]
  obtain ⟨_, read⟩ := ReadState.step_eq_ok_iff.mp done
  rw [← behind] at read
  obtain ⟨walk, back, walked, reaches, handsBack⟩ := Walk.readKind_reaches inFront read
  obtain ⟨taken, split, position, visited⟩ := reaches.took
  have lines : walk.cursor.lines = cursor.lines := reaches.lines
  have moved : walk.cursor.position = cursor.position + taken.length := position
  have state : walk.cursor.state = after := reaches.reads
  have left := reaches.leaves
  rw [behind] at split handsBack
  rw [Walk.unread, lines, moved] at left
  exact ⟨walk, taken, back, walked, split, by rw [← lines, ← moved, ← state], visited, left, handsBack⟩

/-- A cursor reads what the lines from it on say, and its turns tile these lines. -/
theorem exists_turns (inFront : 0 ≤ cursor.position) (fits : cursor.position ≤ cursor.lines.length)
    (complete : ReadState.readLines policy .none cursor.state
      (cursor.lines.drop cursor.position.toNat) = (final, none)) :
    ∃ turns, cursor.readLines policy = (⟨cursor.lines, cursor.lines.length, final⟩, turns) ∧
      Tiling cursor.lines cursor.position turns := by
  generalize unread : cursor.lines.drop cursor.position.toNat = lines at complete
  generalize same : cursor.state = state at complete
  fun_induction ReadState.readLines policy .none state lines generalizing cursor with
  | case1 state =>
      have ended := List.drop_eq_nil_iff.mp unread
      have atEnd : cursor.position = cursor.lines.length := by omega
      cases complete
      refine ⟨[], ?_, atEnd ▸ .done⟩
      rw [readLines, dif_neg (by omega), ← atEnd, ← same]
  | case2 state line following after rest done ih =>
      subst same
      obtain ⟨walk, taken, back, walked, split, moved, visited, left, handsBack⟩ :=
        exists_turn inFront unread done
      have count := congrArg List.length unread
      rw [List.length_drop, List.length_cons, split, List.length_append] at count
      obtain ⟨turns, run, tiling⟩ := @ih ⟨cursor.lines, cursor.position + taken.length + 1, after⟩
        (by dsimp only; omega) (by dsimp only; omega) left rfl complete
      have begins : cursor.lines[cursor.position.toNat]? = some line := by
        rw [← List.head?_drop, unread, List.head?_cons]
      have own : Turn.taken ⟨cursor.position, line, walk.visited, cursor.position + taken.length + 1⟩
          cursor.lines = line :: taken :=
        Turn.taken_eq (split ▸ unread)
      have exact : Turn.IsExact
          ⟨cursor.position, line, walk.visited, cursor.position + taken.length + 1⟩ cursor.lines turns := by
        cases back with
        | none => exact .inl (by rw [own, visited, Option.toList_none, List.append_nil])
        | some next =>
            obtain ⟨head, hands⟩ := handsBack next rfl
            obtain ⟨following, more, rfl, same⟩ :=
              tiling.exists_head (by rw [← List.head?_drop, left, head])
            have behind := congrArg List.tail unread
            rw [List.tail_drop, List.tail_cons] at behind
            refine .inr ⟨following, more, rfl, ?_, ?_⟩
            · rw [own, visited, same, Option.toList_some, List.cons_append]
            · rw [same, behind]
              exact hands
      refine ⟨_, ?_, .turn inFront ?_ begins exact tiling⟩
      · rw [readLines_of_done (by omega) (atPosition_eq_ok inFront begins) walked, moved]
        dsimp only
        rw [run]
      · dsimp only
        omega
  | case3 => cases complete

/-- The cursor of a script goes through all its lines, turn by turn, and reads what the steps over them read.
It comes to stand behind the last line after at most as many turns as there are lines. The first turn
begins at the first line, every other one where the one before ended, at least one line further on; so
the turns together have every line once. A turn moves the cursor once to each of its lines behind the
first, and to no other line but perhaps one, the header of another block that ends the body of a table
that was never closed. The next turn begins at that header and takes it for what it is. -/
theorem readLines_tiles (policy : Policy) (script : String) :
    let lines := SourceLine.ofScript script
    let last := ((Cursor.ofScript script).readLines policy).1
    let turns := ((Cursor.ofScript script).readLines policy).2
    (last.lines = lines ∧ last.position = lines.length ∧
        ReadState.readLines policy .none {} lines = (last.state, none)) ∧
      turns.length ≤ lines.length ∧
      turns.map Turn.start ++ [(lines.length : Int)] = (0 : Int) :: turns.map Turn.stop ∧
      turns.flatMap (·.taken lines) = lines ∧
      ∀ (earlier : List Turn) (turn : Turn) (later : List Turn), turns = earlier ++ turn :: later →
        (0 ≤ turn.start ∧ turn.start < turn.stop ∧ turn.stop ≤ lines.length) ∧
          lines[turn.start.toNat]? = some turn.line ∧
          (turn.line :: turn.visited = turn.taken lines ∨
            ∃ next more, later = next :: more ∧
              turn.line :: turn.visited = turn.taken lines ++ [next.line] ∧
              HandsBack turn.line (lines.drop (turn.start.toNat + 1)) next.line ∧
              LineKind.classify false next.line.text.toList ∈
                [LineKind.table, .enum, .project, .tableGroup]) := by
  intro lines last turns
  obtain ⟨read, _, complete, _⟩ := ReadState.ofLines_checked policy script
  obtain ⟨found, run, tiling⟩ := @exists_turns policy (Cursor.ofScript script) read (Int.le_refl 0)
    (Int.natCast_nonneg _) complete
  have sameLast : last = ⟨lines, lines.length, read⟩ := congrArg Prod.fst run
  have sameTurns : turns = found := congrArg Prod.snd run
  rw [← sameTurns] at tiling
  have bound : (0 : Int) + turns.length ≤ lines.length := tiling.length_le
  refine ⟨⟨by rw [sameLast], by rw [sameLast], by rw [sameLast]; exact complete⟩, ?_, tiling.boundaries,
    tiling.flatMap_taken, fun earlier turn later split => ?_⟩
  · omega
  · rw [split] at tiling
    obtain ⟨⟨inFront, forward⟩, begins, exact, behind⟩ := tiling.isExact_of_append
    have within : turn.stop + later.length ≤ lines.length := behind.length_le
    refine ⟨⟨inFront, forward, by omega⟩, begins, ?_⟩
    rcases exact with plain | ⟨next, more, first, looked, hands⟩
    · exact .inl plain
    · exact .inr ⟨next, more, first, looked, hands, LineKind.classify_of_opensBlock hands.opens⟩

end Cursor

end TableScript
