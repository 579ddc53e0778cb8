import TableScript.Proofs.LineKind
import TableScript.Proofs.Read.Interrupted

/-! Other lines in the place of those that a step leaves unread. The step ended in front of them for good, so
it reads just as much when other lines follow, as long as these do not begin with a brace that it would take,
nor with a line that it would take into a body. So up to a line at which a step begins, all is read as it is
whatever replaces that line. -/

namespace TableScript

/-- The block may stand where the unread lines stood behind a step: it begins with a brace or goes on with a
body only where these did. -/
structure Replaces (unread block : List SourceLine) : Prop where
  nonempty : unread ≠ []
  opening : block.head?.any SourceLine.isOpening = true → unread.head?.any SourceLine.isOpening = true
  handedBack : (unread.head?.any fun line => LineKind.opensBlock line.text.toList) = true →
    (block.head?.all fun line => LineKind.opensBlock line.text.toList) = true

namespace Replaces

variable {line header : SourceLine} {lines unread block : List SourceLine}

theorem ofHeader (nonempty : unread ≠ []) (opens : LineKind.opensBlock header.text.toList = true)
    (block : List SourceLine) : Replaces unread (header :: block) where
  nonempty := nonempty
  opening := fun brace => absurd brace
    (Bool.eq_false_iff.mp (SourceLine.isOpening_eq_false (LineKind.ne_brace_of_opensBlock opens)))
  handedBack := fun _ => opens

theorem ofSameHead (line : SourceLine) (lines block : List SourceLine) :
    Replaces (line :: lines) (line :: block) where
  nonempty := List.cons_ne_nil line lines
  opening := id
  handedBack := id

/-- Lines in front of a place hide what is replaced there. -/
theorem behind (replaces : Replaces unread block) (front : List SourceLine) :
    Replaces (front ++ unread) (front ++ block) := by
  cases front with
  | nil => exact replaces
  | cons first front => exact ofSameHead first _ _

/-- A line that begins no block may be missing in front of a line that is no brace. -/
theorem ofMissing (plain : LineKind.opensBlock line.text.toList = false)
    (next : ∀ next ∈ lines.head?, next.isOpening = false) (front : List SourceLine) :
    Replaces (front ++ line :: lines) (front ++ lines) := by
  refine behind ⟨List.cons_ne_nil line lines, fun brace => ?_, fun opens => ?_⟩ front
  · obtain ⟨first, head, opening⟩ := (Option.any_eq_true _ _).mp brace
    rw [next first head] at opening
    cases opening
  · rw [List.head?_cons, Option.any_some, plain] at opens
    cases opens

theorem not_opening {next : SourceLine} (replaces : Replaces unread (next :: block))
    (stays : ∀ first rest, unread = first :: rest → ¬first.isOpening = true) : ¬next.isOpening = true := by
  intro brace
  obtain ⟨first, head, opening⟩ := (Option.any_eq_true _ _).mp (replaces.opening brace)
  obtain ⟨rest, split⟩ := List.head?_eq_some_iff.mp head
  exact stays first rest split opening

end Replaces

namespace Skipped

variable {depth : Int} {line : SourceLine} {lines unread block : List SourceLine}

theorem toDepthZero_replace (kept : unread <:+ (toDepthZero depth (lines ++ unread)).rest)
    (nonempty : unread ≠ []) (block : List SourceLine) :
    toDepthZero depth (lines ++ block) = (toDepthZero depth lines).before block := by
  induction lines generalizing depth with
  | nil =>
      -- Something is left unread, so the braces balance here.
      have balanced : depth ≤ 0 := by
        cases unread with
        | nil => exact absurd rfl nonempty
        | cons line rest =>
            rw [List.nil_append, toDepthZero] at kept
            split at kept
            · assumption
            · exact absurd kept (not_suffix_of_suffix_tail (toDepthZero_suffix _ rest))
      cases block with
      | nil => rfl
      | cons line rest => simp [toDepthZero, before, balanced]
  | cons line lines ih =>
      rw [List.cons_append, toDepthZero] at kept ⊢
      rw [toDepthZero]
      split at kept
      · rename_i balanced
        rw [if_pos balanced, if_pos balanced]
        rfl
      · rename_i opened
        rw [if_neg opened, if_neg opened]
        exact ih kept

theorem ofHeader_replace (kept : unread <:+ (ofHeader line (lines ++ unread)).rest)
    (replaces : Replaces unread block) :
    ofHeader line (lines ++ block) = (ofHeader line lines).before block := by
  unfold ofHeader at kept ⊢
  by_cases plain : line.balance ≤ 0
  · rw [if_pos plain] at kept
    rw [if_pos plain, if_pos plain]
    cases lines with
    | nil =>
        -- A brace in front of what is left unread would have been read.
        cases block with
        | nil => rfl
        | cons next block =>
            have other : ¬next.isOpening = true := by
              refine replaces.not_opening fun first rest split opening => ?_
              subst split
              simp only [List.nil_append, if_pos opening] at kept
              exact not_suffix_of_suffix_tail (toDepthZero_suffix 1 rest) kept
            dsimp only [List.nil_append]
            rw [if_neg other]
            rfl
    | cons next rest =>
        dsimp only [List.cons_append] at kept ⊢
        split at kept
        · rename_i opening
          rw [if_pos opening, if_pos opening]
          exact toDepthZero_replace kept replaces.nonempty _
        · rename_i other
          rw [if_neg other, if_neg other]
          rfl
  · rw [if_neg plain] at kept
    rw [if_neg plain, if_neg plain]
    exact toDepthZero_replace kept replaces.nonempty _

end Skipped

namespace Body

variable {header : SourceLine} {lines unread block : List SourceLine}

theorem ofLines_of_opensBlock (opens : LineKind.opensBlock header.text.toList = true) :
    ofLines (header :: block) = ⟨[], false, header :: block⟩ := by
  have notClosing : header.isClosing = false :=
    SourceLine.isClosing_eq_false (LineKind.ne_brace_of_opensBlock opens)
  rw [ofLines, if_neg (Bool.eq_false_iff.mp notClosing), if_pos opens]

/-- A body that reads none of its lines ends in front of the header of another block. -/
theorem opensBlock_of_unread (kept : unread <:+ (ofLines unread).rest) (nonempty : unread ≠ []) :
    (unread.head?.any fun line => LineKind.opensBlock line.text.toList) = true := by
  have whole := ofLines_of_unread kept
  obtain ⟨first, more, rfl⟩ := List.exists_cons_of_ne_nil nonempty
  by_contra inside
  rw [List.head?_cons, Option.any_some] at inside
  rw [ofLines, if_neg inside] at whole
  split at whole
  · cases whole
  · split at whole <;> cases whole

theorem ofLines_replace (kept : unread <:+ (ofLines (lines ++ unread)).rest)
    (replaces : Replaces unread block) :
    ofLines (lines ++ block) = (ofLines lines).before block := by
  fun_induction ofLines lines with
  | case1 =>
      have opens := replaces.handedBack (opensBlock_of_unread kept replaces.nonempty)
      cases block with
      | nil => rw [List.append_nil, ofLines]; rfl
      | cons header block => exact ofLines_of_opensBlock opens
  | case2 line rest closing =>
      rw [List.cons_append, ofLines, if_pos closing]
      rfl
  | case3 line rest other stops =>
      rw [List.cons_append, ofLines, if_neg other, if_pos stops]
      rfl
  | case4 line rest other inside kind ih | case5 line rest other inside kind ih =>
      rw [List.cons_append, ofLines, if_neg other, if_neg inside] at kept ⊢
      simp only [kind] at kept ⊢
      rw [ih kept]
      rfl
  | case6 line rest other inside kind skipped ih =>
      rw [List.cons_append, ofLines, if_neg other, if_neg inside] at kept ⊢
      simp only [kind] at kept ⊢
      have behind := kept.trans (ofLines_suffix _)
      rw [Skipped.ofHeader_append behind] at kept
      rw [Skipped.ofHeader_replace behind replaces]
      exact congrArg (·.cons (.indexes line skipped.closed)) (ih kept)
  | case7 line rest other inside noColumn noNote noIndexes ih =>
      rw [List.cons_append, ofLines, if_neg other, if_neg inside] at kept ⊢
      simp only at kept ⊢
      rw [ih kept]
      rfl

end Body

namespace ReadState

variable {policy : Policy} {interrupts : Interrupts} {state after : ReadState}
  {line : SourceLine} {declared : TableHeader} {following unread rest block : List SourceLine}

theorem readBody_replace (policy : Policy) (line : SourceLine) (declared : TableHeader)
    (progress : ReadState × Table)
    (kept : unread <:+ (readBody policy line declared (following ++ unread) progress).2)
    (replaces : Replaces unread block) :
    readBody policy line declared (following ++ block) progress =
      ((readBody policy line declared following progress).1,
        (readBody policy line declared following progress).2 ++ block) := by
  unfold readBody TableHeader.bodyLines? at kept ⊢
  by_cases begins : declared.opensBody = true
  · simp only [if_pos begins] at kept ⊢
    rw [Body.ofLines_replace kept replaces]
    rfl
  · simp only [if_neg begins] at kept ⊢
    cases following with
    | nil =>
        cases block with
        | nil => rfl
        | cons next block =>
            have other : ¬next.isOpening = true := by
              refine replaces.not_opening fun first behind split opening => ?_
              subst split
              simp only [List.nil_append, if_pos opening] at kept
              exact not_suffix_of_suffix_tail (Body.ofLines_suffix behind) kept
            simp only [List.nil_append, if_neg other]
    | cons first behind =>
        by_cases brace : first.isOpening = true
        · simp only [List.cons_append, if_pos brace] at kept ⊢
          rw [Body.ofLines_replace kept replaces]
          rfl
        · simp only [List.cons_append, if_neg brace]

theorem skipBlock_replace (kept : unread <:+ (state.skipBlock line (following ++ unread)).2)
    (replaces : Replaces unread block) :
    state.skipBlock line (following ++ block) =
      ((state.skipBlock line following).1, (state.skipBlock line following).2 ++ block) := by
  unfold skipBlock at kept ⊢
  rw [Skipped.ofHeader_replace kept replaces]
  rfl

theorem readAcceptedTable_replace
    (done : readAcceptedTable policy state line declared (following ++ unread) = .ok (after, rest))
    (kept : unread <:+ rest) (replaces : Replaces unread block) :
    ∃ front, rest = front ++ unread ∧
      readAcceptedTable policy state line declared (following ++ block) =
        .ok (after, front ++ block) := by
  rw [readAcceptedTable_eq] at done ⊢
  have body := readBody_append policy line declared following unread
    (state.withHeader policy line declared, declared.table state.tablesNumbered)
  have replaced := fun left : unread <:+ (readBody policy line declared (following ++ unread)
      (state.withHeader policy line declared, declared.table state.tablesNumbered)).2 =>
    readBody_replace policy line declared _ left replaces
  generalize readBody policy line declared (following ++ unread)
    (state.withHeader policy line declared, declared.table state.tablesNumbered) = whole
    at done body replaced
  obtain ⟨⟨read, table⟩, behind⟩ := whole
  dsimp only at done body replaced
  cases declares : read.catalog.declare table with
  | error refusal =>
      rw [declares] at done
      cases done
  | ok catalog =>
      rw [declares] at done
      cases done
      rw [replaced kept]
      generalize readBody policy line declared following
        (state.withHeader policy line declared, declared.table state.tablesNumbered) = cut at body
      obtain ⟨progress, front⟩ := cut
      obtain ⟨sameProgress, sameRest⟩ := Prod.mk.inj (body kept)
      subst sameProgress
      exact ⟨front, sameRest, by simp only [declares]⟩

theorem skipBlock_eq_replace {result : ReadState × List SourceLine}
    (done : state.skipBlock line (following ++ unread) = result) (kept : unread <:+ result.2)
    (replaces : Replaces unread block) :
    ∃ front, result.2 = front ++ unread ∧
      state.skipBlock line (following ++ block) = (result.1, front ++ block) := by
  subst done
  rw [skipBlock_replace kept replaces, skipBlock_append kept]
  exact ⟨_, rfl, rfl⟩

theorem readTable_replace
    (done : readTable policy state line (following ++ unread) = .ok (after, rest))
    (kept : unread <:+ rest) (replaces : Replaces unread block) :
    ∃ front, rest = front ++ unread ∧
      readTable policy state line (following ++ block) = .ok (after, front ++ block) := by
  unfold readTable at done ⊢
  cases read : TableHeader.read? line.text.toList with
  | none =>
      rw [read] at done
      obtain ⟨front, left, replaced⟩ := skipBlock_eq_replace (Except.ok.inj done) kept replaces
      exact ⟨front, left, congrArg Except.ok replaced⟩
  | some declared =>
      rw [read] at done
      dsimp only at done ⊢
      cases allowed : declared.nameProblems state.catalog with
      | nil =>
          rw [allowed] at done
          exact readAcceptedTable_replace done kept replaces
      | cons problem problems =>
          rw [allowed] at done
          obtain ⟨front, left, replaced⟩ := skipBlock_eq_replace (Except.ok.inj done) kept replaces
          exact ⟨front, left, congrArg Except.ok replaced⟩

theorem readKind_replace {kind : LineKind}
    (done : readKind policy state kind line (following ++ unread) = .ok (after, rest))
    (kept : unread <:+ rest) (replaces : Replaces unread block) :
    ∃ front, rest = front ++ unread ∧
      readKind policy state kind line (following ++ block) = .ok (after, front ++ block) := by
  cases kind with
  | table => exact readTable_replace done kept replaces
  | enum | project | tableGroup | indexes =>
      obtain ⟨front, left, replaced⟩ := skipBlock_eq_replace (Except.ok.inj done) kept replaces
      exact ⟨front, left, congrArg Except.ok replaced⟩
  | ref | columnLike | note | brace | unknown =>
      cases done
      exact ⟨following, rfl, rfl⟩

/-- A step that leaves lines unread does the same in front of others that may stand there. -/
theorem step_replace
    (done : step policy interrupts state line (following ++ unread) = .ok (after, rest))
    (kept : unread <:+ rest) (replaces : Replaces unread block) :
    ∃ front, rest = front ++ unread ∧
      step policy interrupts state line (following ++ block) = .ok (after, front ++ block) := by
  obtain ⟨free, read⟩ := step_eq_ok_iff.mp done
  obtain ⟨front, left, replaced⟩ := readKind_replace read kept replaces
  exact ⟨front, left, step_eq_ok_iff.mpr ⟨free, replaced⟩⟩

variable {front behind lines : List SourceLine} {first : SourceLine}

theorem stepLines_subset : stepLines policy state lines ⊆ lines := by
  fun_induction stepLines policy state lines with
  | case1 => exact List.Subset.refl []
  | case2 state line following after rest done ih =>
      exact List.cons_subset_cons line (List.Subset.trans ih (step_suffix done).subset)
  | case3 state line following failure failed =>
      exact List.cons_subset_cons line (List.nil_subset following)

/-- Where a step begins at a line that stands at one place only, what is handed on to it are that line and
the lines behind it. -/
theorem exists_rest_eq {rest : List SourceLine}
    (suffix : rest <:+ front ++ first :: behind) (member : first ∈ rest) (notBehind : first ∉ behind) :
    ∃ left, rest = left ++ first :: behind ∧ left <:+ front := by
  obtain ⟨taken, whole⟩ := suffix
  rcases List.append_eq_append_iff.mp whole with ⟨left, frontSplit, restSplit⟩ | ⟨extra, _, split⟩
  · exact ⟨left, restSplit, taken, frontSplit.symm⟩
  · cases extra with
    | nil => exact ⟨[], split.symm, List.nil_suffix⟩
    | cons line extra =>
        obtain ⟨_, behindSplit⟩ := List.cons.inj split
        exact absurd (behindSplit ▸ List.mem_append_right extra member) notBehind

/-- Up to a line at which a step begins, everything is read before that step, and it makes no difference
which lines stand there that may replace it and those behind it. -/
theorem exists_middle (begins : first ∈ stepLines policy state (front ++ first :: behind))
    (notBefore : first ∉ front) (notBehind : first ∉ behind) :
    ∃ middle, readLines policy .none state front = (middle, none) ∧
      readLines policy .none state (front ++ first :: behind) =
        readLines policy .none middle (first :: behind) ∧
      ∀ block, Replaces (first :: behind) block →
        readLines policy .none state (front ++ block) = readLines policy .none middle block := by
  generalize split : front ++ first :: behind = lines at begins
  fun_induction stepLines policy state lines generalizing front with
  | case1 state => cases begins
  | case2 state line following after rest done ih =>
      cases front with
      | nil => exact ⟨state, by rw [readLines], by rw [← split]; rfl, fun block _ => rfl⟩
      | cons line front =>
          obtain ⟨rfl, rfl⟩ := List.cons.inj split
          have later : first ∈ stepLines policy after rest :=
            (List.mem_cons.mp begins).resolve_left fun same => notBefore (same ▸ List.mem_cons_self)
          obtain ⟨left, rfl, within⟩ :=
            exists_rest_eq (step_suffix done) (stepLines_subset later) notBehind
          obtain ⟨middle, complete, same, replaced⟩ :=
            ih (fun member => notBefore (List.mem_cons_of_mem line (within.subset member))) rfl later
          obtain ⟨_, sameLeft, cut⟩ := step_append done (List.suffix_append left (first :: behind))
          have samePlace := List.append_cancel_right sameLeft
          subst samePlace
          refine ⟨middle, (readLines_cons cut).trans complete, (readLines_cons done).trans same,
            fun block replaces => ?_⟩
          obtain ⟨_, sameLeft, put⟩ :=
            step_replace done (List.suffix_append left (first :: behind)) replaces
          have samePlace := List.append_cancel_right sameLeft
          subst samePlace
          exact (readLines_cons put).trans (replaced block replaces)
  | case3 state line following failure failed =>
      cases front with
      | nil => exact ⟨state, by rw [readLines], by rw [← split]; rfl, fun block _ => rfl⟩
      | cons line front =>
          obtain ⟨rfl, _⟩ := List.cons.inj split
          exact absurd (List.mem_singleton.mp begins ▸ List.mem_cons_self) notBefore

end ReadState

end TableScript
