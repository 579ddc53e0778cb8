import TableScript.Proofs.Read.Step

/-! Lines that a step leaves unread make no difference to it. Steps look ahead: a brace may stand on the
line behind a header, and the header of another block ends a body that was not closed. But what is handed
on unread could as well be missing; the end of the script ends a block as the header of another one does. -/

namespace TableScript

/-- Behind one of several lines there is less than all of them. -/
theorem not_suffix_of_suffix_tail {line : SourceLine} {lines rest : List SourceLine}
    (suffix : rest <:+ lines) : ¬line :: lines <:+ rest := by
  intro whole
  have shorter := suffix.length_le
  have longer := whole.length_le
  rw [List.length_cons] at longer
  omega

namespace Skipped

/-- The same block with more lines behind it. -/
def before (skipped : Skipped) (unread : List SourceLine) : Skipped :=
  { skipped with rest := skipped.rest ++ unread }

variable {depth : Int} {header : SourceLine} {lines unread : List SourceLine}

theorem toDepthZero_append (kept : unread <:+ (toDepthZero depth (lines ++ unread)).rest) :
    toDepthZero depth (lines ++ unread) = (toDepthZero depth lines).before unread := by
  induction lines generalizing depth with
  | nil =>
      cases unread with
      | nil => rfl
      | cons line rest =>
          rw [List.nil_append, toDepthZero] at kept ⊢
          split at kept
          · rename_i closed
            simp [toDepthZero, before, closed]
          · exact absurd kept (not_suffix_of_suffix_tail (toDepthZero_suffix _ rest))
  | cons line lines ih =>
      rw [List.cons_append, toDepthZero] at kept ⊢
      rw [toDepthZero]
      split at kept
      · rename_i closed
        rw [if_pos closed, if_pos closed]
        rfl
      · rename_i opened
        rw [if_neg opened, if_neg opened]
        exact ih kept

theorem ofHeader_append (kept : unread <:+ (ofHeader header (lines ++ unread)).rest) :
    ofHeader header (lines ++ unread) = (ofHeader header lines).before unread := by
  unfold ofHeader at kept ⊢
  by_cases plain : header.balance ≤ 0
  · rw [if_pos plain] at kept
    rw [if_pos plain, if_pos plain]
    cases lines with
    | nil =>
        cases unread with
        | nil => rfl
        | cons line rest =>
            dsimp only [List.nil_append] at kept ⊢
            split at kept
            · exact absurd kept (not_suffix_of_suffix_tail (toDepthZero_suffix 1 rest))
            · rename_i other
              rw [if_neg other]
              rfl
    | cons line rest =>
        dsimp only [List.cons_append] at kept ⊢
        split at kept
        · rename_i opening
          rw [if_pos opening, if_pos opening]
          exact toDepthZero_append kept
        · rename_i other
          rw [if_neg other, if_neg other]
          rfl
  · rw [if_neg plain] at kept
    rw [if_neg plain, if_neg plain]
    exact toDepthZero_append kept

end Skipped

namespace Body

/-- The same body with more lines behind it. -/
def before (body : Body) (unread : List SourceLine) : Body :=
  { body with rest := body.rest ++ unread }

variable {lines unread : List SourceLine}

/-- A body that reads none of its lines has no items and is not closed. -/
theorem ofLines_of_unread (kept : unread <:+ (ofLines unread).rest) :
    ofLines unread = ⟨[], false, unread⟩ := by
  cases unread with
  | nil => rw [ofLines]
  | cons line rest =>
      rw [ofLines] at kept ⊢
      have behind := ofLines_suffix rest
      split at kept
      · exact absurd kept (not_suffix_of_suffix_tail (List.suffix_refl rest))
      · rename_i other
        rw [if_neg other]
        split at kept
        · rename_i opens
          rw [if_pos opens]
        · split at kept
          · exact absurd kept (not_suffix_of_suffix_tail behind)
          · exact absurd kept (not_suffix_of_suffix_tail behind)
          · exact absurd kept (not_suffix_of_suffix_tail
              ((ofLines_suffix _).trans (Skipped.ofHeader_suffix line rest)))
          · exact absurd kept (not_suffix_of_suffix_tail behind)

theorem ofLines_append (kept : unread <:+ (ofLines (lines ++ unread)).rest) :
    ofLines (lines ++ unread) = (ofLines lines).before unread := by
  fun_induction ofLines lines with
  | case1 => exact ofLines_of_unread kept
  | case2 line rest closing =>
      rw [List.cons_append, ofLines, if_pos closing]
      rfl
  | case3 line rest other opens =>
      rw [List.cons_append, ofLines, if_neg other, if_pos opens]
      rfl
  | case4 line rest other inside kind ih | case5 line rest other inside kind ih =>
      rw [List.cons_append, ofLines, if_neg other, if_neg inside] at kept ⊢
      simp only [kind] at kept ⊢
      rw [ih kept]
      rfl
  | case6 line rest other inside kind skipped ih =>
      rw [List.cons_append, ofLines, if_neg other, if_neg inside] at kept ⊢
      simp only [kind] at kept ⊢
      -- The block in the body reads none of the lines either.
      have block : Skipped.ofHeader line (rest ++ unread) = skipped.before unread :=
        Skipped.ofHeader_append (kept.trans (ofLines_suffix _))
      rw [block] at kept ⊢
      exact congrArg (·.cons (.indexes line skipped.closed)) (ih kept)
  | case7 line rest other inside noColumn noNote noIndexes ih =>
      rw [List.cons_append, ofLines, if_neg other, if_neg inside] at kept ⊢
      simp only at kept ⊢
      rw [ih kept]
      rfl

end Body

namespace ReadState

variable {policy : Policy} {interrupts : Interrupts} {state after : ReadState} {line : SourceLine}
  {header : TableHeader} {following unread rest : List SourceLine}

theorem readBody_append (policy : Policy) (line : SourceLine) (header : TableHeader)
    (following unread : List SourceLine) (progress : ReadState × Table)
    (kept : unread <:+ (readBody policy line header (following ++ unread) progress).2) :
    readBody policy line header (following ++ unread) progress =
      ((readBody policy line header following progress).1,
        (readBody policy line header following progress).2 ++ unread) := by
  unfold readBody TableHeader.bodyLines? at kept ⊢
  by_cases opens : header.opensBody = true
  · simp only [if_pos opens] at kept ⊢
    rw [Body.ofLines_append kept]
    rfl
  · simp only [if_neg opens] at kept ⊢
    cases following with
    | nil =>
        cases unread with
        | nil => rfl
        | cons first behind =>
            by_cases brace : first.isOpening = true
            · simp only [List.nil_append, if_pos brace] at kept
              exact absurd kept (not_suffix_of_suffix_tail (Body.ofLines_suffix behind))
            · simp only [List.nil_append, if_neg brace]
    | cons first behind =>
        by_cases brace : first.isOpening = true
        · simp only [List.cons_append, if_pos brace] at kept ⊢
          rw [Body.ofLines_append kept]
          rfl
        · simp only [List.cons_append, if_neg brace]

theorem skipBlock_append (kept : unread <:+ (state.skipBlock line (following ++ unread)).2) :
    state.skipBlock line (following ++ unread) =
      ((state.skipBlock line following).1, (state.skipBlock line following).2 ++ unread) := by
  unfold skipBlock at kept ⊢
  rw [Skipped.ofHeader_append kept]
  rfl

theorem readAcceptedTable_append
    (done : readAcceptedTable policy state line header (following ++ unread) = .ok (after, rest))
    (kept : unread <:+ rest) :
    ∃ front, rest = front ++ unread ∧
      readAcceptedTable policy state line header following = .ok (after, front) := by
  rw [readAcceptedTable_eq] at done ⊢
  have body := readBody_append policy line header following unread
    (state.withHeader policy line header, header.table state.tablesNumbered)
  generalize readBody policy line header (following ++ unread)
    (state.withHeader policy line header, header.table state.tablesNumbered) = whole at done body
  generalize readBody policy line header following
    (state.withHeader policy line header, header.table state.tablesNumbered) = cut at body ⊢
  obtain ⟨⟨read, table⟩, behind⟩ := whole
  obtain ⟨progress, front⟩ := cut
  dsimp only at done body ⊢
  cases declared : read.catalog.declare table with
  | error refusal =>
      rw [declared] at done
      cases done
  | ok catalog =>
      rw [declared] at done
      cases done
      obtain ⟨sameProgress, sameRest⟩ := Prod.mk.inj (body kept)
      subst sameProgress
      exact ⟨front, sameRest, by simp only [declared]⟩

theorem readTable_append
    (done : readTable policy state line (following ++ unread) = .ok (after, rest))
    (kept : unread <:+ rest) :
    ∃ front, rest = front ++ unread ∧
      readTable policy state line following = .ok (after, front) := by
  unfold readTable at done ⊢
  cases read : TableHeader.read? line.text.toList with
  | none =>
      rw [read] at done
      have skipped := Except.ok.inj done
      rw [skipBlock_append (by rw [skipped]; exact kept)] at skipped
      cases skipped
      exact ⟨_, rfl, rfl⟩
  | some header =>
      rw [read] at done
      dsimp only at done ⊢
      cases allowed : header.nameProblems state.catalog with
      | nil =>
          rw [allowed] at done
          exact readAcceptedTable_append done kept
      | cons problem problems =>
          rw [allowed] at done
          have skipped := Except.ok.inj done
          rw [skipBlock_append (by rw [skipped]; exact kept)] at skipped
          cases skipped
          exact ⟨_, rfl, rfl⟩

theorem readKind_append {kind : LineKind}
    (done : readKind policy state kind line (following ++ unread) = .ok (after, rest))
    (kept : unread <:+ rest) :
    ∃ front, rest = front ++ unread ∧
      readKind policy state kind line following = .ok (after, front) := by
  cases kind with
  | table => exact readTable_append done kept
  | ref =>
      cases done
      exact ⟨following, rfl, rfl⟩
  | enum | project | tableGroup | indexes =>
      have skipped := Except.ok.inj done
      rw [skipBlock_append (by rw [skipped]; exact kept)] at skipped
      cases skipped
      exact ⟨_, rfl, rfl⟩
  | columnLike | note | brace | unknown =>
      cases done
      exact ⟨following, rfl, rfl⟩

/-- A step reads alike without the lines that it leaves unread. -/
theorem step_append
    (done : step policy interrupts state line (following ++ unread) = .ok (after, rest))
    (kept : unread <:+ rest) :
    ∃ front, rest = front ++ unread ∧
      step policy interrupts state line following = .ok (after, front) := by
  obtain ⟨free, read⟩ := step_eq_ok_iff.mp done
  obtain ⟨front, same, cut⟩ := readKind_append read kept
  exact ⟨front, same, step_eq_ok_iff.mpr ⟨free, cut⟩⟩

end ReadState

end TableScript
