import TableScript.Proofs.Read.Refused.Body
import TableScript.Proofs.Read.SkippedBlock

namespace TableScript

namespace SourceLine

/-- Skipped from its header on, the block ends with its last line: the braces of its lines balance there and
nowhere before. Where the header opens none, the brace on the next line counts instead. -/
def BalancedBlock (header : SourceLine) (body : List SourceLine) : Prop :=
  BalanceAtEnd (header :: body) ∨
    header.balance ≤ 0 ∧ body.head?.any isOpening = true ∧ BalanceAtEnd body

theorem balance_of_isOpening {line : SourceLine} (opening : line.isOpening = true) : line.balance = 1 := by
  rw [balance, beq_iff_eq.mp opening]
  decide +kernel

variable {header first : SourceLine} {body lines : List SourceLine}

theorem balanceAtEnd_cons_iff : BalanceAtEnd (first :: lines) ↔
    (∀ count < lines.length, 0 < first.balance + depthBehind (lines.take count)) ∧
      first.balance + depthBehind lines ≤ 0 := by
  refine and_congr_left fun _ => ⟨fun opened count fits => ?_, fun opened count fits positive => ?_⟩
  · exact opened (count + 1) (Nat.succ_lt_succ fits) (Nat.succ_pos count)
  · obtain ⟨before, rfl⟩ := Nat.exists_eq_succ_of_ne_zero (Nat.ne_of_gt positive)
    exact opened before (Nat.lt_of_succ_lt_succ fits)

theorem depthBehind_movedBy (lines : List SourceLine) (count : Nat) :
    depthBehind (lines.map (·.movedBy count)) = depthBehind lines := by
  induction lines with
  | nil => rfl
  | cons line lines ih => rw [List.map_cons, depthBehind, depthBehind, ih]; rfl

theorem balanceAtEnd_movedBy (lines : List SourceLine) (count : Nat) :
    BalanceAtEnd (lines.map (·.movedBy count)) ↔ BalanceAtEnd lines := by
  unfold BalanceAtEnd
  simp only [List.length_map, ← List.map_take, depthBehind_movedBy]

theorem balancedBlock_movedBy (header : SourceLine) (body : List SourceLine) (count : Nat) :
    BalancedBlock (header.movedBy count) (body.map (·.movedBy count)) ↔ BalancedBlock header body := by
  have opening : (body.map (·.movedBy count)).head?.any isOpening = body.head?.any isOpening := by
    cases body <;> rfl
  have whole := balanceAtEnd_movedBy (header :: body) count
  rw [List.map_cons] at whole
  unfold BalancedBlock
  rw [whole, balanceAtEnd_movedBy, opening]
  rfl

end SourceLine

namespace Skipped

open SourceLine

variable {depth : Int} {header : SourceLine} {lines body : List SourceLine}

theorem balanced_of_toDepthZero (whole : toDepthZero depth lines = ⟨true, []⟩) :
    (∀ count < lines.length, 0 < depth + depthBehind (lines.take count)) ∧
      depth + depthBehind lines ≤ 0 := by
  induction lines generalizing depth with
  | nil => simpa [toDepthZero, depthBehind] using whole
  | cons line lines ih =>
      rw [toDepthZero] at whole
      split at whole
      · cases whole
      · rename_i inside
        obtain ⟨opened, closed⟩ := ih whole
        refine ⟨fun count fits => ?_, by rw [depthBehind]; omega⟩
        cases count with
        | zero => simpa [depthBehind] using Int.not_le.mp inside
        | succ count =>
            have later := opened count (Nat.lt_of_succ_lt_succ fits)
            rw [List.take_succ_cons, depthBehind]
            omega

/-- A balanced block is passed just to its end, whatever stands behind it. -/
theorem ofHeader_of_balancedBlock (balanced : BalancedBlock header body) (nonempty : body ≠ [])
    (rest : List SourceLine) : ofHeader header (body ++ rest) = ⟨true, rest⟩ := by
  rcases balanced with atEnd | ⟨plain, begins, atEnd⟩
  · exact ofHeader_of_balanceAtEnd atEnd nonempty rest
  · obtain ⟨brace, head, opening⟩ := (Option.any_eq_true _ _).mp begins
    obtain ⟨lines, rfl⟩ := List.head?_eq_some_iff.mp head
    obtain ⟨opened, closed⟩ := balanceAtEnd_cons_iff.mp atEnd
    rw [balance_of_isOpening opening] at opened closed
    unfold ofHeader
    rw [if_pos plain, List.cons_append]
    dsimp only
    rw [if_pos opening]
    exact toDepthZero_of_balanceAtEnd opened closed rest

theorem balancedBlock_of_ofHeader (whole : ofHeader header body = ⟨true, []⟩) (nonempty : body ≠ []) :
    BalancedBlock header body := by
  unfold ofHeader at whole
  split at whole
  · rename_i plain
    cases body with
    | nil => exact absurd rfl nonempty
    | cons brace lines =>
        dsimp only at whole
        split at whole
        · rename_i opening
          refine .inr ⟨plain, opening, ?_⟩
          rw [balanceAtEnd_cons_iff, balance_of_isOpening opening]
          exact balanced_of_toDepthZero whole
        · cases whole
  · exact .inl (balanceAtEnd_cons_iff.mpr (balanced_of_toDepthZero whole))

theorem closed_of_toDepthZero (left : (toDepthZero depth lines).rest ≠ []) :
    (toDepthZero depth lines).closed = true := by
  induction lines generalizing depth with
  | nil => exact absurd rfl left
  | cons line lines ih =>
      rw [toDepthZero] at left ⊢
      split at left
      · rw [if_pos (by assumption)]
      · rw [if_neg (by assumption)]
        exact ih left

theorem closed_of_ofHeader (left : (ofHeader header lines).rest ≠ []) :
    (ofHeader header lines).closed = true := by
  unfold ofHeader at left ⊢
  split at left
  · rw [if_pos (by assumption)]
    cases lines with
    | nil => rfl
    | cons brace lines =>
        dsimp only at left ⊢
        split at left
        · rw [if_pos (by assumption)]
          exact closed_of_toDepthZero left
        · rw [if_neg (by assumption)]
  · rw [if_neg (by assumption)]
    exact closed_of_toDepthZero left

/-- A block is balanced if something that stands behind it is just what is left. -/
theorem balancedBlock_of_rest {rest : List SourceLine} (nonempty : body ≠ []) (left : rest ≠ [])
    (whole : (ofHeader header (body ++ rest)).rest = rest) : BalancedBlock header body := by
  have kept : rest <:+ (ofHeader header (body ++ rest)).rest := ⟨[], whole.symm⟩
  have cut := ofHeader_append kept
  have nothing : (ofHeader header body).rest = [] := by
    rw [cut] at whole
    simpa [before] using whole
  have closed : (ofHeader header body).closed = true := by
    have ended := closed_of_ofHeader (whole.symm ▸ left)
    rwa [cut] at ended
  refine balancedBlock_of_ofHeader ?_ nonempty
  rw [← closed, ← nothing]

/-- A block behind which something is left has found its end. -/
theorem ofHeader_append_of_rest (left : (ofHeader header lines).rest ≠ []) (tail : List SourceLine) :
    ofHeader header (lines ++ tail) = (ofHeader header lines).before tail := by
  obtain ⟨taken, whole, replaced⟩ := exists_taken header lines
  obtain ⟨line, behind, split⟩ := List.exists_cons_of_ne_nil left
  have longer := replaced ((ofHeader header lines).rest ++ tail)
    (by rw [split]; exact .ofSameHead line behind _)
  rwa [← List.append_assoc, ← whole] at longer

end Skipped

/-- A body that is closed has found its end. -/
theorem Body.ofLines_append_of_closed {lines : List SourceLine} (closed : (ofLines lines).closed = true)
    (tail : List SourceLine) : ofLines (lines ++ tail) = (ofLines lines).before tail := by
  fun_induction ofLines lines with
  | case1 => cases closed
  | case2 line rest closing =>
      rw [List.cons_append, ofLines, if_pos closing]
      rfl
  | case3 line rest other stops => cases closed
  | case4 line rest other inside kind ih | case5 line rest other inside kind ih =>
      rw [List.cons_append, ofLines, if_neg other, if_neg inside]
      simp only [kind]
      rw [ih closed]
      rfl
  | case6 line rest other inside kind skipped ih =>
      -- The block in the body leaves at least the closing brace.
      have left : (Skipped.ofHeader line rest).rest ≠ [] := by
        intro nothing
        have never : (ofLines (Skipped.ofHeader line rest).rest).closed = true := closed
        rw [nothing, ofLines] at never
        cases never
      rw [List.cons_append, ofLines, if_neg other, if_neg inside]
      simp only [kind]
      rw [Skipped.ofHeader_append_of_rest left]
      exact congrArg (·.cons (.indexes line skipped.closed)) (ih closed)
  | case7 line rest other inside noColumn noNote noIndexes ih =>
      rw [List.cons_append, ofLines, if_neg other, if_neg inside]
      simp only
      rw [ih closed]
      rfl

end TableScript
