import TableScript.Proofs.Read.Compared.Script
import TableScript.Proofs.SourceLine

namespace TableScript

namespace SourceLine

/-- The line where it stands after so many lines were put in front of the line of that number. -/
def shifted (number count : Nat) (line : SourceLine) : SourceLine :=
  if number ≤ line.number then line.movedBy count else line

theorem text_of_eq_shifted {number count : Nat} {line other : SourceLine}
    (moved : other = line.shifted number count) : other.text = line.text := by
  rw [moved]
  unfold shifted
  split <;> rfl

theorem forall₂_shifted {number : Nat} {lines : List SourceLine}
    (behind : ∀ line ∈ lines, number ≤ line.number) (count : Nat) :
    List.Forall₂ (fun line other => other = line.shifted number count) lines
      (lines.map (·.movedBy count)) := by
  refine List.forall₂_map_right_iff.mpr (List.forall₂_same.mpr fun line member => ?_)
  rw [shifted, if_pos (behind line member)]

end SourceLine

namespace Diagnostic

/-- The diagnostic where it stands after so many lines were put in front of the line of that number. -/
def shifted (number count : Nat) (diagnostic : Diagnostic) : Diagnostic :=
  if (number : Int) ≤ diagnostic.line then { diagnostic with line := diagnostic.line + count }
  else diagnostic

/-- Diagnostics that say the same stand apart only by their places. -/
theorem Alike.eq_at {pairs : SourceLine → SourceLine → Prop} {first second : Diagnostic}
    (alike : Alike pairs first second) :
    second = { first with line := second.line, column := second.column } := by
  obtain ⟨message, severity, kind, suggestion, _⟩ := alike
  cases second
  cases message
  cases severity
  cases kind
  cases suggestion
  rfl

theorem Alike.eq {first second : Diagnostic} (alike : Alike Eq first second) : second = first := by
  obtain ⟨line, _, rfl, offset, stands, column, same, sameColumn⟩ := alike.place
  rw [alike.eq_at, same, sameColumn, ← stands, ← column]

/-- A diagnostic of a line that was moved on is moved on with it. -/
theorem Alike.eq_shifted {number count : Nat} {first second : Diagnostic}
    (alike : Alike (fun line other => other = line.shifted number count) first second) :
    second = first.shifted number count := by
  obtain ⟨line, _, rfl, offset, stands, column, moved, same⟩ := alike.place
  rw [alike.eq_at, moved, same]
  unfold shifted SourceLine.shifted
  by_cases behind : number ≤ line.number
  · have moves : (number : Int) ≤ first.line := stands ▸ Int.ofNat_le.mpr behind
    have further : ((line.movedBy count).number : Int) = first.line + count :=
      stands ▸ Int.natCast_add line.number count
    have sameColumn : (line.movedBy count).columnOf offset = first.column := column.symm
    rw [if_pos behind, if_pos moves, further, sameColumn]
  · have stays : ¬(number : Int) ≤ first.line := stands ▸ fun le => behind (Int.ofNat_le.mp le)
    rw [if_neg behind, if_neg stays, ← stands, ← column]

theorem eq_map_shifted {number count : Nat} {found others : List Diagnostic}
    (together : List.Forall₂ (Alike fun line other => other = line.shifted number count) found others) :
    others = found.map (shifted number count) := by
  induction together with
  | nil => rfl
  | cons alike _ ih => rw [List.map_cons, ← alike.eq_shifted, ← ih]

theorem map_shifted_eq_self {number count : Nat} {found : List Diagnostic}
    (earlier : ∀ diagnostic ∈ found, diagnostic.line < number) :
    found.map (shifted number count) = found := by
  refine (List.map_congr_left fun diagnostic member => ?_).trans (List.map_id found)
  exact if_neg (Int.not_le.mpr (earlier diagnostic member))

/-- The second diagnostics are the first ones, each moved on with its line, and somewhere among them what is
said of a block that was put in front of the line of that number. -/
def SaidAmong (number count : Nat) (said first second : List Diagnostic) : Prop :=
  ∃ earlier later, first = earlier ++ later ∧
    second = earlier.map (shifted number count) ++ said ++ later.map (shifted number count)

theorem SaidAmong.eq_map {number count : Nat} {first second : List Diagnostic}
    (nothing : SaidAmong number count [] first second) : second = first.map (shifted number count) := by
  obtain ⟨earlier, later, rfl, rfl⟩ := nothing
  rw [List.append_nil, List.map_append]

end Diagnostic

end TableScript
