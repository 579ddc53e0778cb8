import TableScript.Proofs.Text.Pieces
import TableScript.Grammar.Keyword

namespace TableScript

open Text

namespace Keyword

variable {keyword : Keyword} {text behind : List Char}

theorem eq_append_of_after? (found : keyword.after? text = some behind) :
    text = keyword.capital.toList ++ behind ∨ text = keyword.small.toList ++ behind := by
  unfold after? at found
  cases capital : Text.after? keyword.capital.toList text with
  | some rest =>
      rw [capital] at found
      cases found
      exact .inl (Text.eq_append_of_after? capital)
  | none =>
      rw [capital] at found
      exact .inr (Text.eq_append_of_after? found)

theorem exists_eq_append_of_after? (found : keyword.after? text = some behind) :
    ∃ word : List Char, text = word ++ behind := by
  rcases eq_append_of_after? found with front | front
  · exact ⟨_, front⟩
  · exact ⟨_, front⟩

/-- No blank stands in a keyword, however it is written. -/
theorem isBlank_eq_false_of_mem {word : String} {c : Char} (spelled : word ∈ [keyword.capital, keyword.small])
    (member : c ∈ word.toList) : isBlank c = false := by
  have plain : ([keyword.capital, keyword.small].all fun word => word.toList.all (!isBlank ·)) = true := by
    cases keyword <;> decide
  simpa using List.all_eq_true.mp (List.all_eq_true.mp plain word spelled) c member

/-- However the two keywords are written, they are different from some character on. -/
def differs (keyword other : Keyword) : Bool :=
  [keyword.capital, keyword.small].all fun word =>
    [other.capital, other.small].all fun front => clash word.toList front.toList

theorem after?_eq_none (keyword : Keyword) {other : Keyword} (differ : keyword.differs other = true)
    (found : other.after? text = some behind) : keyword.after? text = none := by
  have misses : ∀ front ∈ [other.capital, other.small],
      keyword.after? (front.toList ++ behind) = none := by
    intro front written
    have misses : ∀ word ∈ [keyword.capital, keyword.small],
        Text.after? word.toList (front.toList ++ behind) = none := by
      intro word spelled
      have clashes := List.all_eq_true.mp (List.all_eq_true.mp differ word spelled) front written
      have missed := Text.after?_eq_none clashes [] behind
      rwa [List.append_nil] at missed
    rw [after?, misses _ (by simp), misses _ (by simp)]
    rfl
  rcases eq_append_of_after? found with rfl | rfl
  · exact misses _ (by simp)
  · exact misses _ (by simp)

theorem namesSomething_of_after? {blank : Char} {rest : List Char}
    (found : keyword.after? text = some (blank :: rest)) (spaced : isBlank blank = true) :
    keyword.namesSomething text = (trimStart rest).head?.any isWord := by
  rw [namesSomething, found]
  dsimp only
  rw [spaced, Bool.true_and]
  cases trimStart rest <;> rfl

theorem namesSomething_eq_false (missing : keyword.after? text = none) :
    keyword.namesSomething text = false := by
  rw [namesSomething, missing]

theorem precedes_eq_false (missing : keyword.after? text = none) (mark : Char) :
    keyword.precedes mark text = false := by
  rw [precedes, missing]

theorem after?_capital (keyword : Keyword) (behind : List Char) :
    keyword.after? (keyword.capital.toList ++ behind) = some behind := by
  rw [after?, after?_append]
  rfl

end Keyword

/-- A line that begins like a note has the text of one, which may be empty. -/
theorem noteText?_isSome {text : List Char} (begins : Keyword.note.precedes ':' text = true) :
    (noteText? text).isSome = true := by
  unfold Keyword.precedes at begins
  cases found : Keyword.note.after? text with
  | none => simp [found] at begins
  | some behind =>
      cases start : trimStart behind with
      | nil => simp [found, start] at begins
      | cons c rest =>
          have colon : c = ':' := by simpa [found, start] using begins
          simp [noteText?, found, start, colon, Text.after?]

end TableScript
