import TableScript.Proofs.Text.Pieces
import TableScript.Text.Quote

namespace TableScript.Text

variable {text : List Char}

theorem isQuoted_quote (text : List Char) : isQuoted (quote text) = true := by
  rw [quote, List.cons_append, isQuoted, List.getLast?_concat]
  rfl

theorem stripQuotes_quote (text : List Char) : stripQuotes (quote text) = text := by
  have inner : (quote text).tail.dropLast = escape text := by
    rw [quote, List.cons_append, List.tail_cons, List.dropLast_concat]
  rw [stripQuotes, if_pos (isQuoted_quote text), inner, unescape_escape]

theorem stripQuotes_of_head (head : ∀ c ∈ text.head?, isQuoteMark c = false) :
    stripQuotes text = text := by
  cases text with
  | nil => rfl
  | cons c rest => simp [stripQuotes, isQuoted, head c rfl]

theorem isTrimmed_quote (text : List Char) : IsTrimmed (quote text) := by
  refine ⟨?_, ?_⟩
  · intro c member
    cases member
    decide
  · rw [quote, List.getLast?_concat]
    intro c member
    cases member
    decide

theorem lineBreak_not_mem_escapeChar {lineBreak : Char} (breaks : lineBreak = '\n' ∨ lineBreak = '\r')
    (c : Char) : lineBreak ∉ escapeChar c := by
  have others : lineBreak ≠ '\\' ∧ lineBreak ≠ '\'' ∧ lineBreak ≠ 'n' ∧ lineBreak ≠ 'r' := by
    rcases breaks with rfl | rfl <;> decide
  by_cases same : c = lineBreak
  · rw [same]
    rcases breaks with rfl | rfl <;> decide
  · unfold escapeChar
    repeat' split
    all_goals simp [others, Ne.symm same]

/-- A quoted text stands on one line. -/
theorem lineBreak_not_mem_quote {lineBreak : Char} (breaks : lineBreak = '\n' ∨ lineBreak = '\r')
    (text : List Char) : lineBreak ∉ quote text := by
  have mark : lineBreak ≠ '\'' := by
    rcases breaks with rfl | rfl <;> decide
  have inside : lineBreak ∉ escape text := by
    intro member
    obtain ⟨c, _, among⟩ := List.mem_flatMap.mp member
    exact lineBreak_not_mem_escapeChar breaks c among
  simp [quote, mark, inside]

end TableScript.Text
