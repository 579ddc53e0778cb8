import Mathlib.Data.List.TakeWhile
import TableScript.Lexeme
import TableScript.Text.Character

namespace TableScript.Text

theorem CodeTable.contains_iff {table : CodeTable} {c : Char} :
    table.contains c = true ↔
      c.toNat ∈ table.flatMap fun range => List.range' range.1 (range.2 + 1 - range.1) := by
  simp only [CodeTable.contains, List.any_eq_true, Bool.and_eq_true, decide_eq_true_eq,
    List.mem_flatMap, List.mem_range'_1]
  constructor
  · intro found
    obtain ⟨range, member, lower, upper⟩ := found
    exact ⟨range, member, lower, by omega⟩
  · intro found
    obtain ⟨range, member, lower, upper⟩ := found
    exact ⟨range, member, lower, by omega⟩

theorem holds_of_isBlank (holds : Char → Bool)
    (each : ∀ code ∈ blankTable.flatMap fun range => List.range' range.1 (range.2 + 1 - range.1),
      holds (Char.ofNat code) = true)
    {c : Char} (blank : isBlank c = true) : holds c = true := by
  have found := each c.toNat (CodeTable.contains_iff.mp blank)
  rwa [Char.ofNat_toNat] at found

theorem isWord_eq_false_of_isBlank {c : Char} (blank : isBlank c = true) : isWord c = false := by
  have each := holds_of_isBlank (fun c => !isWord c) (by decide +kernel) blank
  simpa using each

theorem isDigit_eq_false_of_isBlank {c : Char} (blank : isBlank c = true) : isDigit c = false := by
  have each := holds_of_isBlank (fun c => !isDigit c) (by decide +kernel) blank
  simpa using each

theorem isBlank_eq_false_of_isWord {c : Char} (word : isWord c = true) : isBlank c = false := by
  cases blank : isBlank c with
  | false => rfl
  | true => rw [isWord_eq_false_of_isBlank blank] at word; cases word

theorem isBlank_eq_false_of_isDigit {c : Char} (digit : isDigit c = true) : isBlank c = false := by
  cases blank : isBlank c with
  | false => rfl
  | true => rw [isDigit_eq_false_of_isBlank blank] at digit; cases digit

theorem isQuoteMark_iff {c : Char} :
    isQuoteMark c = true ↔ c = '\'' ∨ c = '"' ∨ c = '\x60' := by
  simp [isQuoteMark, or_assoc]

end TableScript.Text

namespace TableScript.Lexeme

open Text

theorem isIdentifierPart_of_isIdentifierStart {c : Char} (start : isIdentifierStart c = true) :
    isIdentifierPart c = true := by
  simp [isIdentifierPart, start]

theorem cases_of_isIdentifierPart {c : Char} (part : isIdentifierPart c = true) :
    ((('a'.val ≤ c.val ∧ c.val ≤ 'z'.val) ∨ ('A'.val ≤ c.val ∧ c.val ≤ 'Z'.val)) ∨ c = '_') ∨
      ('0'.val ≤ c.val ∧ c.val ≤ '9'.val) := by
  simpa only [isIdentifierPart, isIdentifierStart, isAsciiLetter, Bool.or_eq_true, Bool.and_eq_true,
    decide_eq_true_eq, beq_iff_eq, Char.le_def] using part

theorem toNat_lt_of_isIdentifierPart {c : Char} (part : isIdentifierPart c = true) :
    c.toNat < 128 := by
  have cases_of := cases_of_isIdentifierPart part
  simp only [UInt32.le_iff_toNat_le] at cases_of
  unfold Char.toNat
  rcases cases_of with ((lower | upper) | rfl) | digit
  · change 97 ≤ c.val.toNat ∧ c.val.toNat ≤ 122 at lower
    omega
  · change 65 ≤ c.val.toNat ∧ c.val.toNat ≤ 90 at upper
    omega
  · decide
  · change 48 ≤ c.val.toNat ∧ c.val.toNat ≤ 57 at digit
    omega

theorem isWord_of_isIdentifierPart {c : Char} (part : isIdentifierPart c = true) :
    isWord c = true := by
  rw [isWord, if_pos (toNat_lt_of_isIdentifierPart part), isAsciiWord]
  unfold Char.isAlphanum Char.isAlpha Char.isUpper Char.isLower Char.isDigit
  simp only [Bool.or_eq_true, Bool.and_eq_true, decide_eq_true_eq, beq_iff_eq, ge_iff_le]
  rcases cases_of_isIdentifierPart part with ((lower | upper) | mark) | digit
  · exact .inl (.inl (.inr lower))
  · exact .inl (.inl (.inl upper))
  · exact .inr mark
  · exact .inl (.inr digit)

theorem isWord_of_isIdentifierStart {c : Char} (start : isIdentifierStart c = true) :
    isWord c = true :=
  isWord_of_isIdentifierPart (isIdentifierPart_of_isIdentifierStart start)

theorem isBlank_eq_false_of_isIdentifierStart {c : Char} (start : isIdentifierStart c = true) :
    isBlank c = false :=
  isBlank_eq_false_of_isWord (isWord_of_isIdentifierStart start)

theorem exists_start_of_isIdentifier {text : List Char} (identifier : isIdentifier text = true) :
    ∃ c rest, text = c :: rest ∧ isIdentifierStart c = true := by
  cases text with
  | nil => cases identifier
  | cons c rest => exact ⟨c, rest, rfl, (Bool.and_eq_true_iff.mp identifier).1⟩

theorem exists_of_isIdentifier {text : List Char} (identifier : isIdentifier text = true)
    (oneLine : '\n' ∉ text) :
    ∃ c rest, text = c :: rest ∧ isIdentifierStart c = true ∧
      ∀ d ∈ rest, isIdentifierPart d = true := by
  cases text with
  | nil => cases identifier
  | cons c rest =>
      simp only [isIdentifier, atEnd, Bool.and_eq_true, Bool.or_eq_true, beq_iff_eq] at identifier
      obtain ⟨start, passed | lineFeed⟩ := identifier
      · exact ⟨c, rest, rfl, start, List.dropWhile_eq_nil_iff.mp passed⟩
      · have member : '\n' ∈ rest := by
          have suffix := List.dropWhile_suffix (l := rest) isIdentifierPart
          rw [lineFeed] at suffix
          exact suffix.subset (by simp)
        exact absurd (List.mem_cons_of_mem c member) oneLine

theorem isIdentifierPart_of_mem {text : List Char} {c : Char} (identifier : isIdentifier text = true)
    (oneLine : '\n' ∉ text) (member : c ∈ text) : isIdentifierPart c = true := by
  obtain ⟨first, rest, rfl, start, parts⟩ := exists_of_isIdentifier identifier oneLine
  rcases List.mem_cons.mp member with rfl | later
  · exact isIdentifierPart_of_isIdentifierStart start
  · exact parts c later

end TableScript.Lexeme
