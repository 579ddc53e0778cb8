import TableScript.Proofs.Grammar.ReferenceLine
import TableScript.Proofs.LineKind

/-! Lines of two grammars. A named reference is spelled like a column by the name of its keyword, with the
name of the reference as its type and the rest of the line ignored behind it. Such a column has no settings,
so no line that holds a reference in its settings reads as a reference itself. -/

namespace TableScript

open Text

variable {text behind rest : List Char}

/-- A type that is one word up to a colon ends where the word ends. -/
theorem Lexeme.afterType?_of_colon (read : afterType? text = some behind)
    (colon : (trimStart (text.dropWhile isWord)).head? = some ':') : behind = text.dropWhile isWord := by
  cases text with
  | nil => cases read
  | cons c rest =>
      rw [afterType?] at read
      split at read
      · rename_i start
        rw [List.dropWhile_cons_of_pos (isWord_of_isIdentifierStart start)] at colon ⊢
        -- Neither a dot nor an opening bracket stands where the word ends.
        have other : ∀ d ∈ (rest.dropWhile isWord).head?, d ≠ '.' ∧ d ≠ '(' ∧ d ≠ '[' := by
          intro d head
          refine ⟨?_, ?_, ?_⟩ <;>
          · rintro rfl
            rw [trimStart_of_head? (by rw [head]; rintro _ ⟨⟩; decide), head] at colon
            exact absurd colon (by decide)
        have type : rest.dropWhile isTypePart = rest.dropWhile isWord := by
          have run : rest = rest.takeWhile isWord ++ rest.dropWhile isWord :=
            List.takeWhile_append_dropWhile.symm
          rw [run, dropWhile_run (fun d member => ?_) (fun d head => ?_), ← run]
          · simp [isTypePart, List.mem_takeWhile_imp member]
          · have stops := List.head?_dropWhile_not isWord rest
            rw [head] at stops
            simpa [isTypePart, (other d head).1] using stops
        rw [type] at read
        cases left : rest.dropWhile isWord with
        | nil =>
            rw [left] at read
            exact (Option.some.inj read).symm
        | cons d tail =>
            obtain ⟨_, paren, bracket⟩ := other d (by rw [left]; rfl)
            simpa [left, afterArguments, afterArrayMark, paren, bracket] using read.symm
      · cases read

theorem dropWhile_of_word? {word : List Char} (read : word? text = some (word, rest)) :
    text.dropWhile isWord = rest := by
  cases text with
  | nil => cases read
  | cons c text =>
      rw [word?, Lexeme.afterRun?] at read
      split at read
      · rename_i first
        rw [List.dropWhile_cons_of_pos first]
        exact (Prod.mk.inj (Option.some.inj read)).2
      · cases read

namespace ColumnLine

variable {declared : ColumnLine} {written : ReferenceLine}

/-- A name that is spelled with a keyword and ends where the keyword ends is the keyword. -/
theorem behindName_eq {name : ColumnName} {keyword : Keyword} {behindName : List Char}
    (nameRead : ColumnName.read? text = some (name, behindName))
    (found : keyword.after? text = some behind)
    (nameEnds : ∀ c ∈ behindName.head?, isBlank c = true)
    (keywordEnds : ∀ c ∈ behind.head?, isBlank c = true) : behindName = behind := by
  have spelled : ∃ word ∈ [keyword.capital, keyword.small], text = word.toList ++ behind := by
    rcases Keyword.eq_append_of_after? found with front | front
    · exact ⟨_, by simp, front⟩
    · exact ⟨_, by simp, front⟩
  obtain ⟨word, isKeyword, front⟩ := spelled
  cases quoted : name.quoted with
  | true =>
      obtain ⟨c, rest, rfl, ⟨_, mark⟩ | ⟨bare, _⟩⟩ := ColumnName.exists_eq_cons_of_read? nameRead
      · have noQuote : ∀ word ∈ [keyword.capital, keyword.small],
            ∃ d more, word.toList = d :: more ∧ d ≠ '"' ∧ d ≠ '\'' := by
          cases keyword <;> simp [Keyword.capital, Keyword.small]
        obtain ⟨d, more, letters, double, single⟩ := noQuote word isKeyword
        rw [letters] at front
        obtain ⟨rfl, _⟩ := List.cons.inj front
        exact absurd mark (not_or.mpr ⟨double, single⟩)
      · rw [quoted] at bare
        cases bare
  | false =>
      obtain ⟨written, whole, form⟩ := ColumnName.exists_eq_append_of_read? nameRead
      rw [ColumnName.Written, if_neg (by simp [quoted])] at form
      subst form
      -- Both end where the first blank of the line stands.
      have name_eq : text.dropWhile (!isBlank ·) = behindName := by
        rw [whole]
        refine dropWhile_run (fun c member => ?_) fun c head => by rw [nameEnds c head]; rfl
        rw [ColumnName.isBlank_eq_false_of_bare nameRead quoted c member]
        rfl
      have keyword_eq : text.dropWhile (!isBlank ·) = behind := by
        rw [front]
        refine dropWhile_run (fun c member => ?_) fun c head => by rw [keywordEnds c head]; rfl
        rw [Keyword.isBlank_eq_false_of_mem isKeyword member]
        rfl
      exact name_eq.symm.trans keyword_eq

/-- The head of what is left behind a run of blanks that is not empty is a blank. -/
theorem isBlank_head_of_afterRun? (blanks : Lexeme.afterRun? isBlank text = some rest) :
    ∀ c ∈ text.head?, isBlank c = true := by
  obtain ⟨run, rfl, nonempty, blank⟩ := Lexeme.exists_eq_append_of_afterRun? blanks
  rw [List.head?_append_of_ne_nil _ nonempty]
  exact fun c head => blank c (List.mem_of_mem_head? head)

/-- A column that reads as a reference has no settings. -/
theorem settings_eq_none_of_reference (read : read? text = some declared)
    (named : declared.name.quoted = true ∨ Lexeme.isIdentifier declared.name.text = true)
    (reference : ReferenceLine.read? text = some written) : declared.settings = none := by
  have noColon : Keyword.ref.precedes ':' text = false :=
    LineKind.precedes_column read named .ref (by decide)
  simp only [ReferenceLine.read?, Option.bind_eq_bind, Option.bind_eq_some_iff] at reference
  obtain ⟨behindKeyword, keyword, _, colon, _⟩ := reference
  have behind_colon := eq_append_of_after? colon
  rw [Keyword.precedes, keyword] at noColon
  dsimp only at noColon
  unfold ReferenceLine.readName at behind_colon
  cases blanks : Lexeme.afterRun? isBlank behindKeyword with
  | none =>
      -- The colon stands right behind the keyword.
      rw [blanks] at behind_colon
      dsimp only at behind_colon
      rw [behind_colon] at noColon
      cases noColon
  | some rest =>
      cases word : word? rest with
      | none =>
          -- The colon stands behind the keyword and blanks.
          simp only [blanks, word] at behind_colon
          rw [Lexeme.trimStart_of_afterRun? blanks, behind_colon] at noColon
          cases noColon
      | some parts =>
          -- The colon stands behind a name, which is the type of the column.
          obtain ⟨name, behindWord⟩ := parts
          simp only [blanks, word] at behind_colon
          simp only [read?, Option.bind_eq_bind, Option.bind_eq_some_iff] at read
          obtain ⟨⟨_, behindName⟩, nameRead, typeText, typeBlanks, behindType, typeRead, ended⟩ := read
          have same := behindName_eq nameRead keyword (isBlank_head_of_afterRun? typeBlanks)
            (isBlank_head_of_afterRun? blanks)
          rw [same, blanks] at typeBlanks
          obtain rfl := Option.some.inj typeBlanks
          have wordEnds := dropWhile_of_word? word
          have type_eq := Lexeme.afterType?_of_colon typeRead (by rw [wordEnds, behind_colon]; rfl)
          rw [type_eq, wordEnds, behind_colon] at ended
          cases ended
          rfl

end ColumnLine

end TableScript
