import TableScript.Proofs.Grammar.ColumnLine
import TableScript.Proofs.Grammar.Keyword
import TableScript.Read.Block

namespace TableScript

namespace LineKind

variable {text behind : List Char} {keyword : Keyword} {declared : ColumnLine}

/-- A line that begins with a keyword is no brace. -/
theorem isBrace_of_keyword (found : keyword.after? text = some behind) : isBrace text = false := by
  rcases Keyword.eq_append_of_after? found with rfl | rfl <;> cases keyword <;> rfl

theorem isBrace_of_columnName {name : ColumnName} (read : ColumnName.read? text = some (name, behind)) :
    isBrace text = false := by
  obtain ⟨c, rest, rfl, ⟨_, rfl | rfl⟩ | ⟨_, starts⟩⟩ := ColumnName.exists_eq_cons_of_read? read
  · rfl
  · rfl
  · have other : ∀ brace, ColumnName.startsBareName brace = false → (c == brace) = false := by
      rintro brace closed
      rw [beq_eq_false_iff_ne]
      rintro rfl
      rw [starts] at closed
      cases closed
    rw [isBrace, other '\x7b' (by decide), other '\x7d' (by decide)]
    rfl

/-- The keyword of tables in front of a word makes a line a header. -/
theorem classify_of_namesTable (named : Keyword.table.namesSomething text = true) :
    classify false text = .table := by
  cases found : Keyword.table.after? text with
  | none =>
      rw [Keyword.namesSomething_eq_false found] at named
      cases named
  | some behind =>
      have noIndexes := Keyword.precedes_eq_false
        (Keyword.after?_eq_none .indexes (by decide) found) '\x7b'
      simp only [classify, ofKeyword?, isBrace_of_keyword found, noIndexes, named,
        Bool.false_eq_true, if_false, if_true, Option.getD_some]

theorem classify_table {c : Char} (word : Text.isWord c = true) (rest : List Char) :
    classify false ("Table".toList ++ ' ' :: c :: rest) = .table := by
  refine classify_of_namesTable ?_
  have behind : Keyword.table.after? ("Table".toList ++ ' ' :: c :: rest) = some (' ' :: c :: rest) :=
    Keyword.after?_capital .table _
  have start : Text.trimStart (c :: rest) = c :: rest :=
    Text.trimStart_of_head (Text.isBlank_eq_false_of_isWord word)
  rw [Keyword.namesSomething_of_after? behind (by decide), start]
  exact word

/-- No keyword of the top level begins a note. -/
theorem ofKeyword?_ne_note (text : List Char) : ofKeyword? text ≠ some .note := by
  unfold ofKeyword?
  repeat' split
  all_goals exact nofun

theorem precedes_of_classify_note {inBody : Bool} (classified : classify inBody text = .note) :
    Keyword.note.precedes ':' text = true := by
  by_contra other
  have body : ofBody text ≠ .note := by
    rw [ofBody, if_neg other]
    split <;> decide
  have top : (ofKeyword? text).getD (ofBody text) ≠ .note := by
    cases found : ofKeyword? text with
    | none => exact body
    | some kind =>
        rintro rfl
        exact ofKeyword?_ne_note text found
  unfold classify at classified
  repeat' split at classified
  · cases classified
  · cases classified
  · exact body classified
  · exact top classified

theorem classify_top_of_indexes (classified : classify true text = .indexes) :
    classify false text = .indexes := by
  unfold classify ofBody at classified
  split at classified
  · cases classified
  · rename_i notBrace
    split at classified
    · rename_i begins
      rw [classify, if_neg notBrace, if_pos begins]
    · rw [if_pos rfl] at classified
      repeat' split at classified
      all_goals cases classified

theorem classify_of_opensBlock (opens : opensBlock text = true) :
    classify false text ∈ [table, enum, project, tableGroup] := by
  unfold opensBlock at opens
  cases kind : classify false text <;> simp [kind] at opens ⊢

theorem ne_brace_of_opensBlock (opens : opensBlock text = true) : classify false text ≠ .brace := by
  intro brace
  have header := classify_of_opensBlock opens
  rw [brace] at header
  exact absurd header (by decide)

/-- A word without blanks that stands at the start of a name is a part of it. -/
theorem exists_name_eq_append {word name rest : List Char} (noBlank : ∀ c ∈ word, Text.isBlank c = false)
    (blank : ∀ c ∈ behind.head?, Text.isBlank c = true) (front : name ++ behind = word ++ rest) :
    ∃ more, name = word ++ more ∧ rest = more ++ behind := by
  rcases List.append_eq_append_iff.mp front with ⟨more, rfl, behindWord⟩ | ⟨more, rfl, inWord⟩
  · cases more with
    | nil => exact ⟨[], by simp, by simpa using behindWord.symm⟩
    | cons c more =>
        have isBlank := blank c (by rw [behindWord]; rfl)
        rw [noBlank c (by simp)] at isBlank
        cases isBlank
  · exact ⟨more, rfl, inWord⟩

/-- A name without the mark is not taken for the keyword, if the mark does not follow it either. -/
theorem precedes_name {mark : Char} {name : List Char}
    (nameMark : ∀ c ∈ name, Text.isBlank c = false ∧ c ≠ mark)
    (blank : ∀ c ∈ behind.head?, Text.isBlank c = true)
    (behindMark : ∀ c ∈ (Text.trimStart behind).head?, c ≠ mark) :
    keyword.precedes mark (name ++ behind) = false := by
  unfold Keyword.precedes
  cases found : keyword.after? (name ++ behind) with
  | none => rfl
  | some rest =>
      have split : ∃ more, (∀ c ∈ more, c ∈ name) ∧ rest = more ++ behind := by
        have part : ∀ word ∈ [keyword.capital, keyword.small], name ++ behind = word.toList ++ rest →
            ∃ more, (∀ c ∈ more, c ∈ name) ∧ rest = more ++ behind := by
          intro word spelled front
          obtain ⟨more, rfl, same⟩ :=
            exists_name_eq_append (fun c member => Keyword.isBlank_eq_false_of_mem spelled member) blank front
          exact ⟨more, fun c member => List.mem_append_right _ member, same⟩
        exact (Keyword.eq_append_of_after? found).elim (part _ (by simp)) (part _ (by simp))
      obtain ⟨more, inName, rfl⟩ := split
      dsimp only
      cases more with
      | cons c more =>
          obtain ⟨plain, other⟩ := nameMark c (inName c List.mem_cons_self)
          rw [List.cons_append, Text.trimStart_of_head plain]
          simpa using other
      | nil =>
          rw [List.nil_append]
          cases start : Text.trimStart behind with
          | nil => rfl
          | cons c behind =>
              rw [start] at behindMark
              simpa using behindMark c rfl

/-- The name in front of a type is not taken for a keyword. -/
theorem precedes_column (read : ColumnLine.read? text = some declared)
    (named : declared.name.quoted = true ∨ Lexeme.isIdentifier declared.name.text = true)
    (keyword : Keyword) {mark : Char} (other : Lexeme.isIdentifierPart mark = false) :
    keyword.precedes mark text = false := by
  obtain ⟨behindName, behindType, _, nameRead, blanksRead, typed, _⟩ := ColumnLine.exists_parts read
  cases quoted : declared.name.quoted with
  | true =>
      obtain ⟨c, rest, rfl, ⟨_, quote⟩ | ⟨bare, _⟩⟩ := ColumnName.exists_eq_cons_of_read? nameRead
      · rw [Keyword.precedes]
        rcases quote with rfl | rfl <;> cases keyword <;> rfl
      · rw [quoted] at bare
        cases bare
  | false =>
      have identifier : Lexeme.isIdentifier declared.name.text = true := by simpa [quoted] using named
      have oneLine : '\n' ∉ declared.name.text := fun member =>
        absurd (ColumnName.isBlank_eq_false_of_bare nameRead quoted _ member) (by decide)
      have part : ∀ {c : Char}, Lexeme.isIdentifierPart c = true → Text.isBlank c = false ∧ c ≠ mark := by
        intro c part
        refine ⟨Text.isBlank_eq_false_of_isWord (Lexeme.isWord_of_isIdentifierPart part), ?_⟩
        rintro rfl
        rw [other] at part
        cases part
      obtain ⟨written, rfl, form⟩ := ColumnName.exists_eq_append_of_read? nameRead
      rw [ColumnName.Written, if_neg (by simp [quoted])] at form
      subst form
      obtain ⟨first, rest, type, start⟩ := typed.head
      refine precedes_name (fun c member => part (Lexeme.isIdentifierPart_of_mem identifier oneLine member))
        ?_ ?_
      · obtain ⟨blanks, rfl, nonempty, blank⟩ := Lexeme.exists_eq_append_of_afterRun? blanksRead
        rw [List.head?_append_of_ne_nil _ nonempty]
        exact fun c member => blank c (List.mem_of_mem_head? member)
      · rw [Lexeme.trimStart_of_afterRun? blanksRead, type]
        intro c member
        cases member
        exact (part (Lexeme.isIdentifierPart_of_isIdentifierStart start)).2

/-- A line that declares a column is one in every body, even where its name is spelled like a keyword. -/
theorem classify_column (read : ColumnLine.read? text = some declared)
    (named : declared.name.quoted = true ∨ Lexeme.isIdentifier declared.name.text = true) :
    classify true text = .columnLike := by
  obtain ⟨behindName, behindType, _, nameRead, blanksRead, typed, _⟩ := ColumnLine.exists_parts read
  have resembles : ColumnLine.resembles text = true := by
    obtain ⟨first, rest, type, _⟩ := typed.head
    rw [type] at blanksRead
    simp [ColumnLine.resembles, nameRead, blanksRead]
  have noIndexes : Keyword.indexes.precedes '\x7b' text = false :=
    precedes_column read named .indexes (by decide)
  have noNote : Keyword.note.precedes ':' text = false :=
    precedes_column read named .note (by decide)
  simp [classify, ofBody, isBrace_of_columnName nameRead, noIndexes, noNote, resembles]

theorem opensBlock_column (read : ColumnLine.read? text = some declared)
    (nothing : Text.allBlank declared.rest = true) : opensBlock text = false := by
  rw [opensBlock, Bool.and_eq_false_iff]
  refine .inl (beq_eq_false_iff_ne.mpr fun brace => ?_)
  exact ColumnLine.last_ne_brace read nothing _ brace rfl

end LineKind

namespace SourceLine

variable {line : SourceLine} {inBody : Bool}

theorem isOpening_eq_false (other : LineKind.classify inBody line.text.toList ≠ .brace) :
    line.isOpening = false := by
  rw [isOpening, beq_eq_false_iff_ne]
  intro opening
  rw [opening] at other
  exact other rfl

theorem isClosing_eq_false (other : LineKind.classify inBody line.text.toList ≠ .brace) :
    line.isClosing = false := by
  rw [isClosing, beq_eq_false_iff_ne]
  intro closing
  rw [closing] at other
  exact other rfl

end SourceLine

theorem Body.ofLines_column {line : SourceLine} (other : line.isClosing = false)
    (plain : LineKind.opensBlock line.text.toList = false)
    (column : LineKind.classify true line.text.toList = .columnLike) (after : List SourceLine) :
    ofLines (line :: after) = (ofLines after).cons (.column line) := by
  rw [ofLines, if_neg (Bool.eq_false_iff.mp other), if_neg (Bool.eq_false_iff.mp plain), column]

end TableScript
