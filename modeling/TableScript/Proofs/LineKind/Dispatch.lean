import TableScript.Proofs.Grammar.TableHeader
import TableScript.Proofs.LineKind
import TableScript.Read.Table

/-! Lines reach what reads them. The kind of a line is told by its beginning alone, the grammars are
read later, and a line that one of them accepts is never given away to another. There is one gap: a name
that begins with a dot is a plain name for the header of a table, but no line with it is a header. -/

namespace TableScript.LineKind

variable {text behind : List Char} {header : TableHeader} {declared : ReferenceLine}

/-- Behind the keyword of a reference stands its colon, or a blank in front of its name or its colon. -/
theorem startsReference_of_read? (read : ReferenceLine.read? text = some declared) :
    ofKeyword?.startsReference text = true := by
  simp only [ReferenceLine.read?, Option.bind_eq_bind, Option.bind_eq_some_iff] at read
  obtain ⟨behindKeyword, found, behindColon, colon, _⟩ := read
  rw [ofKeyword?.startsReference, found]
  cases behindKeyword with
  | nil => cases colon
  | cons c rest =>
      dsimp only
      cases blank : Text.isBlank c with
      | true => rfl
      | false =>
          have unnamed : ReferenceLine.readName (c :: rest) = (none, c :: rest) := by
            simp [ReferenceLine.readName, Lexeme.afterRun?, blank]
          rw [unnamed] at colon
          obtain rfl : c = ':' := by
            have front := Text.eq_append_of_after? colon
            exact (List.cons.inj front).1
          rfl

theorem classify_reference (read : ReferenceLine.read? text = some declared) :
    classify false text = .ref := by
  have starts := startsReference_of_read? read
  cases found : Keyword.ref.after? text with
  | none =>
      rw [ofKeyword?.startsReference, found] at starts
      cases starts
  | some behind =>
      have noIndexes := Keyword.precedes_eq_false
        (Keyword.after?_eq_none .indexes (by decide) found) '\x7b'
      have noTable := Keyword.namesSomething_eq_false
        (Keyword.after?_eq_none .table (by decide) found)
      simp only [classify, ofKeyword?, isBrace_of_keyword found, noIndexes, noTable, starts,
        Bool.false_eq_true, if_false, if_true, Option.getD_some]

section Spaced

variable {blank : Char} {rest : List Char}

/-- The keyword of groups goes on where that of tables has ended. -/
theorem after?_tableGroup_eq_none (found : Keyword.table.after? text = some (blank :: rest))
    (isBlank : Text.isBlank blank = true) : Keyword.tableGroup.after? text = none := by
  have other : ∀ c, Text.isBlank c = false → ¬c = blank := by
    rintro c plain rfl
    rw [plain] at isBlank
    cases isBlank
  rcases Keyword.eq_append_of_after? found with rfl | rfl
  · simp [Keyword.after?, Keyword.capital, Keyword.small, Text.after?, other 'G' (by decide)]
  · simp [Keyword.after?, Keyword.capital, Keyword.small, Text.after?, other 'g' (by decide)]

/-- The keyword itself may be the name of a column, if something follows. -/
theorem resembles_of_keyword (found : Keyword.table.after? text = some (blank :: rest))
    (isBlank : Text.isBlank blank = true) (left : Text.trimStart rest ≠ []) :
    ColumnLine.resembles text = true := by
  have spaced : Lexeme.afterRun? Text.isBlank (blank :: rest) = some (Text.trimStart rest) := by
    rw [Lexeme.afterRun?, if_pos isBlank, Text.trimStart]
  have named : ∀ word : List Char, ColumnName.IsBare word → text = word ++ blank :: rest →
      ColumnLine.resembles text = true := by
    rintro word bare rfl
    have read : ColumnName.read? (word ++ blank :: rest) = some (⟨word, false⟩, blank :: rest) :=
      ColumnName.read?_written rfl (fun _ => bare) (by rintro c ⟨⟩; exact isBlank)
    obtain ⟨c, behind, start⟩ := List.exists_cons_of_ne_nil left
    rw [ColumnLine.resembles, read]
    simp only [spaced, start]
  have goesOn : ∀ c ∈ "able".toList, ColumnName.continuesBareName c = true :=
    List.all_eq_true.mp (by decide)
  rcases Keyword.eq_append_of_after? found with front | front
  · exact named _ ⟨'T', "able".toList, rfl, by decide, by decide, by decide, goesOn⟩ front
  · exact named _ ⟨'t', "able".toList, rfl, by decide, by decide, by decide, goesOn⟩ front

/-- A dot is no beginning of a word, so a name that starts with one makes no header. What is left is a
column by the name of the keyword. -/
theorem classify_dottedHeader (found : Keyword.table.after? text = some (blank :: rest))
    (isBlank : Text.isBlank blank = true) (dot : (Text.trimStart rest).head? = some '.') :
    classify false text = .columnLike := by
  have noTable : Keyword.table.namesSomething text = false := by
    rw [Keyword.namesSomething_of_after? found isBlank, dot]
    decide
  have missing : ∀ keyword : Keyword, keyword.differs .table = true → keyword.after? text = none :=
    fun keyword differ => Keyword.after?_eq_none keyword differ found
  have noReference : ofKeyword?.startsReference text = false := by
    rw [ofKeyword?.startsReference, missing .ref (by decide)]
  have resembles : ColumnLine.resembles text = true := by
    refine resembles_of_keyword found isBlank fun nothing => ?_
    rw [nothing] at dot
    cases dot
  simp [classify, ofKeyword?, ofBody, isBrace_of_keyword found, noTable, noReference, resembles,
    Keyword.namesSomething_eq_false (after?_tableGroup_eq_none found isBlank),
    Keyword.namesSomething_eq_false (missing .enum (by decide)),
    Keyword.namesSomething_eq_false (missing .project (by decide)),
    Keyword.precedes_eq_false (missing .indexes (by decide)),
    Keyword.precedes_eq_false (missing .note (by decide))]

end Spaced

theorem classify_header (read : TableHeader.read? text = some header)
    (table : Lexeme.isIdentifier header.nameParts.2 = true)
    (schema : ∀ schema ∈ header.nameParts.1, Lexeme.isIdentifier schema = true) :
    classify false text = if header.name.head? = some '.' then .columnLike else .table := by
  obtain ⟨blank, rest, behind, found, isBlank, start⟩ := TableHeader.exists_after?_eq_blank_cons read
  by_cases dot : header.name.head? = some '.'
  · rw [if_pos dot]
    refine classify_dottedHeader found isBlank ?_
    rw [start, List.head?_append, dot]
    rfl
  · rw [if_neg dot]
    obtain ⟨c, more, name, letter⟩ := TableHeader.exists_start_of_nameParts table schema dot
    refine classify_of_namesTable ?_
    rw [Keyword.namesSomething_of_after? found isBlank, start, name]
    exact Lexeme.isWord_of_isIdentifierStart letter

/-- In a body the line is kept as a column and is not the end of the body. -/
theorem ofLines_columnLine {declared : ColumnLine} {line : SourceLine}
    (read : ColumnLine.read? line.text.toList = some declared)
    (named : declared.name.quoted = true ∨ Lexeme.isIdentifier declared.name.text = true)
    (nothing : Text.allBlank declared.rest = true) (following : List SourceLine) :
    Body.ofLines (line :: following) = (Body.ofLines following).cons (.column line) := by
  have kind := classify_column read named
  have notClosing : line.isClosing = false := SourceLine.isClosing_eq_false (by rw [kind]; decide)
  exact Body.ofLines_column notClosing (opensBlock_column read nothing) kind following

/-- What the grammars accept has its kind: references; headers with a plain name, unless it begins with
a dot; columns with a plain or a quoted name and nothing behind, which a body keeps. And every line
that counts as a note is read as one. -/
theorem classify_accepted (text : List Char) :
    (∀ declared, ReferenceLine.read? text = some declared → classify false text = .ref) ∧
    (∀ header, TableHeader.read? text = some header →
      Lexeme.isIdentifier header.nameParts.2 = true →
      (∀ schema ∈ header.nameParts.1, Lexeme.isIdentifier schema = true) →
      classify false text = if header.name.head? = some '.' then .columnLike else .table) ∧
    (∀ declared, ColumnLine.read? text = some declared →
      declared.name.quoted = true ∨ Lexeme.isIdentifier declared.name.text = true →
      Text.allBlank declared.rest = true →
      classify true text = .columnLike ∧ opensBlock text = false ∧ isBrace text = false ∧
      ∀ (line : SourceLine) (following : List SourceLine), line.text.toList = text →
        Body.ofLines (line :: following) = (Body.ofLines following).cons (.column line)) ∧
    ∀ inBody, classify inBody text = .note → (noteText? text).isSome = true := by
  refine ⟨fun _ => classify_reference, fun _ => classify_header, ?_,
    fun _ classified => noteText?_isSome (precedes_of_classify_note classified)⟩
  intro declared read named nothing
  obtain ⟨_, _, _, nameRead, _⟩ := ColumnLine.exists_parts read
  refine ⟨classify_column read named, opensBlock_column read nothing, isBrace_of_columnName nameRead, ?_⟩
  rintro line following rfl
  exact ofLines_columnLine read named nothing following

/-- A column by the name of a keyword, and lines that are what their keyword says. -/
theorem classify_accepted_keywords :
    classify false "Ref: a.id > b.id".toList = .ref ∧
    classify false "Table shop.users \x7b".toList = .table ∧
    (classify true "indexes text [pk]".toList = .columnLike ∧
      opensBlock "indexes text [pk]".toList = false) ∧
    (noteText? "Note: all".toList).isSome = true := by
  refine ⟨(classify_accepted _).1 ⟨none, ⟨none, "a", "id"⟩, 5, .oneToMany, ⟨none, "b", "id"⟩, 12, none⟩
      (by decide +kernel),
    ((classify_accepted _).2.1 ⟨"shop.users".toList, 6, none, true⟩ (by decide +kernel)
      (by decide +kernel) (by decide +kernel)).trans (by decide +kernel), ?_,
    (classify_accepted _).2.2.2 true (by decide +kernel)⟩
  have column := (classify_accepted "indexes text [pk]".toList).2.2.1
    ⟨⟨"indexes".toList, false⟩, "text".toList, some "pk".toList, [], 17⟩
    (by decide +kernel) (by decide +kernel) (by decide +kernel)
  exact ⟨column.1, column.2.1⟩

/-- A header whose name the table would take, but which is no header by its kind. -/
theorem classify_dottedName :
    ∃ header, TableHeader.read? "Table .users \x7b".toList = some header ∧
      Lexeme.isIdentifier header.nameParts.2 = true ∧
      (∀ schema ∈ header.nameParts.1, Lexeme.isIdentifier schema = true) ∧
      header.nameProblems .empty = [] ∧ classify false "Table .users \x7b".toList ≠ .table :=
  ⟨⟨".users".toList, 6, none, true⟩, by decide +kernel, by decide +kernel, by decide +kernel,
    by decide +kernel, by decide +kernel⟩

end TableScript.LineKind
