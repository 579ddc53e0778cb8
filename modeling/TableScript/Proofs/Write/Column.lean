import TableScript.Proofs.LineKind
import TableScript.Proofs.Model.WellFormed
import TableScript.Proofs.Read.Column
import TableScript.Proofs.SourceLine
import TableScript.Write.Table

namespace TableScript

open Text

/-- A column that can be written: one kind of quotes does for its name, and its type is one. -/
structure Column.Writable (column : Column) : Prop where
  named : column.name ≠ ""
  nameOneLine : '\n' ∉ column.name.toList
  quotable : ¬('\'' ∈ column.name.toList ∧ '"' ∈ column.name.toList)
  typed : Lexeme.IsColumnType column.type.toList
  typeOneLine : '\n' ∉ column.type.toList

theorem IsPlainName.exists_parts {name : String} (plain : IsPlainName name) :
    ∃ c rest, name.toList = c :: rest ∧ Lexeme.isIdentifierStart c = true ∧
      ∀ d ∈ rest, Lexeme.isIdentifierPart d = true :=
  Lexeme.exists_of_isIdentifier plain.1 plain.2

theorem IsPlainName.isIdentifierPart {name : String} (plain : IsPlainName name) :
    ∀ c ∈ name.toList, Lexeme.isIdentifierPart c = true :=
  fun _ member => Lexeme.isIdentifierPart_of_mem plain.1 plain.2 member

theorem Column.WellFormed.writable {column : Column} (form : column.WellFormed) :
    column.Writable := by
  cases quoted : column.quotedName with
  | true =>
      obtain ⟨named, oneLine, quotable⟩ := form.quoted quoted
      exact ⟨named, oneLine, quotable, form.typed, form.typeOneLine⟩
  | false =>
      have plain := form.bare quoted
      refine ⟨?_, plain.2, ?_, form.typed, form.typeOneLine⟩
      · intro empty
        obtain ⟨c, rest, characters, _⟩ := plain.exists_parts
        simp [empty] at characters
      · intro found
        obtain ⟨single, _⟩ := found
        exact absurd (plain.isIdentifierPart '\'' single) (by decide)

namespace Column

/-- The name is written without quotes. -/
def isBare (column : Column) : Bool :=
  !column.quotedName && Lexeme.isIdentifier column.name.toList

def nameText (column : Column) : String :=
  if column.isBare then column.name
  else if !column.name.toList.contains '"' then "\"" ++ column.name ++ "\""
  else "'" ++ column.name ++ "'"

def nameRead (column : Column) : ColumnName :=
  ⟨column.name.toList, !column.isBare⟩

variable {column : Column} {layout : Layout} {references : List Reference}

theorem columnName_eq (writable : column.Writable) :
    Write.columnName column = .ok column.nameText := by
  unfold Write.columnName nameText isBare
  dsimp only
  split
  · rfl
  · split
    · rfl
    · rename_i double
      have noSingle : (!column.name.toList.contains '\'') = true := by
        have doubleIn : '"' ∈ column.name.toList := by simpa using double
        simpa using fun single => writable.quotable ⟨single, doubleIn⟩
      rw [if_pos noSingle]

theorem written_nameText (writable : column.Writable) :
    column.nameRead.Written column.nameText.toList := by
  unfold ColumnName.Written nameRead nameText
  have nonempty : column.name.toList ≠ [] := fun empty => writable.named (String.toList_eq_nil_iff.mp empty)
  cases bare : column.isBare with
  | true => simp
  | false =>
      rw [if_pos (by simp), if_neg (by simp)]
      by_cases double : '"' ∈ column.name.toList
      · have noSingle : '\'' ∉ column.name.toList := fun single => writable.quotable ⟨single, double⟩
        exact ⟨'\'', .inr rfl, noSingle, nonempty, by simp [double]⟩
      · exact ⟨'"', .inl rfl, double, nonempty, by simp [double]⟩

end Column

/-- What stands in the brackets behind a column or a table; nothing where there are no brackets. -/
def settingsContent (settings : List String) : Option (List Char) :=
  if settings.isEmpty then none else some (Text.join ", " settings).toList

theorem getD_settingsContent (settings : List String) :
    (settingsContent settings).getD [] = (join ", " settings).toList := by
  cases settings <;> rfl

theorem Write.toList_bracketed (settings : List String) :
    (Write.bracketed settings).toList = bracketedText (settingsContent settings) := by
  unfold Write.bracketed settingsContent
  split <;> simp [bracketedText]

namespace Column

variable {column : Column} {layout : Layout} {references : List Reference}

def text (column : Column) (layout : Layout) (references : List Reference) : String :=
  column.nameText ++ " " ++ column.type ++
    Write.bracketed (Write.columnSettings layout column references)

theorem toList_text (column : Column) (layout : Layout) (references : List Reference) :
    (column.text layout references).toList =
    column.nameText.toList ++ ' ' :: (column.type.toList ++
      bracketedText (settingsContent (Write.columnSettings layout column references))) := by
  simp [text, Write.toList_bracketed]

theorem columnLine_eq (writable : column.Writable) :
    Write.columnLine layout column references = .ok (column.text layout references) := by
  have typed := (Lexeme.isColumnType_iff writable.typeOneLine).mpr writable.typed
  rw [Write.columnLine, if_pos typed, columnName_eq writable]
  rfl

def lineRead (column : Column) (layout : Layout) (references : List Reference) : ColumnLine where
  name := column.nameRead
  type := column.type.toList
  settings := settingsContent (Write.columnSettings layout column references)
  rest := []
  restOffset := (column.text layout references).toList.length

theorem isBareName (writable : column.Writable) (bare : column.nameRead.quoted = false) :
    ColumnName.IsBare column.nameRead.text := by
  have identifier : Lexeme.isIdentifier column.name.toList = true := by
    simp only [nameRead, isBare, Bool.not_eq_false', Bool.and_eq_true] at bare
    exact bare.2
  obtain ⟨c, rest, characters, start, parts⟩ :=
    Lexeme.exists_of_isIdentifier identifier writable.nameOneLine
  have plain : ∀ {d : Char} {marks : List Char}, Lexeme.isIdentifierPart d = true →
      (marks.all fun mark => !Lexeme.isIdentifierPart mark) = true →
      (!isBlank d && !marks.contains d) = true := by
    intro d marks part others
    have notBlank : isBlank d = false :=
      isBlank_eq_false_of_isWord (Lexeme.isWord_of_isIdentifierPart part)
    have absent : d ∉ marks := by
      intro member
      have other := List.all_eq_true.mp others d member
      rw [part] at other
      cases other
    simp [notBlank, absent]
  refine ⟨c, rest, characters, ?_, ?_, ?_, ?_⟩
  · intro same
    subst same
    exact absurd start (by decide)
  · intro same
    subst same
    exact absurd start (by decide)
  · exact plain (Lexeme.isIdentifierPart_of_isIdentifierStart start) (by decide)
  · exact fun d member => plain (parts d member) (by decide)

theorem read?_text (writable : column.Writable) :
    ColumnLine.read? (column.text layout references).toList =
      some (column.lineRead layout references) := by
  have read := ColumnLine.read?_written
    (settingsContent (Write.columnSettings layout column references))
    (written_nameText writable) (isBareName writable) writable.typed
  rw [← toList_text] at read
  exact read

theorem named_lineRead : (column.lineRead layout references).name.quoted = true ∨
    Lexeme.isIdentifier (column.lineRead layout references).name.text = true := by
  cases bare : column.isBare with
  | false => exact .inl (by simp [lineRead, nameRead, bare])
  | true =>
      simp only [isBare, Bool.and_eq_true] at bare
      exact .inr bare.2

theorem isAccepted_lineRead : (column.lineRead layout references).isAccepted = true := by
  rw [ColumnLine.isAccepted, Bool.and_eq_true, Bool.or_eq_true]
  exact ⟨by simp [lineRead, trim, trimStart, trimEnd], named_lineRead⟩

theorem exists_nameText_eq_cons (writable : column.Writable) :
    ∃ c rest, column.nameText.toList = c :: rest ∧
      (c = '"' ∨ c = '\'' ∨ column.isBare = true ∧ Lexeme.isIdentifierStart c = true) := by
  unfold nameText
  cases bare : column.isBare with
  | true =>
      have identifier : Lexeme.isIdentifier column.name.toList = true := by
        simp only [isBare, Bool.and_eq_true] at bare
        exact bare.2
      obtain ⟨c, rest, characters, start, _⟩ :=
        Lexeme.exists_of_isIdentifier identifier writable.nameOneLine
      exact ⟨c, rest, characters, .inr (.inr ⟨rfl, start⟩)⟩
  | false =>
      rw [if_neg (by simp)]
      split
      · exact ⟨'"', column.name.toList ++ ['"'], by simp, .inl rfl⟩
      · exact ⟨'\'', column.name.toList ++ ['\''], by simp, .inr (.inl rfl)⟩

/-- The line ends in a bracket or in its type. -/
theorem last_text (writable : column.Writable) :
    ∀ c ∈ (column.text layout references).toList.getLast?, isBlank c = false := by
  have nonempty : column.type.toList ++ bracketedText
      (settingsContent (Write.columnSettings layout column references)) ≠ [] := by
    simp [writable.typed.ne_nil]
  rw [toList_text, ← List.singleton_append, ← List.append_assoc, List.getLast?_append_of_ne_nil _ nonempty]
  exact forall_mem_getLast?_bracketedText _ (by decide) writable.typed.isTrimmed.2

theorem isTrimmed_text (writable : column.Writable) :
    IsTrimmed (column.text layout references).toList := by
  refine ⟨?_, last_text writable⟩
  obtain ⟨c, rest, characters, first⟩ := exists_nameText_eq_cons writable
  rw [toList_text, characters]
  intro c member
  cases member
  rcases first with rfl | rfl | ⟨_, start⟩
  · decide
  · decide
  · exact Lexeme.isBlank_eq_false_of_isIdentifierStart start

theorem isComment_text (writable : column.Writable) :
    SourceLine.isComment (column.text layout references).toList = false := by
  obtain ⟨c, rest, characters, first⟩ := exists_nameText_eq_cons writable
  have noSlash : ¬ '/' = c := by
    intro same
    subst same
    rcases first with other | other | ⟨_, start⟩
    · cases other
    · cases other
    · exact absurd start (by decide)
  simp [toList_text, characters, SourceLine.isComment, after?, noSlash]

theorem classify_text (writable : column.Writable) :
    LineKind.classify true (column.text layout references).toList = .columnLike :=
  LineKind.classify_column (read?_text writable) named_lineRead

theorem opensBlock_text (writable : column.Writable) :
    LineKind.opensBlock (column.text layout references).toList = false :=
  LineKind.opensBlock_column (read?_text writable) rfl

end Column

end TableScript
