import TableScript.Proofs.Text.Pieces
import TableScript.Lexeme

namespace TableScript.Lexeme

open Text

variable {text rest : List Char} {inClass : Char → Bool}

theorem exists_eq_append_of_afterRun? (read : afterRun? inClass text = some rest) :
    ∃ run, text = run ++ rest ∧ run ≠ [] ∧ ∀ c ∈ run, inClass c = true := by
  cases text with
  | nil => cases read
  | cons c behind =>
      rw [afterRun?] at read
      split at read
      · rename_i first
        cases read
        refine ⟨c :: behind.takeWhile inClass, ?_, by simp, ?_⟩
        · rw [List.cons_append, List.takeWhile_append_dropWhile]
        · intro d member
          rcases List.mem_cons.mp member with rfl | later
          · exact first
          · exact List.mem_takeWhile_imp later
      · cases read

theorem afterRun?_append {run : List Char} (nonempty : run ≠ []) (inside : ∀ c ∈ run, inClass c = true)
    (ends : ∀ c ∈ rest.head?, inClass c = false) :
    afterRun? inClass (run ++ rest) = .some rest := by
  obtain ⟨c, run, rfl⟩ := List.exists_cons_of_ne_nil nonempty
  rw [List.cons_append, afterRun?, if_pos (inside c List.mem_cons_self),
    dropWhile_run (fun d member => inside d (List.mem_cons_of_mem c member)) ends]

theorem afterRun?_append_of_left (read : afterRun? inClass text = some rest) (left : rest ≠ [])
    (tail : List Char) : afterRun? inClass (text ++ tail) = some (rest ++ tail) := by
  cases text with
  | nil => cases read
  | cons c text =>
      rw [afterRun?] at read
      split at read
      · rename_i inside
        cases read
        rw [List.cons_append, afterRun?, if_pos inside, dropWhile_append_of_left left]
      · cases read

theorem afterRun?_space (ends : ∀ c ∈ rest.head?, isBlank c = false) :
    afterRun? isBlank (' ' :: rest) = some rest :=
  afterRun?_append (List.cons_ne_nil ' ' []) (List.forall_mem_singleton.mpr (by decide)) ends

theorem trimStart_of_afterRun? (read : afterRun? isBlank text = some rest) : trimStart text = rest := by
  cases text with
  | nil => cases read
  | cons c text =>
      rw [afterRun?] at read
      split at read
      · rename_i blank
        cases read
        rw [trimStart, List.dropWhile_cons_of_pos blank]
      · cases read

theorem eq_nil_of_atEnd (ended : atEnd text = true) (oneLine : '\n' ∉ text) : text = [] := by
  rcases Bool.or_eq_true_iff.mp ended with nothing | lineFeed
  · exact beq_iff_eq.mp nothing
  · exact absurd (by simp [beq_iff_eq.mp lineFeed]) oneLine

/-- The arguments of a type, if it has any: in parentheses, up to the first closing one. -/
def IsArguments (text : List Char) : Prop :=
  text = [] ∨ ∃ inner, ')' ∉ inner ∧ text = '(' :: inner ++ [')']

/-- A column type: a dotted name, then perhaps arguments, then perhaps a pair of brackets. -/
def IsColumnType (text : List Char) : Prop :=
  ∃ first name arguments array, text = first :: name ++ arguments ++ array ∧
    isIdentifierStart first = true ∧ (∀ c ∈ name, isTypePart c = true) ∧ IsArguments arguments ∧
    (array = [] ∨ array = ['[', ']'])

theorem exists_eq_append_afterArguments (text : List Char) :
    ∃ arguments, text = arguments ++ afterArguments text ∧ IsArguments arguments := by
  unfold afterArguments
  split
  · rename_i inner
    have cut := List.takeWhile_append_dropWhile (p := (· != ')')) (l := inner)
    split
    · rename_i c behind found
      have closing : c = ')' := by
        have head := List.head?_dropWhile_not (· != ')') inner
        rw [found] at head
        simpa using head
      refine ⟨'(' :: inner.takeWhile (· != ')') ++ [')'], ?_, .inr ⟨_, ?_, rfl⟩⟩
      · rw [found, closing] at cut
        simpa using cut.symm
      · intro member
        simpa using List.mem_takeWhile_imp member
    · exact ⟨[], rfl, .inl rfl⟩
  · exact ⟨[], rfl, .inl rfl⟩

theorem exists_eq_append_afterArrayMark (text : List Char) :
    ∃ array, text = array ++ afterArrayMark text ∧ (array = [] ∨ array = ['[', ']']) := by
  unfold afterArrayMark
  split
  · exact ⟨['[', ']'], rfl, .inr rfl⟩
  · exact ⟨[], rfl, .inl rfl⟩

theorem exists_type_of_afterType? (read : afterType? text = some rest) :
    ∃ type, text = type ++ rest ∧ IsColumnType type := by
  cases text with
  | nil => cases read
  | cons first behind =>
      simp only [afterType?] at read
      split at read
      · rename_i start
        have cut := List.takeWhile_append_dropWhile (p := isTypePart) (l := behind)
        obtain ⟨arguments, argumentsCut, bracketed⟩ :=
          exists_eq_append_afterArguments (behind.dropWhile isTypePart)
        obtain ⟨array, arrayCut, marked⟩ :=
          exists_eq_append_afterArrayMark (afterArguments (behind.dropWhile isTypePart))
        have parts : ∀ c ∈ behind.takeWhile isTypePart, isTypePart c = true :=
          fun c member => List.mem_takeWhile_imp member
        refine ⟨first :: behind.takeWhile isTypePart ++ arguments ++ array, ?_,
          first, _, arguments, array, rfl, start, parts, bracketed, marked⟩
        have last : rest = afterArrayMark (afterArguments (behind.dropWhile isTypePart)) :=
          (Option.some.inj read).symm
        calc first :: behind
            = first :: (behind.takeWhile isTypePart ++ behind.dropWhile isTypePart) := by rw [cut]
          _ = first :: (behind.takeWhile isTypePart ++ (arguments ++ (array ++ rest))) := by
              rw [last, ← arrayCut, ← argumentsCut]
          _ = first :: behind.takeWhile isTypePart ++ arguments ++ array ++ rest := by simp
      · cases read

/-- Nothing that could go on with a type. -/
def EndsType (text : List Char) : Prop :=
  ∀ c ∈ text.head?, isTypePart c = false ∧ c ≠ '(' ∧ c ≠ '['

theorem afterArguments_append {inner : List Char} (inside : ')' ∉ inner) (rest : List Char) :
    afterArguments ('(' :: inner ++ ')' :: rest) = rest := by
  have passed : (inner ++ ')' :: rest).dropWhile (· != ')') = ')' :: rest := by
    refine dropWhile_run (fun c member => ?_) (by simp)
    have other : c ≠ ')' := fun same => inside (by rwa [same] at member)
    simpa using other
  simp [afterArguments, passed]

theorem afterArguments_of_head (head : ∀ c ∈ text.head?, c ≠ '(') : afterArguments text = text := by
  cases text with
  | nil => rfl
  | cons c behind =>
      have other : c ≠ '(' := head c rfl
      unfold afterArguments
      split
      · rename_i same
        exact absurd (List.cons.inj same).1 other
      · rfl

theorem afterArrayMark_of_head (head : ∀ c ∈ text.head?, c ≠ '[') : afterArrayMark text = text := by
  unfold afterArrayMark
  split
  · exact absurd rfl (head '[' rfl)
  · rfl

theorem afterType?_append {type : List Char} (grammatical : IsColumnType type)
    (ends : EndsType rest) : afterType? (type ++ rest) = some rest := by
  obtain ⟨first, name, arguments, array, rfl, start, parts, bracketed, marked⟩ := grammatical
  have array_read : afterArrayMark (array ++ rest) = rest := by
    rcases marked with rfl | rfl
    · exact afterArrayMark_of_head fun c member => (ends c member).2.2
    · rfl
  -- What follows the name begins with a bracket, a parenthesis or the rest.
  have plain : ∀ c ∈ (arguments ++ (array ++ rest)).head?, isTypePart c = false := by
    rcases bracketed with rfl | ⟨inner, inside, rfl⟩
    · rcases marked with rfl | rfl
      · exact fun c member => (ends c member).1
      · intro c member
        cases member
        decide
    · intro c member
      cases member
      decide
  have arguments_read : afterArguments (arguments ++ (array ++ rest)) = array ++ rest := by
    rcases bracketed with rfl | ⟨inner, inside, rfl⟩
    · refine afterArguments_of_head fun c member => ?_
      rcases marked with rfl | rfl
      · exact (ends c member).2.1
      · cases member
        decide
    · simpa using afterArguments_append inside (array ++ rest)
  have name_read : (name ++ (arguments ++ (array ++ rest))).dropWhile isTypePart =
      arguments ++ (array ++ rest) :=
    dropWhile_run parts plain
  simp only [List.append_assoc, List.cons_append, afterType?, start, if_true, name_read,
    arguments_read, array_read]

theorem afterArguments_append_of_left (closed : ∀ c ∈ (afterArguments text).head?, c ≠ '(')
    (nonempty : text ≠ []) (tail : List Char) :
    afterArguments (text ++ tail) = afterArguments text ++ tail := by
  unfold afterArguments at closed ⊢
  split at closed
  · rename_i inner
    split at closed
    · rename_i mark behind found
      have left : inner.dropWhile (· != ')') ≠ [] := by simp [found]
      simp only [List.cons_append, dropWhile_append_of_left left, found]
    · exact absurd rfl (closed '(' rfl)
  · rename_i other
    obtain ⟨c, rest, rfl⟩ := List.exists_cons_of_ne_nil nonempty
    have plain : c ≠ '(' := fun same => other rest (by rw [same])
    split
    · rename_i same
      exact absurd (List.cons.inj same).1 plain
    · rfl

theorem afterArrayMark_of_ne {c d : Char} (other : ¬(c = '[' ∧ d = ']')) (rest : List Char) :
    afterArrayMark (c :: d :: rest) = c :: d :: rest := by
  unfold afterArrayMark
  split
  · rename_i same
    cases same
    exact absurd ⟨rfl, rfl⟩ other
  · rfl

theorem afterArrayMark_append_of_left {tail : List Char} (absent : ∀ c ∈ tail.head?, c ≠ ']')
    (nonempty : text ≠ []) : afterArrayMark (text ++ tail) = afterArrayMark text ++ tail := by
  obtain ⟨c, rest, rfl⟩ := List.exists_cons_of_ne_nil nonempty
  cases rest with
  | cons d rest =>
      by_cases mark : c = '[' ∧ d = ']'
      · obtain ⟨rfl, rfl⟩ := mark
        rfl
      · rw [afterArrayMark_of_ne mark, List.cons_append, List.cons_append, afterArrayMark_of_ne mark]
  | nil =>
      have alone : afterArrayMark [c] = [c] := by
        unfold afterArrayMark
        split
        · rename_i same
          cases same
        · rfl
      cases tail with
      | nil => rw [List.append_nil, List.append_nil]
      | cons d rest =>
          have other : ¬(c = '[' ∧ d = ']') := fun same => absent d rfl same.2
          rw [alone]
          exact afterArrayMark_of_ne other rest

/-- A type in front of a bracket is read in the same way whatever stands behind. -/
theorem afterType?_append_of_left {behind tail : List Char} (read : afterType? text = some behind)
    (bracket : (trimStart behind).head? = some '[') (absent : ∀ c ∈ tail.head?, c ≠ ']') :
    afterType? (text ++ tail) = some (behind ++ tail) := by
  cases text with
  | nil => cases read
  | cons c text =>
      rw [afterType?] at read
      split at read
      · rename_i start
        cases read
        have left : text.dropWhile isTypePart ≠ [] := by
          intro nothing
          rw [nothing] at bracket
          cases bracket
        have closed : ∀ c ∈ (afterArguments (text.dropWhile isTypePart)).head?, c ≠ '(' := by
          rintro c head rfl
          obtain ⟨rest, opened⟩ := List.head?_eq_some_iff.mp head
          have kept : afterArrayMark ('(' :: rest) = '(' :: rest :=
            afterArrayMark_of_head fun c member => by cases member; decide
          rw [opened, kept, trimStart_of_head (by decide)] at bracket
          cases bracket
        have behindArguments : afterArguments (text.dropWhile isTypePart) ≠ [] := by
          intro nothing
          rw [nothing] at bracket
          cases bracket
        rw [List.cons_append, afterType?, if_pos start, dropWhile_append_of_left left,
          afterArguments_append_of_left closed left, afterArrayMark_append_of_left absent behindArguments]
      · cases read

theorem isBlank_eq_false_of_isTypePart {c : Char} (part : isTypePart c = true) :
    isBlank c = false := by
  rcases Bool.or_eq_true_iff.mp part with word | dot
  · exact isBlank_eq_false_of_isWord word
  · rw [beq_iff_eq.mp dot]
    decide

theorem IsColumnType.ne_nil (grammatical : IsColumnType text) : text ≠ [] := by
  obtain ⟨first, name, arguments, array, rfl, _⟩ := grammatical
  simp

theorem isTypePart_of_isIdentifierStart {c : Char} (start : isIdentifierStart c = true) :
    isTypePart c = true := by
  simp [isTypePart, isWord_of_isIdentifierStart start]

theorem IsColumnType.last (grammatical : IsColumnType text) :
    ∀ c ∈ text.getLast?, isTypePart c = true ∨ c = ')' ∨ c = ']' := by
  obtain ⟨first, name, arguments, array, rfl, start, parts, bracketed, marked⟩ := grammatical
  rcases marked with rfl | rfl
  · rcases bracketed with rfl | ⟨inner, _, rfl⟩
    · intro c member
      rw [List.append_nil, List.append_nil] at member
      rcases List.mem_cons.mp (List.mem_of_getLast? member) with rfl | later
      · exact .inl (isTypePart_of_isIdentifierStart start)
      · exact .inl (parts c later)
    · have closed : first :: name ++ ('(' :: inner ++ [')']) ++ [] =
          (first :: name ++ '(' :: inner) ++ [')'] := by simp
      rw [closed, List.getLast?_concat]
      intro c member
      cases member
      exact .inr (.inl rfl)
  · have closed : first :: name ++ arguments ++ ['[', ']'] =
        (first :: name ++ arguments ++ ['[']) ++ [']'] := by simp
    rw [closed, List.getLast?_concat]
    intro c member
    cases member
    exact .inr (.inr rfl)

theorem IsColumnType.head (grammatical : IsColumnType text) :
    ∃ first rest, text = first :: rest ∧ isIdentifierStart first = true := by
  obtain ⟨first, name, arguments, array, rfl, start, _⟩ := grammatical
  exact ⟨first, name ++ arguments ++ array, by simp, start⟩

theorem IsColumnType.isTrimmed (grammatical : IsColumnType text) : IsTrimmed text := by
  refine ⟨?_, fun c member => ?_⟩
  · obtain ⟨first, rest, rfl, start⟩ := grammatical.head
    intro c member
    cases member
    exact isBlank_eq_false_of_isIdentifierStart start
  · rcases grammatical.last c member with part | rfl | rfl
    · exact isBlank_eq_false_of_isTypePart part
    · decide
    · decide

/-- A column type on one line is a text of the grammar. -/
theorem isColumnType_iff (oneLine : '\n' ∉ text) : isColumnType text = true ↔ IsColumnType text := by
  constructor
  · intro accepted
    unfold isColumnType at accepted
    split at accepted
    · rename_i rest read
      obtain ⟨type, rfl, grammatical⟩ := exists_type_of_afterType? read
      have ended := eq_nil_of_atEnd accepted fun lineFeed => oneLine (List.mem_append_right type lineFeed)
      simpa [ended] using grammatical
    · cases accepted
  · intro grammatical
    have read : afterType? (text ++ []) = some [] :=
      afterType?_append grammatical (by simp [EndsType])
    rw [List.append_nil] at read
    simp [isColumnType, read, atEnd]

/-- What a number is made of: digits, signs, and the marks of decimals and exponents. -/
def isNumeral (c : Char) : Bool :=
  isDigit c || "+-.eE".toList.contains c

theorem isBareCharacter_of_isBareValue (bare : isBareValue text = true) (oneLine : '\n' ∉ text) :
    text ≠ [] ∧ ∀ c ∈ text, isBareCharacter c = true := by
  unfold isBareValue at bare
  split at bare
  · rename_i rest read
    obtain ⟨run, rfl, nonempty, inside⟩ := exists_eq_append_of_afterRun? read
    have ended := eq_nil_of_atEnd bare fun lineFeed => oneLine (List.mem_append_right run lineFeed)
    rw [ended, List.append_nil]
    exact ⟨nonempty, inside⟩
  · cases bare

end TableScript.Lexeme
