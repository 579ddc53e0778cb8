import TableScript.Proofs.Grammar.ReferenceLine

namespace TableScript.Lexeme

open Text

variable {text rest sign digits fraction exponent : List Char}

/-- A text of the grammar, perhaps with one line feed behind it. -/
def HasForm (grammar : List Char → Prop) (text : List Char) : Prop :=
  ∃ word ending, text = word ++ ending ∧ grammar word ∧ (ending = [] ∨ ending = ['\n'])

def IsIdentifier (text : List Char) : Prop :=
  ∃ first rest, text = first :: rest ∧ isIdentifierStart first = true ∧
    ∀ c ∈ rest, isIdentifierPart c = true

def IsSign (text : List Char) : Prop :=
  text = [] ∨ text = ['-'] ∨ text = ['+']

def IsDigits (text : List Char) : Prop :=
  text ≠ [] ∧ ∀ c ∈ text, isDigit c = true

def IsFraction (text : List Char) : Prop :=
  text = [] ∨ ∃ digits, IsDigits digits ∧ text = '.' :: digits

def IsExponent (text : List Char) : Prop :=
  text = [] ∨ ∃ mark sign digits, (mark = 'e' ∨ mark = 'E') ∧ IsSign sign ∧ IsDigits digits ∧
    text = mark :: (sign ++ digits)

/-- A number: perhaps a sign, digits, perhaps decimals, perhaps an exponent. -/
def IsNumber (text : List Char) : Prop :=
  ∃ sign digits fraction exponent, text = sign ++ (digits ++ (fraction ++ exponent)) ∧
    IsSign sign ∧ IsDigits digits ∧ IsFraction fraction ∧ IsExponent exponent

/-- A call without arguments: a word and an empty pair of parentheses. -/
def IsCall (text : List Char) : Prop :=
  ∃ name, IsWordText name ∧ text = name ++ ['(', ')']

theorem atEnd_iff : atEnd text = true ↔ text = [] ∨ text = ['\n'] := by
  simp [atEnd]

/-- On one line no line feed is left for the end. -/
theorem HasForm.holds_of_oneLine {grammar : List Char → Prop} (form : HasForm grammar text)
    (oneLine : '\n' ∉ text) : grammar text := by
  obtain ⟨word, ending, rfl, inGrammar, rfl | rfl⟩ := form
  · rwa [List.append_nil]
  · exact absurd (List.mem_append_right word (List.mem_singleton_self _)) oneLine

theorem isIdentifier_iff : isIdentifier text = true ↔ HasForm IsIdentifier text := by
  constructor
  · intro accepted
    cases text with
    | nil => cases accepted
    | cons first behind =>
        obtain ⟨start, ended⟩ := Bool.and_eq_true_iff.mp accepted
        refine ⟨first :: behind.takeWhile isIdentifierPart, behind.dropWhile isIdentifierPart, ?_,
          ⟨first, _, rfl, start, fun c member => List.mem_takeWhile_imp member⟩, atEnd_iff.mp ended⟩
        rw [List.cons_append, List.takeWhile_append_dropWhile]
  · rintro ⟨word, ending, rfl, ⟨first, parts, rfl, start, inside⟩, ended⟩
    have stops : ∀ c ∈ ending.head?, isIdentifierPart c = false := by
      rcases ended with rfl | rfl
      · simp
      · intro c head
        cases head
        decide
    rw [List.cons_append, isIdentifier, start, dropWhile_run inside stops, Bool.true_and]
    exact atEnd_iff.mpr ended

theorem isCall_iff : isCall text = true ↔ HasForm IsCall text := by
  constructor
  · intro accepted
    unfold isCall at accepted
    split at accepted
    · rename_i ending read
      obtain ⟨name, rfl, word⟩ := exists_eq_append_of_afterRun? read
      exact ⟨name ++ ['(', ')'], ending, by simp, ⟨name, word, rfl⟩, atEnd_iff.mp accepted⟩
    · cases accepted
  · rintro ⟨word, ending, rfl, ⟨name, words, rfl⟩, ended⟩
    have read : afterRun? isWord (name ++ '(' :: ')' :: ending) = some ('(' :: ')' :: ending) :=
      afterRun?_append words.1 words.2 fun c head => by cases head; decide
    have shape : name ++ ['(', ')'] ++ ending = name ++ '(' :: ')' :: ending := by simp
    rw [shape, isCall, read]
    exact atEnd_iff.mpr ended

theorem isSign_front (text : List Char) : ∃ sign, text = sign ++ afterSign text ∧ IsSign sign := by
  cases text with
  | nil => exact ⟨[], rfl, .inl rfl⟩
  | cons c rest =>
      rw [afterSign]
      split
      · rename_i mark
        have sign : c = '-' ∨ c = '+' := by simpa using mark
        rcases sign with rfl | rfl
        · exact ⟨['-'], rfl, .inr (.inl rfl)⟩
        · exact ⟨['+'], rfl, .inr (.inr rfl)⟩
      · exact ⟨[], rfl, .inl rfl⟩

theorem afterSign_append (signed : IsSign sign) (ends : ∀ c ∈ rest.head?, c ≠ '-' ∧ c ≠ '+') :
    afterSign (sign ++ rest) = rest := by
  rcases signed with rfl | rfl | rfl
  · cases rest with
    | nil => rfl
    | cons c rest => simp [afterSign, ends c rfl]
  · rfl
  · rfl

/-- Digits are no signs, so what begins with digits has no sign in front. -/
theorem IsDigits.head (number : IsDigits digits) (rest : List Char) :
    ∀ c ∈ (digits ++ rest).head?, isDigit c = true ∧ c ≠ '-' ∧ c ≠ '+' := by
  intro c head
  rw [List.head?_append_of_ne_nil _ number.1] at head
  have digit := number.2 c (List.mem_of_mem_head? head)
  refine ⟨digit, ?_, ?_⟩
  · rintro rfl
    exact absurd digit (by decide)
  · rintro rfl
    exact absurd digit (by decide)

theorem isFraction_front (text : List Char) :
    ∃ fraction, text = fraction ++ afterFraction text ∧ IsFraction fraction := by
  cases text with
  | nil => exact ⟨[], rfl, .inl rfl⟩
  | cons c rest =>
      rw [afterFraction]
      split
      · rename_i point
        cases read : afterRun? isDigit rest with
        | none => exact ⟨[], rfl, .inl rfl⟩
        | some behind =>
            obtain ⟨run, rfl, digits⟩ := exists_eq_append_of_afterRun? read
            exact ⟨c :: run, rfl, .inr ⟨run, digits, by rw [point]⟩⟩
      · exact ⟨[], rfl, .inl rfl⟩

theorem afterFraction_append (decimals : IsFraction fraction)
    (ends : ∀ c ∈ rest.head?, isDigit c = false ∧ c ≠ '.') : afterFraction (fraction ++ rest) = rest := by
  rcases decimals with rfl | ⟨digits, number, rfl⟩
  · cases rest with
    | nil => rfl
    | cons c rest => simp [afterFraction, ends c rfl]
  · have read : afterRun? isDigit (digits ++ rest) = some rest :=
      afterRun?_append number.1 number.2 fun c head => (ends c head).1
    simp [afterFraction, read]

theorem isExponent_front (text : List Char) :
    ∃ exponent, text = exponent ++ afterExponent text ∧ IsExponent exponent := by
  cases text with
  | nil => exact ⟨[], rfl, .inl rfl⟩
  | cons c rest =>
      rw [afterExponent]
      split
      · rename_i mark
        obtain ⟨sign, signed, isSign⟩ := isSign_front rest
        cases read : afterRun? isDigit (afterSign rest) with
        | none => exact ⟨[], rfl, .inl rfl⟩
        | some behind =>
            obtain ⟨run, found, digits⟩ := exists_eq_append_of_afterRun? read
            have marked : c = 'e' ∨ c = 'E' := by simpa using mark
            refine ⟨c :: (sign ++ run), ?_, .inr ⟨c, sign, run, marked, isSign, digits, rfl⟩⟩
            rw [Option.getD_some, List.cons_append, List.append_assoc, ← found, ← signed]
      · exact ⟨[], rfl, .inl rfl⟩

theorem afterExponent_append (power : IsExponent exponent)
    (ends : ∀ c ∈ rest.head?, isDigit c = false ∧ c ≠ 'e' ∧ c ≠ 'E') :
    afterExponent (exponent ++ rest) = rest := by
  rcases power with rfl | ⟨mark, sign, digits, marked, signed, number, rfl⟩
  · cases rest with
    | nil => rfl
    | cons c rest => simp [afterExponent, ends c rfl]
  · have unsigned : afterSign (sign ++ (digits ++ rest)) = digits ++ rest :=
      afterSign_append signed fun c head => (number.head rest c head).2
    have read : afterRun? isDigit (digits ++ rest) = some rest :=
      afterRun?_append number.1 number.2 fun c head => (ends c head).1
    simp [afterExponent, marked, unsigned, read]

/-- What stands behind the digits of a number is none. -/
theorem not_isDigit_head (power : IsExponent exponent) {ending : List Char}
    (ended : ending = [] ∨ ending = ['\n']) :
    ∀ c ∈ (exponent ++ ending).head?, isDigit c = false ∧ c ≠ '.' := by
  intro c head
  rcases power with rfl | ⟨mark, sign, digits, marked, _, _, rfl⟩
  · rcases ended with rfl | rfl
    · cases head
    · cases head
      decide
  · cases head
    rcases marked with rfl | rfl <;> decide

theorem isNumber_iff : isNumber text = true ↔ HasForm IsNumber text := by
  constructor
  · intro accepted
    unfold isNumber at accepted
    split at accepted
    · rename_i behind read
      obtain ⟨sign, signed, isSign⟩ := isSign_front text
      obtain ⟨run, found, digits⟩ := exists_eq_append_of_afterRun? read
      obtain ⟨fraction, cut, decimals⟩ := isFraction_front behind
      obtain ⟨exponent, split, power⟩ := isExponent_front (afterFraction behind)
      refine ⟨sign ++ (run ++ (fraction ++ exponent)), afterExponent (afterFraction behind), ?_,
        ⟨sign, run, fraction, exponent, rfl, isSign, digits, decimals, power⟩, atEnd_iff.mp accepted⟩
      calc text
          = sign ++ (run ++ behind) := by rw [← found, ← signed]
        _ = sign ++ (run ++ (fraction ++ (exponent ++ afterExponent (afterFraction behind)))) := by
            rw [← split, ← cut]
        _ = _ := by simp only [List.append_assoc]
    · cases accepted
  · rintro ⟨word, ending, rfl, ⟨sign, digits, fraction, exponent, rfl, signed, number, decimals, power⟩,
      ended⟩
    have shape : sign ++ (digits ++ (fraction ++ exponent)) ++ ending =
        sign ++ (digits ++ (fraction ++ (exponent ++ ending))) := by simp only [List.append_assoc]
    have behindNumber := not_isDigit_head power ended
    have behindDigits : ∀ c ∈ (fraction ++ (exponent ++ ending)).head?, isDigit c = false := by
      rcases decimals with rfl | ⟨decimal, _, rfl⟩
      · exact fun c head => (behindNumber c head).1
      · intro c head
        cases head
        decide
    have behindExponent : ∀ c ∈ ending.head?, isDigit c = false ∧ c ≠ 'e' ∧ c ≠ 'E' := by
      rcases ended with rfl | rfl
      · simp
      · intro c head
        cases head
        decide
    have unsigned := afterSign_append signed fun c head =>
      (number.head (fraction ++ (exponent ++ ending)) c head).2
    rw [shape, isNumber, unsigned, afterRun?_append number.1 number.2 behindDigits]
    dsimp only
    rw [afterFraction_append decimals behindNumber, afterExponent_append power behindExponent]
    exact atEnd_iff.mpr ended

theorem IsSign.isNumeral (signed : IsSign sign) : ∀ c ∈ sign, isNumeral c = true := by
  rcases signed with rfl | rfl | rfl
  · exact List.forall_mem_nil _
  · exact List.forall_mem_singleton.mpr (by decide)
  · exact List.forall_mem_singleton.mpr (by decide)

theorem IsDigits.isNumeral (number : IsDigits digits) : ∀ c ∈ digits, isNumeral c = true := by
  intro c member
  simp [Lexeme.isNumeral, number.2 c member]

theorem IsFraction.isNumeral (decimals : IsFraction fraction) : ∀ c ∈ fraction, isNumeral c = true := by
  rcases decimals with rfl | ⟨digits, number, rfl⟩
  · simp
  · exact List.forall_mem_cons.mpr ⟨by decide, number.isNumeral⟩

theorem IsExponent.isNumeral (power : IsExponent exponent) : ∀ c ∈ exponent, isNumeral c = true := by
  rcases power with rfl | ⟨mark, sign, digits, marked, signed, number, rfl⟩
  · simp
  · have markNumeral : Lexeme.isNumeral mark = true := by
      rcases marked with rfl | rfl <;> decide
    exact List.forall_mem_cons.mpr
      ⟨markNumeral, List.forall_mem_append.mpr ⟨signed.isNumeral, number.isNumeral⟩⟩

/-- A number on one line is not empty and is made of numerals. -/
theorem isNumeral_of_isNumber (number : isNumber text = true) (oneLine : '\n' ∉ text) :
    text ≠ [] ∧ ∀ c ∈ text, isNumeral c = true := by
  obtain ⟨sign, digits, fraction, exponent, rfl, signed, digital, decimals, power⟩ :=
    (isNumber_iff.mp number).holds_of_oneLine oneLine
  refine ⟨by simp [digital.1], ?_⟩
  simp only [List.forall_mem_append]
  exact ⟨signed.isNumeral, digital.isNumeral, decimals.isNumeral, power.isNumeral⟩

end TableScript.Lexeme
