import TableScript.Ddl
import TableScript.Proofs.Lexeme.Literal
import TableScript.Proofs.Text.LetterCase

/-! Names and values in a statement, as the reader of the statement takes them. A quoted one is read up to
its closing mark, where a doubled mark stands for one. The writer doubles the marks, so the reader gets back
what was written and goes on just behind it, whatever stands there. -/

namespace TableScript.Ddl

open Text Lexeme

variable {mark : Char} {text behind : List Char} {name value token : String}

/-- Reads a quoted text from behind its opening mark: the text, and what follows its closing mark. -/
def unquoted? (mark : Char) (source : List Char) : Option (List Char × List Char) :=
  match source with
  | [] => none
  | [c] => if c = mark then some ([], []) else none
  | c :: d :: rest =>
      if c ≠ mark then (unquoted? mark (d :: rest)).map fun (text, behind) => (c :: text, behind)
      else if d = mark then (unquoted? mark rest).map fun (text, behind) => (mark :: text, behind)
      else some ([], d :: rest)

/-- Reads a name: what is in double quotes, or letters, digits and underscores up to the first other
character. -/
def name? (source : List Char) : Option (List Char × List Char) :=
  match source with
  | [] => none
  | c :: rest =>
      if c = '"' then unquoted? '"' rest
      else if isIdentifierStart c then
        some (c :: rest.takeWhile isIdentifierPart, rest.dropWhile isIdentifierPart)
      else none

/-- The token is a value in quotes. Read from behind its first character it is over with its last one, and
what is read is the value; only a further mark behind it could be taken for a part of it. -/
def Quotes (mark : Char) (token value : String) : Prop :=
  ∃ body, token.toList = mark :: body ∧ ∀ behind, behind.head? ≠ some mark →
    unquoted? mark (body ++ behind) = some (value.toList, behind)

theorem double_cons (mark c : Char) (text : List Char) :
    double mark (c :: text) = (if c = mark then [mark, mark] else [c]) ++ double mark text := rfl

theorem length_le_double (mark : Char) (text : List Char) : text.length ≤ (double mark text).length := by
  induction text with
  | nil => exact Nat.le_refl _
  | cons c text ih =>
      rw [double_cons, List.length_append, List.length_cons]
      have one : 1 ≤ (if c = mark then [mark, mark] else [c]).length := by split <;> simp
      omega

theorem unquoted?_close (ends : behind.head? ≠ some mark) :
    unquoted? mark (mark :: behind) = some ([], behind) := by
  cases behind with
  | nil => simp [unquoted?]
  | cons d rest =>
      have other : d ≠ mark := fun same => ends (by rw [same, List.head?_cons])
      simp [unquoted?, other]

/-- A character that is no mark is read as it stands, if something follows it. -/
theorem unquoted?_cons {c : Char} (other : c ≠ mark) (more : text ≠ []) :
    unquoted? mark (c :: text) = (unquoted? mark text).map fun (read, behind) => (c :: read, behind) := by
  cases text with
  | nil => exact absurd rfl more
  | cons d rest => rw [unquoted?, if_pos other]

theorem unquoted?_double (mark : Char) (text : List Char) (ends : behind.head? ≠ some mark) :
    unquoted? mark (double mark text ++ mark :: behind) = some (text, behind) := by
  induction text with
  | nil => exact unquoted?_close ends
  | cons c text ih =>
      rw [double_cons]
      split
      · rename_i same
        rw [same]
        change unquoted? mark (mark :: mark :: (double mark text ++ mark :: behind)) = _
        simp [unquoted?, ih]
      · rename_i other
        rw [List.append_assoc, List.singleton_append, unquoted?_cons other (by simp), ih]
        rfl

theorem quotes_double (mark : Char) (value : String) :
    Quotes mark (String.ofList (mark :: double mark value.toList ++ [mark])) value := by
  refine ⟨double mark value.toList ++ [mark], by rw [String.toList_ofList, List.cons_append], ?_⟩
  intro behind ends
  rw [List.append_assoc, List.singleton_append]
  exact unquoted?_double mark value.toList ends

/-- A token is in quotes for one value only. -/
theorem Quotes.unique {other : String} (first : Quotes mark token value) (second : Quotes mark token other) :
    value = other := by
  obtain ⟨body, token_eq, read⟩ := first
  obtain ⟨body', token_eq', read'⟩ := second
  have same : body = body' := (List.cons.inj (token_eq.symm.trans token_eq')).2
  subst same
  have both := (read [] (by simp)).symm.trans (read' [] (by simp))
  exact String.toList_inj.mp (Prod.mk.inj (Option.some.inj both)).1

theorem identifier_of_isIdentifier (plain : isIdentifier name.toList = true) : identifier name = name :=
  if_pos plain

theorem quotes_identifier (notPlain : isIdentifier name.toList ≠ true) :
    Quotes '"' (identifier name) name := by
  rw [identifier, if_neg notPlain]
  exact quotes_double '"' name

/-- A plain name is not in quotes. -/
theorem not_quotes_of_isIdentifier (plain : isIdentifier token.toList = true) : ¬ Quotes '"' token name := by
  rintro ⟨body, token_eq, _⟩
  obtain ⟨c, rest, shape, start⟩ := exists_start_of_isIdentifier plain
  have first : c = '"' := (List.cons.inj (shape.symm.trans token_eq)).1
  rw [first] at start
  exact absurd start (by decide)

theorem identifier_eq_self_iff : identifier name = name ↔ HasForm IsIdentifier name.toList := by
  rw [← isIdentifier_iff]
  constructor
  · intro same
    by_contra notPlain
    have longer := congrArg (fun token => token.toList.length) same
    have grows := length_le_double '"' name.toList
    rw [identifier, if_neg notPlain] at longer
    simp only [String.toList_ofList, List.length_append, List.length_cons, List.length_nil] at longer
    omega
  · exact identifier_of_isIdentifier

theorem identifier_injective : Function.Injective identifier := by
  intro first second same
  by_cases plain : isIdentifier first.toList = true
  · by_cases plain' : isIdentifier second.toList = true
    · rwa [identifier_of_isIdentifier plain, identifier_of_isIdentifier plain'] at same
    · rw [identifier_of_isIdentifier plain] at same
      exact absurd (same ▸ quotes_identifier plain') (not_quotes_of_isIdentifier plain)
  · by_cases plain' : isIdentifier second.toList = true
    · rw [identifier_of_isIdentifier plain'] at same
      exact absurd (same ▸ quotes_identifier plain) (not_quotes_of_isIdentifier plain')
    · exact (quotes_identifier plain).unique (same ▸ quotes_identifier plain')

/-- A written name of one line is read back, unless what follows goes on with it. -/
theorem name?_identifier (oneLine : '\n' ∉ name.toList)
    (ends : ∀ c ∈ behind.head?, c ≠ '"' ∧ isIdentifierPart c = false) :
    name? ((identifier name).toList ++ behind) = some (name.toList, behind) := by
  by_cases plain : isIdentifier name.toList = true
  · obtain ⟨c, rest, shape, start, parts⟩ := exists_of_isIdentifier plain oneLine
    have notMark : c ≠ '"' := by
      rintro rfl
      exact absurd start (by decide)
    have stops : ∀ c ∈ behind.head?, isIdentifierPart c = false := fun c head => (ends c head).2
    rw [identifier_of_isIdentifier plain, shape, List.cons_append, name?, if_neg notMark, if_pos start,
      takeWhile_run parts stops, dropWhile_run parts stops]
  · obtain ⟨body, token_eq, read⟩ := quotes_identifier plain
    rw [token_eq, List.cons_append, name?, if_pos rfl]
    exact read behind fun head => (ends '"' head).1 rfl

def inCapitals (word : String) : String :=
  String.ofList (word.toList.map Char.toUpper)

/-- A keyword in whatever case becomes the keyword in capitals, and no other letters with it. -/
theorem upper_eq_inCapitals {keyword : String} (lowered : String.ofList (lower value.toList) = keyword)
    (known : keyword ∈ valueKeywords) : String.ofList (upper value.toList) = inCapitals keyword := by
  have plain : ∀ word ∈ valueKeywords, ∀ d ∈ word.toList, d.toNat < 128 ∧ d ≠ 'k' := by
    simp [valueKeywords]
  have letters : lower value.toList = keyword.toList := by rw [← lowered, String.toList_ofList]
  have raised := upper_eq_of_lower (letters ▸ plain keyword known)
  rw [raised, letters, inCapitals]

example : valueKeywords.map inCapitals =
    ["CURRENT_TIMESTAMP", "CURRENT_DATE", "CURRENT_TIME", "TRUE", "FALSE", "NULL"] := by
  decide +kernel

/-- A default value is a number or a call as it stands, a keyword in capitals, or a text in quotes. -/
theorem defaultValue_cases (value : String) :
    ((HasForm IsNumber value.toList ∨ HasForm IsCall value.toList) ∧ defaultValue value = value) ∨
      (∃ keyword ∈ valueKeywords, String.ofList (lower value.toList) = keyword ∧
        defaultValue value = inCapitals keyword) ∨
      Quotes '\'' (defaultValue value) value := by
  unfold defaultValue
  split
  · rename_i literal
    rw [Bool.or_eq_true, isNumber_iff, isCall_iff] at literal
    exact .inl ⟨literal, rfl⟩
  · split
    · rename_i keyword
      exact .inr (.inl ⟨_, keyword, rfl, upper_eq_inCapitals rfl keyword⟩)
    · exact .inr (.inr (quotes_double '\'' value))

/-- Nothing that is put into a statement as a name or as a default value gets out of its token. A name stands
as it is just if it is plain, and in quotes otherwise, and different names are written differently. A value
stands as it is if it is a number or a call, or is a keyword in capitals, or is in quotes. -/
theorem names_and_values_are_tokens :
    (∀ name, (identifier name = name ↔ HasForm IsIdentifier name.toList) ∧
      (identifier name = name ∨ Quotes '"' (identifier name) name)) ∧
    Function.Injective identifier ∧
    ∀ value,
      ((HasForm IsNumber value.toList ∨ HasForm IsCall value.toList) ∧ defaultValue value = value) ∨
        (∃ keyword ∈ valueKeywords, String.ofList (lower value.toList) = keyword ∧
          defaultValue value = inCapitals keyword) ∨
        Quotes '\'' (defaultValue value) value := by
  refine ⟨fun name => ⟨identifier_eq_self_iff, ?_⟩, identifier_injective, defaultValue_cases⟩
  by_cases plain : isIdentifier name.toList = true
  · exact .inl (identifier_of_isIdentifier plain)
  · exact .inr (quotes_identifier plain)

end TableScript.Ddl
