import TableScript.Proofs.Grammar.ColumnLine
import TableScript.Proofs.Grammar.Keyword
import TableScript.Grammar.TableHeader

namespace TableScript.TableHeader

open Text

variable {text name : List Char} {header : TableHeader} {c : Char}

/-- What a header is read as: the keyword, at least one blank, and the name. -/
theorem exists_after?_table (read : read? text = some header) :
    ∃ behindKeyword, Keyword.table.after? text = some behindKeyword ∧
      (trimStart behindKeyword).length ≠ behindKeyword.length ∧ header.name ≠ [] ∧
      header.name = (trimStart behindKeyword).takeWhile isNameCharacter ∧
      header.nameOffset = text.length - (trimStart behindKeyword).length := by
  simp only [read?, Option.bind_eq_bind, Option.bind_eq_some_iff] at read
  obtain ⟨behindKeyword, keyword, named⟩ := read
  split at named
  · cases named
  · rename_i spaced
    rw [Bool.or_eq_true, decide_eq_true_eq, List.isEmpty_iff, not_or] at spaced
    refine ⟨behindKeyword, keyword, spaced.1, ?_⟩
    split at named
    · simp only [Option.bind_eq_some_iff] at named
      obtain ⟨_, _, _, _, made⟩ := named
      cases made
      exact ⟨spaced.2, rfl, rfl⟩
    · simp only [Option.bind_eq_some_iff] at named
      obtain ⟨_, _, made⟩ := named
      cases made
      exact ⟨spaced.2, rfl, rfl⟩

/-- The name stands in the line, at its offset. -/
theorem exists_eq_append_name (read : read? text = some header) :
    ∃ front behind, text = front ++ header.name ++ behind ∧ front.length = header.nameOffset := by
  obtain ⟨behindKeyword, keyword, _, _, name, offset⟩ := exists_after?_table read
  obtain ⟨word, rfl⟩ := Keyword.exists_eq_append_of_after? keyword
  obtain ⟨blanks, spaced⟩ := trimStart_suffix behindKeyword
  refine ⟨word ++ blanks, (trimStart behindKeyword).dropWhile isNameCharacter, ?_, ?_⟩
  · rw [name, List.append_assoc, List.takeWhile_append_dropWhile, List.append_assoc, spaced]
  · have length := congrArg List.length spaced
    simp only [List.length_append] at length offset ⊢
    omega

/-- The keyword stands in front of a blank, and behind the blanks the name begins. -/
theorem exists_after?_eq_blank_cons (read : read? text = some header) :
    ∃ blank rest behind, Keyword.table.after? text = some (blank :: rest) ∧ isBlank blank = true ∧
      trimStart rest = header.name ++ behind := by
  obtain ⟨behindKeyword, keyword, spaced, nonempty, name, _⟩ := exists_after?_table read
  cases behindKeyword with
  | nil => exact absurd name nonempty
  | cons blank rest =>
      cases isBlank : isBlank blank with
      | false => exact absurd (congrArg List.length (trimStart_of_head isBlank)) spaced
      | true =>
          have start : trimStart (blank :: rest) = trimStart rest :=
            trimStart_append (List.forall_mem_singleton.mpr isBlank) rest
          refine ⟨blank, rest, (trimStart rest).dropWhile isNameCharacter, keyword, isBlank, ?_⟩
          rw [name, start, List.takeWhile_append_dropWhile]

/-- A name of plain parts begins like one of them, unless nothing stands in front of its dot. -/
theorem exists_start_of_nameParts (table : Lexeme.isIdentifier header.nameParts.2 = true)
    (schema : ∀ schema ∈ header.nameParts.1, Lexeme.isIdentifier schema = true)
    (begun : header.name.head? ≠ some '.') :
    ∃ c rest, header.name = c :: rest ∧ Lexeme.isIdentifierStart c = true := by
  unfold nameParts at table schema
  cases cut : cutAtLast '.' header.name with
  | none =>
      rw [cut] at table
      exact Lexeme.exists_start_of_isIdentifier table
  | some parts =>
      obtain ⟨front, behind⟩ := parts
      have whole := eq_append_of_cutAtLast cut
      cases front with
      | nil => exact absurd (congrArg List.head? whole) begun
      | cons c front =>
          rw [cut] at schema
          obtain ⟨d, rest, same, start⟩ := Lexeme.exists_start_of_isIdentifier (schema _ rfl)
          cases same
          exact ⟨c, front ++ '.' :: behind, whole, start⟩

theorem mem_of_mem_name (read : read? text = some header) (member : c ∈ header.name) :
    c ∈ text := by
  obtain ⟨front, behind, rfl, _⟩ := exists_eq_append_name read
  simp [member]

theorem mem_of_mem_nameParts
    (member : c ∈ header.nameParts.2 ∨ ∃ schema ∈ header.nameParts.1, c ∈ schema) :
    c ∈ header.name := by
  unfold nameParts at member
  cases cut : cutAtLast '.' header.name with
  | none =>
      simp only [cut] at member
      rcases member with inName | ⟨schema, ⟨⟩, _⟩
      exact inName
  | some parts =>
      rw [eq_append_of_cutAtLast cut]
      simp only [cut] at member
      rcases member with inName | ⟨schema, given, inSchema⟩
      · exact List.mem_append_right _ (List.mem_cons_of_mem _ inName)
      · split at given
        · cases given
        · cases given
          exact List.mem_append_left _ inSchema

theorem nameOffset_add_length_le (read : read? text = some header) :
    header.nameOffset + header.name.length ≤ text.length := by
  obtain ⟨front, behind, rfl, offset⟩ := exists_eq_append_name read
  simp only [List.length_append]
  omega

/-- No brace stands at the end of a header that opens no body. -/
theorem not_mem_of_readEnd? (ends : readEnd? text = some false) : '\x7b' ∉ text := by
  intro member
  have empty : trimStart text = [] := by
    unfold readEnd? at ends
    split at ends
    · assumption
    · split at ends <;> cases ends
    · cases ends
  have blank := List.dropWhile_eq_nil_iff.mp empty _ member
  exact absurd blank (by decide)

/-- A header that ends in a brace opens a body. -/
theorem opensBody_of_brace (read : read? text = some header) (brace : text.getLast? = some '\x7b') :
    header.opensBody = true := by
  by_contra plain
  have closed : header.opensBody = false := Bool.eq_false_iff.mpr plain
  suffices ends : ∃ tail, tail <:+ text ∧ tail ≠ [] ∧ '\x7b' ∉ tail by
    obtain ⟨tail, ⟨front, rfl⟩, nonempty, absent⟩ := ends
    rw [List.getLast?_append_of_ne_nil front nonempty] at brace
    exact absent (List.mem_of_getLast? brace)
  simp only [read?, Option.bind_eq_bind, Option.bind_eq_some_iff] at read
  obtain ⟨behindKeyword, keyword, named⟩ := read
  have inside : trimStart behindKeyword <:+ text := by
    obtain ⟨word, rfl⟩ := Keyword.exists_eq_append_of_after? keyword
    exact (trimStart_suffix behindKeyword).trans (List.suffix_append word behindKeyword)
  have behindName : trimStart ((trimStart behindKeyword).dropWhile isNameCharacter) <:+ text :=
    ((trimStart_suffix _).trans (List.dropWhile_suffix _)).trans inside
  split at named
  · cases named
  · rename_i nonempty
    split at named
    · -- With settings, the last bracket stands behind all braces.
      rename_i rest settings
      simp only [Option.bind_eq_some_iff] at named
      obtain ⟨⟨content, behind⟩, cut, opensBody, ends, made⟩ := named
      cases made
      rw [settings] at cut behindName
      have whole := eq_append_of_cutAtLast cut
      refine ⟨']' :: behind, ?_, List.cons_ne_nil _ _, ?_⟩
      · refine List.IsSuffix.trans ⟨'[' :: content, ?_⟩ behindName
        rw [whole, List.cons_append]
      · have absent := not_mem_of_readEnd? (ends.trans (congrArg Option.some closed))
        simpa using absent
    · simp only [Option.bind_eq_some_iff] at named
      obtain ⟨opensBody, ends, made⟩ := named
      cases made
      refine ⟨trimStart behindKeyword, inside, ?_, fun member => ?_⟩
      · rintro nothing
        simp [nothing] at nonempty
      · rw [← List.takeWhile_append_dropWhile (p := isNameCharacter) (l := trimStart behindKeyword)] at member
        rcases List.mem_append.mp member with inName | inRest
        · have character := List.mem_takeWhile_imp inName
          exact absurd character (by decide)
        · have absent := not_mem_of_readEnd? (ends.trans (congrArg Option.some closed))
          rw [← List.takeWhile_append_dropWhile (p := isBlank)
            (l := (trimStart behindKeyword).dropWhile isNameCharacter)] at inRest
          rcases List.mem_append.mp inRest with blank | left
          · exact absurd (List.mem_takeWhile_imp blank) (by decide)
          · exact absent left

/-- The schema and the dot behind it stand in the name. -/
theorem length_schema_lt {schema : List Char} (given : header.nameParts.1 = some schema) :
    schema.length < header.name.length := by
  unfold nameParts at given
  cases cut : Text.cutAtLast '.' header.name with
  | none => simp [cut] at given
  | some parts =>
      have same : parts.1 = schema := by
        simp only [cut] at given
        split at given
        · cases given
        · exact Option.some.inj given
      rw [Text.eq_append_of_cutAtLast cut, same]
      simp

/-- A name in a header: characters that neither end it nor are blanks. -/
def IsHeaderName (name : List Char) : Prop :=
  name ≠ [] ∧ ∀ c ∈ name, isNameCharacter c = true

theorem IsHeaderName.not_isBlank (named : IsHeaderName name) : ∀ c ∈ name.head?, isBlank c = false := by
  intro c first
  have character := named.2 c (List.mem_of_mem_head? first)
  simp only [isNameCharacter, Bool.and_eq_true, Bool.not_eq_true'] at character
  exact character.1.1

/-- What stands behind the name in a header: perhaps settings, then the brace. -/
def endText (settings : Option (List Char)) : List Char :=
  bracketedText settings ++ [' ', '\x7b']

theorem head?_endText (settings : Option (List Char)) : (endText settings).head? = some ' ' := by
  cases settings <;> rfl

theorem trimStart_endText_none : trimStart (endText none) = ['\x7b'] := by
  decide

theorem trimStart_endText_some (content : List Char) :
    trimStart (endText (some content)) = '[' :: (content ++ ']' :: [' ', '\x7b']) := by
  have shape : endText (some content) = ' ' :: '[' :: (content ++ ']' :: [' ', '\x7b']) := by
    simp [endText, bracketedText]
  rw [shape, trimStart_space]
  exact trimStart_of_head (by decide)

/-- A header as it is written is read as its name and its settings, and it opens a body. -/
theorem read?_written (settings : Option (List Char)) (named : IsHeaderName name) :
    read? ("Table".toList ++ ' ' :: (name ++ endText settings)) =
      some ⟨name, 6, settings, true⟩ := by
  have behindKeyword : ∀ behind, Keyword.table.after? ("Table".toList ++ behind) = some behind :=
    Keyword.after?_capital .table
  have ends : ∀ c ∈ (endText settings).head?, isNameCharacter c = false := by
    rw [head?_endText]
    intro c space
    cases space
    decide
  have begins : ∀ c ∈ (name ++ endText settings).head?, isBlank c = false := by
    rw [List.head?_append_of_ne_nil _ named.1]
    exact named.not_isBlank
  have start : trimStart (' ' :: (name ++ endText settings)) = name ++ endText settings := by
    rw [trimStart_space, trimStart_of_head? begins]
  have taken := takeWhile_run named.2 ends
  have left := dropWhile_run named.2 ends
  have offset : ∀ behind : List Char,
      ("Table".toList ++ ' ' :: behind).length - behind.length = 6 := by
    intro behind
    have keyword : "Table".toList.length = 5 := rfl
    rw [List.length_append, List.length_cons, keyword]
    omega
  simp only [read?, behindKeyword, Option.bind_eq_bind, Option.bind_some, start, taken, left, offset]
  rw [if_neg (by simp [named.1])]
  cases settings with
  | none =>
      have opens : readEnd? ['\x7b'] = some true := by decide
      simp only [trimStart_endText_none, opens, Option.bind_some]
      rfl
  | some content =>
      have opens : readEnd? [' ', '\x7b'] = some true := by decide
      have cut : bracketed? ('[' :: (content ++ ']' :: [' ', '\x7b'])) =
          some (content, [' ', '\x7b']) :=
        cutAtLast_append (by decide)
      simp only [trimStart_endText_some, cut, opens, Option.bind_some]
      rfl

end TableScript.TableHeader
