import TableScript.Proofs.Grammar.ColumnLine
import TableScript.Proofs.Grammar.Keyword
import TableScript.Grammar.ReferenceLine

namespace TableScript

open Text

variable {text word rest : List Char}

def IsWordText (text : List Char) : Prop :=
  text ≠ [] ∧ ∀ c ∈ text, isWord c = true

theorem IsWordText.oneLine {text : List Char} (words : IsWordText text) : '\n' ∉ text :=
  fun lineFeed => absurd (words.2 '\n' lineFeed) (by decide)

theorem word?_append (words : IsWordText word) (ends : ∀ c ∈ rest.head?, isWord c = false) :
    word? (word ++ rest) = some (word, rest) := by
  rw [word?, Lexeme.afterRun?_append words.1 words.2 ends, takeWhile_run words.2 ends]
  rfl

theorem eq_append_of_word? (read : word? text = some (word, rest)) :
    text = word ++ rest ∧ IsWordText word := by
  cases text with
  | nil => simp [word?, Lexeme.afterRun?] at read
  | cons c behind =>
      rw [word?, Lexeme.afterRun?] at read
      split at read
      · rename_i first
        simp only [Option.map_some, Option.some.injEq, Prod.mk.injEq, List.takeWhile_cons, first,
          if_true] at read
        obtain ⟨rfl, rfl⟩ := read
        refine ⟨?_, by simp, ?_⟩
        · rw [List.cons_append, List.takeWhile_append_dropWhile]
        · intro d member
          rcases List.mem_cons.mp member with rfl | later
          · exact first
          · exact List.mem_takeWhile_imp later
      · simp at read

theorem eq_append_of_dottedWord? (read : dottedWord? text = some (word, rest)) :
    text = '.' :: word ++ rest ∧ IsWordText word := by
  unfold dottedWord? at read
  split at read
  · obtain ⟨rfl, words⟩ := eq_append_of_word? read
    exact ⟨rfl, words⟩
  · cases read

structure Endpoint.IsWordy (endpoint : Endpoint) : Prop where
  schema : ∀ schema ∈ endpoint.schema, IsWordText schema.toList
  table : IsWordText endpoint.table.toList
  column : IsWordText endpoint.column.toList

namespace Endpoint

variable {endpoint : Endpoint}

theorem toList_written_two (table column : String) :
    (Endpoint.written ⟨none, table, column⟩).toList = table.toList ++ '.' :: column.toList := by
  simp [written, qualify]

theorem toList_written_three {schema : String} (table column : String)
    (nonempty : schema.toList ≠ []) :
    (Endpoint.written ⟨.some schema, table, column⟩).toList =
      schema.toList ++ '.' :: (table.toList ++ '.' :: column.toList) := by
  have given : schema ≠ "" := fun empty => nonempty (by rw [empty]; rfl)
  simp [written, qualify, given]

/-- What an endpoint is read as is what is written, and its parts are words. -/
theorem eq_written_append_of_read? (read : read? text = some (endpoint, rest)) :
    text = endpoint.written.toList ++ rest ∧ endpoint.IsWordy := by
  simp only [read?, Option.bind_eq_bind, Option.bind_eq_some_iff] at read
  obtain ⟨⟨first, behindFirst⟩, firstRead, ⟨second, behindSecond⟩, secondRead, last⟩ := read
  obtain ⟨rfl, firstWord⟩ := eq_append_of_word? firstRead
  obtain ⟨rfl, secondWord⟩ := eq_append_of_dottedWord? secondRead
  split at last
  · rename_i third behindThird thirdRead
    obtain ⟨rfl, thirdWord⟩ := eq_append_of_dottedWord? thirdRead
    cases last
    refine ⟨?_, ?_, ?_, ?_⟩
    · rw [toList_written_three _ _ (by simpa using firstWord.1)]
      simp
    · intro c member
      cases member
      simpa using firstWord
    · simpa using secondWord
    · simpa using thirdWord
  · cases last
    refine ⟨?_, by simp, ?_, ?_⟩
    · rw [toList_written_two]
      simp
    · simpa using firstWord
    · simpa using secondWord

theorem isWord_dot : isWord '.' = false := by
  decide

theorem read?_written (wordy : endpoint.IsWordy)
    (ends : ∀ c ∈ rest.head?, isWord c = false ∧ c ≠ '.') :
    read? (endpoint.written.toList ++ rest) = some (endpoint, rest) := by
  obtain ⟨schema, table, column⟩ := endpoint
  obtain ⟨schemaWord, tableWord, columnWord⟩ := wordy
  have beforeDot : ∀ behind : List Char, ∀ c ∈ ('.' :: behind).head?, isWord c = false := by
    intro behind c member
    cases member
    exact isWord_dot
  have columnRead : dottedWord? ('.' :: (column.toList ++ rest)) = some (column.toList, rest) :=
    word?_append columnWord fun c member => (ends c member).1
  cases schema with
  | none =>
      have tableRead := word?_append tableWord (beforeDot (column.toList ++ rest))
      have nothing : dottedWord? rest = none := by
        unfold dottedWord?
        split
        · exact absurd rfl (ends '.' rfl).2
        · rfl
      rw [toList_written_two, List.append_assoc, List.cons_append]
      simp [read?, tableRead, columnRead, nothing]
  | some schema =>
      have schemaRead := word?_append (schemaWord schema rfl)
        (beforeDot (table.toList ++ '.' :: (column.toList ++ rest)))
      have tableRead : dottedWord? ('.' :: (table.toList ++ '.' :: (column.toList ++ rest))) =
          some (table.toList, '.' :: (column.toList ++ rest)) :=
        word?_append tableWord (beforeDot (column.toList ++ rest))
      rw [toList_written_three _ _ (schemaWord schema rfl).1]
      simp [read?, schemaRead, tableRead, columnRead]

theorem IsWordy.isBareCharacter (wordy : endpoint.IsWordy) :
    ∀ c ∈ endpoint.written.toList, Lexeme.isBareCharacter c = true := by
  obtain ⟨schema, table, column⟩ := endpoint
  obtain ⟨schemaWord, tableWord, columnWord⟩ := wordy
  have dot : Lexeme.isBareCharacter '.' = true := by decide
  have bare : ∀ {word : List Char}, IsWordText word →
      ∀ c ∈ word, Lexeme.isBareCharacter c = true := by
    intro word words c member
    simp [Lexeme.isBareCharacter, words.2 c member]
  cases schema with
  | none =>
      rw [toList_written_two]
      simp only [List.forall_mem_append, List.forall_mem_cons]
      exact ⟨bare tableWord, dot, bare columnWord⟩
  | some schema =>
      rw [toList_written_three _ _ (schemaWord schema rfl).1]
      simp only [List.forall_mem_append, List.forall_mem_cons]
      exact ⟨bare (schemaWord schema rfl), dot, bare tableWord, dot, bare columnWord⟩

theorem written_ne_nil (endpoint : Endpoint) : endpoint.written.toList ≠ [] := by
  simp [written]

theorem IsWordy.head (wordy : endpoint.IsWordy) (rest : List Char) :
    ∀ c ∈ (endpoint.written.toList ++ rest).head?, isBlank c = false := by
  intro c first
  rw [List.head?_append_of_ne_nil _ endpoint.written_ne_nil] at first
  have bare := wordy.isBareCharacter c (List.mem_of_mem_head? first)
  simp only [Lexeme.isBareCharacter, Bool.or_eq_true, beq_iff_eq] at bare
  rcases bare with ((word | rfl) | rfl) | rfl
  · exact isBlank_eq_false_of_isWord word
  · decide
  · decide
  · decide

theorem IsWordy.trimStart_written (wordy : endpoint.IsWordy) (rest : List Char) :
    trimStart (' ' :: (endpoint.written.toList ++ rest)) = endpoint.written.toList ++ rest := by
  rw [trimStart_space]
  exact trimStart_of_head? (wordy.head rest)

end Endpoint

theorem Cardinality.read?_symbol (cardinality : Cardinality) (rest : List Char) :
    Cardinality.read? (cardinality.symbol.toList ++ ' ' :: rest) =
      some (cardinality, ' ' :: rest) := by
  have symbol : Cardinality.read? (cardinality.symbol.toList ++ ' ' :: rest) =
      some (.ofSymbol cardinality.symbol.toList, ' ' :: rest) := by
    cases cardinality <;> rfl
  rw [symbol, Cardinality.ofSymbol_symbol]

theorem InlineReference.read?_written (inline : InlineReference) (wordy : inline.target.IsWordy) :
    InlineReference.read? (inline.cardinality.symbol.toList ++ ' ' :: inline.target.written.toList) =
      some inline := by
  have target : Endpoint.read? (inline.target.written.toList ++ []) = some (inline.target, []) :=
    Endpoint.read?_written wordy (by simp)
  have start := wordy.trimStart_written []
  rw [List.append_nil] at target start
  simp only [read?, Cardinality.read?_symbol, Option.bind_eq_bind, Option.bind_some, start, target]
  rfl

namespace ReferenceLine

def nameText (name : Option (List Char)) : List Char :=
  name.elim [] (' ' :: ·)

theorem readName_nameText {name : Option (List Char)} (named : ∀ word ∈ name, IsWordText word)
    (rest : List Char) : readName (nameText name ++ ':' :: rest) = (name, ':' :: rest) := by
  have colon : isWord ':' = false := by decide
  have start : trimStart (':' :: rest) = ':' :: rest := trimStart_of_head (by decide)
  cases name with
  | none => rfl
  | some word =>
      have words := named word rfl
      have blanks : Lexeme.afterRun? isBlank (' ' :: (word ++ ':' :: rest)) =
          some (word ++ ':' :: rest) := by
        refine Lexeme.afterRun?_space fun c first => ?_
        rw [List.head?_append_of_ne_nil _ words.1] at first
        exact isBlank_eq_false_of_isWord (words.2 c (List.mem_of_mem_head? first))
      have read : word? (word ++ ':' :: rest) = some (word, ':' :: rest) := by
        refine word?_append words ?_
        intro c member
        cases member
        exact colon
      simp only [nameText, Option.elim_some, List.cons_append, readName, blanks, read, start]

theorem readSettings?_bracketedText (settings : Option (List Char)) :
    readSettings? (trimStart (bracketedText settings)) = some settings := by
  cases settings with
  | none => rfl
  | some content =>
      rw [readSettings?, bracketed?_bracketedText]
      rfl

variable {source target : Endpoint}

theorem read?_written {name : Option (List Char)} (named : ∀ word ∈ name, IsWordText word)
    (sourceWordy : source.IsWordy) (cardinality : Cardinality) (targetWordy : target.IsWordy)
    (settings : Option (List Char)) :
    ∃ sourceOffset targetOffset,
      read? ("Ref".toList ++ (nameText name ++ ':' :: ' ' :: (source.written.toList ++
        ' ' :: (cardinality.symbol.toList ++ ' ' :: (target.written.toList ++
          bracketedText settings))))) =
        some ⟨name, source, sourceOffset, cardinality, target, targetOffset, settings⟩ := by
  have keyword : ∀ behind, Keyword.ref.after? ("Ref".toList ++ behind) = some behind :=
    Keyword.after?_capital .ref
  have colon : ∀ behind, after? [':'] (':' :: behind) = some behind := fun _ => rfl
  have space : ∀ behind : List Char, ∀ c ∈ (' ' :: behind).head?, isWord c = false ∧ c ≠ '.' := by
    intro behind c member
    cases member
    decide
  have ends : ∀ c ∈ (bracketedText settings).head?, isWord c = false ∧ c ≠ '.' := by
    cases settings with
    | none => simp [bracketedText]
    | some content => exact space _
  have symbolStart : ∀ behind : List Char,
      trimStart (' ' :: (cardinality.symbol.toList ++ behind)) =
        cardinality.symbol.toList ++ behind := by
    intro behind
    rw [trimStart_space]
    cases cardinality
    all_goals exact trimStart_of_head (by decide)
  simp only [read?, keyword, readName_nameText named, colon, sourceWordy.trimStart_written,
    Endpoint.read?_written sourceWordy (space _), symbolStart, Cardinality.read?_symbol,
    targetWordy.trimStart_written, Endpoint.read?_written targetWordy ends,
    readSettings?_bracketedText, Option.bind_eq_bind, Option.bind_some]
  exact ⟨_, _, rfl⟩

end ReferenceLine

end TableScript
