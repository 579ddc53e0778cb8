import TableScript.Proofs.Lexeme
import TableScript.Grammar.ColumnLine

namespace TableScript

open Text

variable {text behind : List Char} {name : ColumnName}

/-- The name of a column together with its quotes, if it has any. -/
def ColumnName.Written (name : ColumnName) (written : List Char) : Prop :=
  if name.quoted then
    ∃ mark, (mark = '"' ∨ mark = '\'') ∧ mark ∉ name.text ∧ name.text ≠ [] ∧
      written = mark :: name.text ++ [mark]
  else written = name.text

/-- What reading a column name takes from the front is the name in its written form. -/
theorem ColumnName.exists_eq_append_of_read? (read : ColumnName.read? text = some (name, behind)) :
    ∃ written, text = written ++ behind ∧ name.Written written := by
  cases text with
  | nil => cases read
  | cons c rest =>
      rw [ColumnName.read?] at read
      by_cases mark : c = '"' ∨ c = '\''
      · have cut := List.takeWhile_append_dropWhile (p := (· != c)) (l := rest)
        have quoted : (c = '"' || c = '\'') = true := by simpa using mark
        rw [if_pos quoted] at read
        split at read
        · rename_i inner d inside closing behind' named found
          cases read
          have closed : closing = c := by
            have head := List.head?_dropWhile_not (· != c) rest
            rw [found] at head
            simpa using head
          have different : c ∉ d :: inside := by
            rw [← named]
            exact fun member => by simpa using List.mem_takeWhile_imp member
          refine ⟨c :: (d :: inside) ++ [c], ?_, ?_⟩
          · rw [named, found, closed] at cut
            simpa using cut.symm
          · rw [Written, if_pos rfl]
            exact ⟨c, mark, different, by simp, rfl⟩
        · cases read
      · have bare : (c = '"' || c = '\'') = false := by simpa using mark
        rw [if_neg (by simp [bare])] at read
        split at read
        · cases read
          refine ⟨c :: rest.takeWhile continuesBareName, ?_, ?_⟩
          · rw [List.cons_append, List.takeWhile_append_dropWhile]
          · rw [Written, if_neg (by simp)]
        · cases read

/-- A name begins with its quote or with a character that may begin a bare one. -/
theorem ColumnName.exists_eq_cons_of_read? (read : ColumnName.read? text = some (name, behind)) :
    ∃ c rest, text = c :: rest ∧
      (name.quoted = true ∧ (c = '"' ∨ c = '\'') ∨ name.quoted = false ∧ startsBareName c = true) := by
  cases text with
  | nil => cases read
  | cons c rest =>
      rw [ColumnName.read?] at read
      refine ⟨c, rest, rfl, ?_⟩
      split at read
      · rename_i quoted
        split at read
        · cases read
          exact .inl ⟨rfl, by simpa using quoted⟩
        · cases read
      · split at read
        · rename_i starts
          cases read
          exact .inr ⟨rfl, starts⟩
        · cases read

theorem ColumnName.isBlank_eq_false_of_bare (read : ColumnName.read? text = some (name, behind))
    (bare : name.quoted = false) : ∀ c ∈ name.text, isBlank c = false := by
  cases text with
  | nil => cases read
  | cons c rest =>
      rw [ColumnName.read?] at read
      split at read
      · split at read
        · cases read
          cases bare
        · cases read
      · split at read
        · rename_i starts
          cases read
          rw [startsBareName, Bool.and_eq_true, Bool.not_eq_true'] at starts
          refine List.forall_mem_cons.mpr ⟨starts.1, fun d member => ?_⟩
          have goesOn := List.mem_takeWhile_imp member
          rw [continuesBareName, Bool.and_eq_true, Bool.not_eq_true'] at goesOn
          exact goesOn.1
        · cases read

/-- A bare name that is read whole: its first character may begin one and the others go on with it. -/
def ColumnName.IsBare (text : List Char) : Prop :=
  ∃ c rest, text = c :: rest ∧ c ≠ '"' ∧ c ≠ '\'' ∧ startsBareName c = true ∧
    ∀ d ∈ rest, continuesBareName d = true

theorem ColumnName.read?_written {written : List Char} (form : name.Written written)
    (bare : name.quoted = false → IsBare name.text) (blank : ∀ c ∈ behind.head?, isBlank c = true) :
    ColumnName.read? (written ++ behind) = some (name, behind) := by
  obtain ⟨text, quoted⟩ := name
  cases quoted with
  | true =>
      rw [Written, if_pos rfl] at form
      obtain ⟨mark, isMark, absent, nonempty, rfl⟩ := form
      obtain ⟨d, inside, rfl⟩ := List.exists_cons_of_ne_nil nonempty
      have marked : (mark = '"' || mark = '\'') = true := by simpa using isMark
      have plain : ∀ c ∈ d :: inside, (c != mark) = true := by
        intro c member
        have other : c ≠ mark := fun same => absent (by rwa [same] at member)
        simpa using other
      have stops : ∀ c ∈ (mark :: behind).head?, (c != mark) = false := by
        intro c member
        cases member
        simp
      have taken := takeWhile_run plain stops
      have left := dropWhile_run plain stops
      simp only [List.cons_append, List.append_assoc, List.nil_append] at taken left ⊢
      rw [ColumnName.read?, if_pos marked, taken, left]
  | false =>
      rw [Written, if_neg (by simp)] at form
      obtain ⟨c, rest, same, double, single, starts, goesOn⟩ := bare rfl
      subst form
      dsimp only at same
      subst same
      have stops : ∀ d ∈ behind.head?, continuesBareName d = false := by
        intro d member
        rw [continuesBareName, blank d member]
        rfl
      rw [List.cons_append, ColumnName.read?, if_neg (by simp [double, single]), if_pos starts,
        takeWhile_run goesOn stops, dropWhile_run goesOn stops]

/-- A name in front of something is read in the same way whatever stands further behind. -/
theorem ColumnName.read?_append (read : ColumnName.read? text = some (name, behind)) (left : behind ≠ [])
    (tail : List Char) : ColumnName.read? (text ++ tail) = some (name, behind ++ tail) := by
  cases text with
  | nil => cases read
  | cons c rest =>
      rw [ColumnName.read?] at read
      rw [List.cons_append, ColumnName.read?]
      split at read
      · rename_i mark
        rw [if_pos mark]
        split at read
        · rename_i first inner closing behind' named found
          cases read
          have stops : rest.dropWhile (· != c) ≠ [] := by simp [found]
          rw [takeWhile_append_of_left stops, dropWhile_append_of_left stops, named, found]
          rfl
        · cases read
      · rename_i bare
        rw [if_neg bare]
        split at read
        · rename_i starts
          cases read
          rw [if_pos starts, takeWhile_append_of_left left, dropWhile_append_of_left left]
        · cases read

/-- Settings in brackets with a blank in front; nothing where there are none. -/
def bracketedText (settings : Option (List Char)) : List Char :=
  match settings with
  | some content => ' ' :: '[' :: content ++ [']']
  | none => []

/-- Behind settings stands a closing bracket; without them the last character is that in front. -/
theorem forall_mem_getLast?_bracketedText {holds : Char → Prop} {front : List Char}
    (settings : Option (List Char)) (bracket : holds ']') (last : ∀ c ∈ front.getLast?, holds c) :
    ∀ c ∈ (front ++ bracketedText settings).getLast?, holds c := by
  refine forall_mem_getLast?_append last ?_
  cases settings with
  | none => simp [bracketedText]
  | some content =>
      rw [bracketedText, List.getLast?_concat]
      intro c member
      cases member
      exact bracket

theorem bracketed?_bracketedText (settings : Option (List Char)) :
    bracketed? (trimStart (bracketedText settings)) = settings.map fun content => (content, []) := by
  cases settings with
  | none => rfl
  | some content =>
      have start : trimStart (' ' :: '[' :: content ++ [']']) = '[' :: content ++ [']'] :=
        trimStart_space ('[' :: content ++ [']'])
      rw [bracketedText, start]
      exact cutAtLast_append (by simp)

theorem endsType_bracketedText (settings : Option (List Char)) :
    Lexeme.EndsType (bracketedText settings) := by
  cases settings with
  | none =>
      intro c member
      cases member
  | some content =>
      intro c member
      cases member
      decide

namespace ColumnLine

variable {declared : ColumnLine}

/-- What a column line is read as: a name, blanks, a type of the grammar, and behind it settings up to
their bracket or nothing at all in front of the rest. -/
theorem exists_parts (read : read? text = some declared) :
    ∃ behindName behindType settings, ColumnName.read? text = some (declared.name, behindName) ∧
      Lexeme.afterRun? isBlank behindName = some (declared.type ++ behindType) ∧
      Lexeme.IsColumnType declared.type ∧ trimStart behindType = settings ++ declared.rest ∧
      ∀ c ∈ settings.getLast?, c = ']' := by
  simp only [read?, Option.bind_eq_bind, Option.bind_eq_some_iff] at read
  obtain ⟨⟨name, behindName⟩, nameRead, typeText, blanksRead, behindType, typeRead, ended⟩ := read
  obtain ⟨type, rfl, grammatical⟩ := Lexeme.exists_type_of_afterType? typeRead
  have taken : (type ++ behindType).take ((type ++ behindType).length - behindType.length) =
      type := by
    rw [List.length_append, Nat.add_sub_cancel, List.take_left]
  rw [taken] at ended
  cases cut : bracketed? (trimStart behindType) with
  | none =>
      rw [cut] at ended
      cases ended
      exact ⟨behindName, behindType, [], nameRead, blanksRead, grammatical, rfl, by simp⟩
  | some parts =>
      obtain ⟨content, rest⟩ := parts
      rw [cut] at ended
      cases ended
      refine ⟨behindName, behindType, '[' :: content ++ [']'], nameRead, blanksRead, grammatical, ?_, ?_⟩
      · unfold bracketed? at cut
        split at cut
        · rename_i inner start
          rw [start, eq_append_of_cutAtLast cut]
          simp
        · cases cut
      · rw [List.getLast?_concat]
        intro c member
        exact (Option.some.inj member).symm

/-- What a column line is read as is taken from it: the name, then a type of the grammar. -/
theorem exists_eq_append_of_read? (read : read? text = some declared) :
    ∃ written blanks behindType, text = written ++ blanks ++ declared.type ++ behindType ∧
      declared.name.Written written ∧ Lexeme.IsColumnType declared.type := by
  obtain ⟨behindName, behindType, _, nameRead, blanksRead, grammatical, _⟩ := exists_parts read
  obtain ⟨written, rfl, form⟩ := ColumnName.exists_eq_append_of_read? nameRead
  obtain ⟨blanks, rfl, _, _⟩ := Lexeme.exists_eq_append_of_afterRun? blanksRead
  exact ⟨written, blanks, behindType, by simp, form, grammatical⟩

/-- A column with nothing behind it ends in its type, a bracket or a blank. -/
theorem last_ne_brace (read : read? text = some declared) (nothing : allBlank declared.rest = true) :
    ∀ c ∈ text.getLast?, c ≠ '\x7b' := by
  obtain ⟨behindName, behindType, settings, nameRead, blanksRead, typed, ended, bracket⟩ :=
    exists_parts read
  obtain ⟨written, rfl, _⟩ := ColumnName.exists_eq_append_of_read? nameRead
  obtain ⟨blanks, rfl, _, _⟩ := Lexeme.exists_eq_append_of_afterRun? blanksRead
  have blankPart : ∀ part : List Char, (∀ c ∈ part, isBlank c = true) →
      ∀ c ∈ part.getLast?, c ≠ '\x7b' := by
    rintro part blank c last rfl
    exact absurd (blank _ (List.mem_of_getLast? last)) (by decide)
  have restPart := blankPart declared.rest (List.all_eq_true.mp nothing)
  have settingsPart : ∀ c ∈ settings.getLast?, c ≠ '\x7b' := by
    rintro c last rfl
    cases bracket _ last
  have spacePart := blankPart (behindType.takeWhile isBlank) fun c member => List.mem_takeWhile_imp member
  have typePart : ∀ c ∈ declared.type.getLast?, c ≠ '\x7b' := by
    rintro c last rfl
    rcases typed.last _ last with part | other | other
    · exact absurd part (by decide)
    · cases other
    · cases other
  have behind : behindType = behindType.takeWhile isBlank ++ (settings ++ declared.rest) := by
    rw [← ended, trimStart, List.takeWhile_append_dropWhile]
  rw [← List.append_assoc, List.getLast?_append_of_ne_nil _ (by simp [typed.ne_nil]), behind]
  exact forall_mem_getLast?_append typePart
    (forall_mem_getLast?_append spacePart (forall_mem_getLast?_append settingsPart restPart))

theorem restOffset_le (read : read? text = some declared) : declared.restOffset ≤ text.length := by
  simp only [read?, Option.bind_eq_bind, Option.bind_eq_some_iff] at read
  obtain ⟨_, _, _, _, _, _, ended⟩ := read
  split at ended <;> cases ended <;> exact Nat.sub_le _ _

theorem read?_written {written type : List Char} (settings : Option (List Char))
    (form : name.Written written) (bare : name.quoted = false → ColumnName.IsBare name.text)
    (typed : Lexeme.IsColumnType type) :
    read? (written ++ ' ' :: (type ++ bracketedText settings)) =
      some ⟨name, type, settings, [], (written ++ ' ' :: (type ++ bracketedText settings)).length⟩ := by
  have nameRead : ColumnName.read? (written ++ ' ' :: (type ++ bracketedText settings)) =
      some (name, ' ' :: (type ++ bracketedText settings)) :=
    ColumnName.read?_written form bare fun c member => by cases member; decide
  have starts : ∀ c ∈ (type ++ bracketedText settings).head?, isBlank c = false := by
    obtain ⟨c, type, rfl⟩ := List.exists_cons_of_ne_nil typed.ne_nil
    exact typed.isTrimmed.1
  have blankRead : Lexeme.afterRun? isBlank (' ' :: (type ++ bracketedText settings)) =
      some (type ++ bracketedText settings) :=
    Lexeme.afterRun?_space starts
  have typeRead : Lexeme.afterType? (type ++ bracketedText settings) =
      some (bracketedText settings) :=
    Lexeme.afterType?_append typed (endsType_bracketedText settings)
  have taken : (type ++ bracketedText settings).take
      ((type ++ bracketedText settings).length - (bracketedText settings).length) = type := by
    rw [List.length_append, Nat.add_sub_cancel, List.take_left]
  simp only [read?, nameRead, blankRead, typeRead, taken, bracketed?_bracketedText,
    Option.bind_eq_bind, Option.bind_some]
  cases settings with
  | none => rfl
  | some content => rfl

/-- What stands behind the settings is no part of what a line is read as, if no bracket is closed there. -/
theorem read?_append {tail : List Char} (read : read? text = some declared)
    (bracketed : declared.settings.isSome = true) (absent : ']' ∉ tail) :
    read? (text ++ tail) = some { declared with rest := declared.rest ++ tail } := by
  simp only [read?, Option.bind_eq_bind, Option.bind_eq_some_iff] at read
  obtain ⟨⟨name, behindName⟩, nameRead, typeText, blanksRead, behindType, typeRead, ended⟩ := read
  cases cut : bracketed? (trimStart behindType) with
  | none =>
      rw [cut] at ended
      cases ended
      cases bracketed
  | some parts =>
      obtain ⟨settings, rest⟩ := parts
      rw [cut] at ended
      cases ended
      unfold bracketed? at cut
      split at cut
      · rename_i content start
        -- Neither the name nor the type reaches to the end of the line.
        have typeLeft : behindType ≠ [] := by
          rintro rfl
          cases start
        have typeNonempty : typeText ≠ [] := by
          rintro rfl
          cases typeRead
        have nameLeft : behindName ≠ [] := by
          rintro rfl
          cases blanksRead
        have again : bracketed? (trimStart (behindType ++ tail)) = some (settings, rest ++ tail) := by
          have left : behindType.dropWhile isBlank ≠ [] := by
            rw [← trimStart, start]
            exact List.cons_ne_nil _ _
          have goesOn : trimStart (behindType ++ tail) = '[' :: (content ++ tail) := by
            rw [trimStart, dropWhile_append_of_left left, ← trimStart, start, List.cons_append]
          rw [goesOn]
          exact cutAtLast_append_of_some cut absent
        have taken : (typeText ++ tail).take ((typeText ++ tail).length - (behindType ++ tail).length) =
            typeText.take (typeText.length - behindType.length) := by
          rw [List.length_append, List.length_append, Nat.add_sub_add_right,
            List.take_append_of_le_length (Nat.sub_le _ _)]
        have offset : (text ++ tail).length - (rest ++ tail).length = text.length - rest.length := by
          rw [List.length_append, List.length_append, Nat.add_sub_add_right]
        simp only [read?, ColumnName.read?_append nameRead nameLeft,
          Lexeme.afterRun?_append_of_left blanksRead typeNonempty,
          Lexeme.afterType?_append_of_left typeRead (by rw [start]; rfl)
            (fun c head same => absent (same ▸ List.mem_of_mem_head? head)),
          Option.bind_eq_bind, Option.bind_some, again, taken, offset]
        rfl
      · cases cut

end ColumnLine

end TableScript
