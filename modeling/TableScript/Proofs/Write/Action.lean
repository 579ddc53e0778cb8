import Mathlib.Algebra.GroupWithZero.Nat
import TableScript.Proofs.Read.Settings
import TableScript.Proofs.Write.Setting

/-! What is read of a value that is written as it is, without a look at what stands in it. It comes back
just if no blanks and no quotes are around it and no comma in it ends the setting; where another setting
follows, it also has to close what it opens. A setting takes up at least the room of its key and of its
value, so there is no room for the value anywhere else. -/

namespace TableScript

open Text

variable {text content : List Char} {key value : String}

namespace Text

theorem length_unescape_le (text : List Char) : (unescape text).length ≤ text.length := by
  fun_induction unescape text with
  | case1 => exact le_rfl
  | case2 c => exact le_rfl
  | case3 d rest meant escaped ih => simpa [escaped] using Nat.le_succ_of_le ih
  | case4 d rest unknown ih => simpa [unknown] using ih
  | case5 c d rest plain ih => simpa using ih

theorem length_stripQuotes_lt (quoted : isQuoted text = true) :
    (stripQuotes text).length < text.length := by
  rw [stripQuotes, if_pos quoted]
  have inside := length_unescape_le text.tail.dropLast
  cases text with
  | nil => cases quoted
  | cons mark rest =>
      rw [List.length_dropLast, List.length_tail] at inside
      rw [List.length_cons] at inside ⊢
      omega

theorem length_stripQuotes_le (text : List Char) : (stripQuotes text).length ≤ text.length := by
  cases quoted : isQuoted text with
  | true => exact (length_stripQuotes_lt quoted).le
  | false => simp [stripQuotes, quoted]

theorem unquoted_of_length_stripQuotes (kept : text.length ≤ (stripQuotes text).length) :
    isQuoted text = false := by
  by_contra quoted
  exact absurd kept (length_stripQuotes_lt (Bool.not_eq_false _ ▸ quoted)).not_ge

/-- In lower case a letter is no longer than it was, a dot above it left out. -/
theorem countP_lowerAfter_le (before text : List Char) :
    (lowerAfter before text).countP (· != '\u0307') ≤ text.length := by
  induction text generalizing before with
  | nil => exact le_rfl
  | cons c text ih =>
      have lowered : (lowerChar c).countP (· != '\u0307') ≤ 1 := by
        unfold lowerChar
        split
        · exact List.countP_le_length
        · split
          · decide
          · exact List.countP_le_length
      have behind := ih (c :: before)
      simp only [lowerAfter, List.countP_append, List.length_cons]
      split
      · have sigma : ∀ sigma : Char, [sigma].countP (· != '\u0307') ≤ 1 :=
          fun sigma => List.countP_le_length
        have final := sigma '\u03C2'
        have other := sigma '\u03C3'
        split <;> omega
      · omega

theorem countP_collapseBlanks_le (afterBlank : Bool) (text : List Char) :
    (collapseBlanks afterBlank text).countP (· != '\u0307') ≤ text.countP (· != '\u0307') := by
  induction text generalizing afterBlank with
  | nil => exact le_rfl
  | cons c text ih =>
      have behind := ih true
      have behindOther := ih false
      simp only [collapseBlanks, List.countP_cons]
      split
      · rename_i blank
        have counts : (c != '\u0307') = true := by
          simp only [bne_iff_ne]
          rintro rfl
          exact absurd blank (by decide)
        split
        · omega
        · have space : (' ' != '\u0307') = true := by decide
          rw [List.countP_cons, space, if_pos rfl]
          omega
      · simp only [List.countP_cons]
        omega

end Text

namespace Nesting

variable {nesting : Nesting}

theorem sum_length_pieces (nesting : Nesting) (text : List Char) :
    ((nesting.pieces text).map fun piece => piece.length + 1).sum = text.length + 1 := by
  induction text generalizing nesting with
  | nil => rfl
  | cons c text ih =>
      rw [pieces]
      split
      · rw [List.map_cons, List.sum_cons, ih, List.length_cons, List.length_nil]
        omega
      · have behind := ih (nesting.next c)
        cases pieces : (nesting.next c).pieces text with
        | nil => exact absurd pieces (pieces_ne_nil _ _)
        | cons piece more =>
            rw [pieces, List.map_cons, List.sum_cons] at behind
            simp only [List.map_cons, List.sum_cons, List.length_cons]
            omega

theorem sum_length_erase {piece : List Char} (among : piece ∈ nesting.pieces text) :
    (piece.length + 1) + (((nesting.pieces text).erase piece).map fun other => other.length + 1).sum =
      text.length + 1 := by
  have first := (List.perm_cons_erase among).map fun other : List Char => other.length + 1
  rw [← sum_length_pieces nesting text, first.sum_nat, List.map_cons, List.sum_cons]

end Nesting

namespace Setting

variable {setting other : Setting}

/-- A setting is longer than its value, by its key and the colon. -/
theorem length_value_le (given : (read text).value = some value) :
    (read text).key.toList.length + value.toList.length + 1 ≤ text.length := by
  cases cut : cutAtFirst ':' text with
  | none => simp [read, cut, Setting.value] at given
  | some parts =>
      obtain ⟨front, behind⟩ := parts
      have whole := eq_append_of_cutAtFirst cut
      have keyLength := (trim_isInfix front).length_le
      have valueLength := (trim_isInfix behind).length_le
      simp only [read, cut, Setting.value] at given ⊢
      split at given
      · cases given
      · simp only [Option.map_some, Option.some.injEq, String.toList_ofList] at given
        subst given
        have stripped := length_stripQuotes_le (trim behind)
        simp only [String.toList_ofList]
        rw [whole, List.length_append, List.length_cons]
        omega

/-- In small letters with single spaces a key is no longer than it was. -/
theorem length_name_le (plain : '\u0307' ∉ setting.name.toList) :
    setting.name.toList.length ≤ setting.key.toList.length := by
  have collapsed := countP_collapseBlanks_le false (lower setting.key.toList)
  have lowered := countP_lowerAfter_le [] setting.key.toList
  have all : setting.name.toList.countP (· != '\u0307') = setting.name.toList.length := by
    rw [List.countP_eq_length]
    intro c member
    have different : c ≠ '\u0307' := fun same => plain (same ▸ member)
    simpa using different
  rw [← all, name, String.toList_ofList]
  exact collapsed.trans lowered

theorem length_key_of_isDelete (deletes : setting.isDelete = true) : 6 ≤ setting.key.toList.length := by
  simp only [isDelete, Bool.or_eq_true, decide_eq_true_eq] at deletes
  rcases deletes with named | named
  · exact le_trans (by rw [named]; decide) (length_name_le (by rw [named]; decide))
  · exact le_trans (by rw [named]; decide) (length_name_le (by rw [named]; decide))

theorem length_key_of_isUpdate (updates : setting.isUpdate = true) : 6 ≤ setting.key.toList.length := by
  simp only [isUpdate, Bool.or_eq_true, decide_eq_true_eq] at updates
  rcases updates with named | named
  · exact le_trans (by rw [named]; decide) (length_name_le (by rw [named]; decide))
  · exact le_trans (by rw [named]; decide) (length_name_le (by rw [named]; decide))

theorem exists_piece (member : setting ∈ readAll content) :
    ∃ piece ∈ Nesting.pieces {} content, setting = read (trim piece) := by
  obtain ⟨entry, kept, rfl⟩ := List.mem_map.mp member
  obtain ⟨piece, among, rfl⟩ := List.mem_map.mp (List.mem_of_mem_filter kept)
  exact ⟨piece, among, rfl⟩

/-- Two settings of one list share nothing. -/
theorem length_of_two {otherValue : String} (first : setting ∈ readAll content)
    (second : other ∈ readAll content) (different : setting ≠ other)
    (given : setting.value = some value) (otherGiven : other.value = some otherValue) :
    (setting.key.toList.length + value.toList.length + 1) +
      (other.key.toList.length + otherValue.toList.length + 1) + 1 ≤ content.length := by
  obtain ⟨piece, among, rfl⟩ := exists_piece first
  obtain ⟨otherPiece, otherAmong, rfl⟩ := exists_piece second
  have apart : otherPiece ≠ piece := fun same => different (by rw [same])
  have remains : otherPiece ∈ (Nesting.pieces {} content).erase piece :=
    (List.mem_erase_of_ne apart).mpr otherAmong
  have whole := Nesting.sum_length_erase among
  have later := (List.perm_cons_erase remains).map fun other : List Char => other.length + 1
  rw [later.sum_nat, List.map_cons, List.sum_cons] at whole
  have length := length_value_le given
  have otherLength := length_value_le otherGiven
  have trimmed := (trim_isInfix piece).length_le
  have otherTrimmed := (trim_isInfix otherPiece).length_le
  omega

/-- Behind a key and a colon stands the raw value, without the blanks around it. -/
theorem read_behind_key (isKey : IsKey key) (text : List Char) :
    (read (trim (key.toList ++ ':' :: ' ' :: text))).key = key ∧
      ∀ raw ∈ (read (trim (key.toList ++ ':' :: ' ' :: text))).raw,
        raw.toList <:+: text ∧ IsTrimmed raw.toList := by
  have colon : (key.toList ++ [':']).getLast? = some ':' := List.getLast?_concat
  have start : trimStart (key.toList ++ ':' :: ' ' :: text) = key.toList ++ ':' :: ' ' :: text := by
    refine trimStart_of_head? ?_
    rw [List.head?_append_of_ne_nil _ isKey.entry.nonempty]
    exact isKey.entry.trimmed.1
  have whole : trim (key.toList ++ ':' :: ' ' :: text) =
      key.toList ++ ':' :: trimEnd (' ' :: text) := by
    have split : key.toList ++ ':' :: ' ' :: text = (key.toList ++ [':']) ++ ' ' :: text := by simp
    rw [trim, start, split, trimEnd_append]
    · simp
    · rw [colon]
      intro c member
      cases member
      decide
  rw [whole, read, cutAtFirst_append isKey.noColon]
  dsimp only
  refine ⟨by rw [trim_of_isTrimmed isKey.entry.trimmed, String.ofList_toList], ?_⟩
  intro raw given
  split at given
  · cases given
  · rename_i nonempty
    cases given
    have trimmed := isTrimmed_trim (trimEnd (' ' :: text))
    have inside := (trim_isInfix (trimEnd (' ' :: text))).trans (trimEnd_isPrefix (' ' :: text)).isInfix
    rw [String.toList_ofList]
    obtain ⟨before, behind, same⟩ := inside
    refine ⟨?_, trimmed⟩
    cases before with
    | nil =>
        -- The value does not begin with the blank behind the colon.
        cases found : trim (trimEnd (' ' :: text)) with
        | nil => simp [found] at nonempty
        | cons c rest =>
            rw [found, List.nil_append, List.cons_append] at same
            have blank := trimmed.1 c (by rw [found]; rfl)
            rw [(List.cons.inj same).1] at blank
            exact absurd blank (by decide)
    | cons c before => exact ⟨before, behind, (List.cons.inj same).2⟩

end Setting

/-- A value that comes back when it is written behind a key as it is. -/
structure StandsBare (text : List Char) : Prop where
  trimmed : IsTrimmed text
  unquoted : isQuoted text = false
  passed : (Nesting.passAll? {} text).isSome = true

instance (text : List Char) : Decidable (StandsBare text) :=
  decidable_of_iff (IsTrimmed text ∧ isQuoted text = false ∧ (Nesting.passAll? {} text).isSome = true)
    ⟨fun ⟨trimmed, unquoted, passed⟩ => ⟨trimmed, unquoted, passed⟩,
      fun bare => ⟨bare.trimmed, bare.unquoted, bare.passed⟩⟩

namespace Setting

variable {setting other : Setting} {after : Nesting} {otherKey otherValue : String}

/-- A value behind a key is no longer than the text there, and as long only where it stands bare. -/
theorem length_value_le_of_behind_key (isKey : IsKey key)
    (given : (read (trim (key.toList ++ ':' :: ' ' :: text))).value = some value) :
    value.toList.length ≤ text.length ∧
      (text.length ≤ value.toList.length → IsTrimmed text ∧ Text.isQuoted text = false) := by
  obtain ⟨raw, rawGiven, stripped⟩ := Option.map_eq_some_iff.mp given
  obtain ⟨inside, trimmed⟩ := (read_behind_key isKey text).2 raw rawGiven
  have length : value.toList.length = (stripQuotes raw.toList).length := by
    rw [← stripped, String.toList_ofList]
  have shorter := length_stripQuotes_le raw.toList
  have within := inside.length_le
  refine ⟨by omega, fun kept => ?_⟩
  have same : raw.toList = text := inside.eq_of_length (by omega)
  rw [← same]
  exact ⟨trimmed, unquoted_of_length_stripQuotes (by rw [← length]; omega)⟩

theorem eq_of_mem_readAll_passed (passed : Nesting.passAll? {} text = some after)
    (member : setting ∈ readAll text) : setting = read (trim text) := by
  obtain ⟨piece, among, rfl⟩ := exists_piece member
  have alone := Nesting.pieces_append passed []
  rw [List.append_nil] at alone
  rw [alone] at among
  simp only [Nesting.pieces, List.modifyHead_cons, List.append_nil, List.mem_singleton] at among
  rw [among]

theorem passAll?_behind_key (isKey : IsKey key) (text : List Char) :
    Nesting.passAll? {} (key.toList ++ ':' :: ' ' :: text) = Nesting.passAll? {} text := by
  have separator : Nesting.passAll? {} [':', ' '] = some {} := rfl
  have split : key.toList ++ ':' :: ' ' :: text = key.toList ++ ([':', ' '] ++ text) := by simp
  rw [split, Nesting.passAll?_append, isKey.entry.passed, Option.bind_some, Nesting.passAll?_append,
    separator, Option.bind_some]

theorem readAll_comma (passed : Nesting.passAll? {} text = some {}) (rest : List Char) :
    readAll (text ++ ',' :: rest) = readAll text ++ readAll rest := by
  rw [readAll, readAll, readAll, splitSettings_comma passed, List.map_append]

/-- Where a value is cut, its key is left with less than the value. -/
theorem exists_cut (isKey : IsKey key) (stops : Nesting.passAll? {} value.toList = none)
    (rest : List Char) :
    ∃ front behind, value.toList = front ++ ',' :: behind ∧
      readAll (key.toList ++ ':' :: ' ' :: (value.toList ++ rest)) =
        readAll (key.toList ++ ':' :: ' ' :: front) ++ readAll (behind ++ rest) ∧
      ∀ found ∈ readAll (key.toList ++ ':' :: ' ' :: front),
        found.key = key ∧ found.value ≠ some value := by
  obtain ⟨front, after, behind, whole, passed, top⟩ := Nesting.exists_of_passAll?_eq_none stops
  have closed := passed
  rw [Nesting.eq_of_isTop top, ← passAll?_behind_key isKey] at closed
  refine ⟨front, behind, whole, ?_, fun found member => ?_⟩
  · rw [← readAll_comma closed, whole]
    simp
  · rw [eq_of_mem_readAll_passed closed member]
    refine ⟨(read_behind_key isKey front).1, fun given => ?_⟩
    have length := (length_value_le_of_behind_key isKey given).1
    rw [whole, List.length_append, List.length_cons] at length
    omega

/-- A value that comes back from behind its key stands bare. -/
theorem standsBare_of_mem_readAll (isKey : IsKey key)
    (member : setting ∈ readAll (written key value).toList) (given : setting.value = some value) :
    StandsBare value.toList := by
  rw [toList_written] at member
  cases passes : Nesting.passAll? {} value.toList with
  | some after =>
      have passed := (passAll?_behind_key isKey value.toList).trans passes
      rw [eq_of_mem_readAll_passed passed member] at given
      obtain ⟨trimmed, unquoted⟩ := (length_value_le_of_behind_key isKey given).2 le_rfl
      exact ⟨trimmed, unquoted, by rw [passes]; rfl⟩
  | none =>
      obtain ⟨front, behind, whole, read, first⟩ := exists_cut isKey passes []
      rw [List.append_nil, List.append_nil] at read
      rw [read] at member
      rcases List.mem_append.mp member with before | later
      · exact absurd given (first setting before).2
      · -- What stands behind the comma is shorter than the value.
        obtain ⟨piece, among, rfl⟩ := exists_piece later
        have length := length_value_le given
        have trimmed := (trim_isInfix piece).length_le
        have sum := Nesting.sum_length_erase among
        rw [whole, List.length_append, List.length_cons] at length
        omega

section Two

variable (isKey : IsKey key)
  (member : setting ∈ readAll ((written key value).toList ++ ',' :: ' ' ::
    (written otherKey otherValue).toList))
  (otherMember : other ∈ readAll ((written key value).toList ++ ',' :: ' ' ::
    (written otherKey otherValue).toList))
  (given : setting.value = some value) (otherGiven : other.value = some otherValue)
  (room : otherKey.toList.length ≤ setting.key.toList.length)
  (otherRoom : otherKey.toList.length ≤ other.key.toList.length)
  (keyNonempty : 0 < otherKey.toList.length) (plainKey : ',' ∉ otherKey.toList)
  (apart : setting ≠ other) (elsewhere : other.key ≠ key)

theorem length_written (key value : String) :
    (written key value).toList.length = key.toList.length + 2 + value.toList.length := by
  rw [toList_written, List.length_append, List.length_cons, List.length_cons]
  omega

include isKey member otherMember given otherGiven room otherRoom keyNonempty apart elsewhere in
/-- Where two values come back from one list, no comma in the first one ends it. Otherwise both would have to
stand behind that comma, where there is no room for them. -/
theorem exists_passed_of_two : ∃ after, Nesting.passAll? {} value.toList = some after := by
  cases passes : Nesting.passAll? {} value.toList with
  | some after => exact ⟨after, rfl⟩
  | none =>
      obtain ⟨front, behind, whole, read, first⟩ := exists_cut isKey passes
        (',' :: ' ' :: (written otherKey otherValue).toList)
      have content : (written key value).toList ++ ',' :: ' ' :: (written otherKey otherValue).toList =
          key.toList ++ ':' :: ' ' ::
            (value.toList ++ ',' :: ' ' :: (written otherKey otherValue).toList) := by
        simp [toList_written]
      rw [content, read] at member otherMember
      have later := (List.mem_append.mp member).resolve_left fun before =>
        (first setting before).2 given
      have otherLater := (List.mem_append.mp otherMember).resolve_left fun before =>
        elsewhere (first other before).1
      have length := length_of_two later otherLater apart given otherGiven
      have cut := congrArg List.length whole
      simp only [List.length_append, List.length_cons, length_written] at length cut
      omega

include isKey otherMember otherGiven plainKey elsewhere in
/-- The first of two values closes what it opens. Otherwise its setting goes on into the second one, which
leaves no room for the second value. -/
theorem isTop_of_two (passed : Nesting.passAll? {} (written key value).toList = some after) :
    after.isTop = true := by
  by_contra opened
  obtain ⟨middle, beyond⟩ : ∃ middle, Nesting.passAll? {} ((written key value).toList ++
      ',' :: ' ' :: (otherKey.toList ++ [':', ' '])) = some middle := by
    have comma : after.pass? ',' = some (after.next ',') := by simp [Nesting.pass?, opened]
    have noComma : ',' ∉ ' ' :: (otherKey.toList ++ [':', ' ']) := by simp [plainKey]
    rw [Nesting.passAll?_append, passed, Option.bind_some, Nesting.passAll?_cons, comma]
    exact Nesting.exists_passAll?_of_noComma noComma _
  have content : (written key value).toList ++ ',' :: ' ' :: (written otherKey otherValue).toList =
      ((written key value).toList ++ ',' :: ' ' :: (otherKey.toList ++ [':', ' '])) ++
        otherValue.toList := by
    simp [toList_written]
  obtain ⟨piece, among, rfl⟩ := exists_piece otherMember
  rw [content, Nesting.pieces_append beyond] at among
  cases pieces : middle.pieces otherValue.toList with
  | nil => exact absurd pieces (Nesting.pieces_ne_nil _ _)
  | cons first rest =>
      rw [pieces, List.modifyHead_cons] at among
      rcases List.mem_cons.mp among with rfl | later
      · refine absurd ?_ elsewhere
        have front := (read_behind_key isKey
          (value.toList ++ ',' :: ' ' :: (otherKey.toList ++ [':', ' '] ++ first))).1
        simpa [toList_written] using front
      · have length := length_value_le otherGiven
        have trimmed := (trim_isInfix piece).length_le
        have inside : piece ∈ middle.pieces otherValue.toList := by
          rw [pieces]
          exact List.mem_cons_of_mem first later
        have sum := Nesting.sum_length_erase inside
        omega

end Two

/-- Of two values that come back from one list both stand bare, and the first closes what it opens. What
is found under either key takes up at least the room of the second key. -/
theorem standsBare_of_mem_readAll_two (isKey : IsKey key) (isOther : IsKey otherKey)
    (member : setting ∈ readAll ((written key value).toList ++ ',' :: ' ' ::
      (written otherKey otherValue).toList))
    (otherMember : other ∈ readAll ((written key value).toList ++ ',' :: ' ' ::
      (written otherKey otherValue).toList))
    (given : setting.value = some value) (otherGiven : other.value = some otherValue)
    (room : otherKey.toList.length ≤ setting.key.toList.length)
    (otherRoom : otherKey.toList.length ≤ other.key.toList.length)
    (plainKey : ',' ∉ otherKey.toList) (apart : setting ≠ other) (elsewhere : other.key ≠ key) :
    StandsBare value.toList ∧ Nesting.passAll? {} value.toList = some {} ∧
      StandsBare otherValue.toList := by
  have keyNonempty : 0 < otherKey.toList.length := List.length_pos_of_ne_nil isOther.entry.nonempty
  have blank : ∀ rest, readAll (' ' :: rest) = readAll rest := fun rest => by
    rw [readAll, splitSettings_space, readAll]
  obtain ⟨after, passes⟩ :=
    exists_passed_of_two isKey member otherMember given otherGiven room otherRoom keyNonempty apart elsewhere
  have passed : Nesting.passAll? {} (written key value).toList = some after := by
    rw [toList_written, passAll?_behind_key isKey, passes]
  have closed := Nesting.eq_of_isTop (isTop_of_two isKey otherMember otherGiven plainKey elsewhere passed)
  subst closed
  have head : ∀ found ∈ readAll (written key value).toList, found.key = key := by
    intro found among
    rw [eq_of_mem_readAll_passed passed among, toList_written]
    exact (read_behind_key isKey value.toList).1
  rw [readAll_comma passed, blank] at member otherMember
  have otherLater := (List.mem_append.mp otherMember).resolve_left fun before =>
    elsewhere (head other before)
  refine ⟨?_, passes, standsBare_of_mem_readAll isOther otherLater otherGiven⟩
  rcases List.mem_append.mp member with before | later
  · exact standsBare_of_mem_readAll isKey before given
  · have length := length_of_two later otherLater apart given otherGiven
    have written := length_written otherKey otherValue
    omega

/-- A value that stands bare is read from behind its key. -/
theorem readAll_bare (isKey : IsKey key) (bare : StandsBare value.toList) (nonempty : value.toList ≠ []) :
    readAll (written key value).toList = [⟨key, .some value⟩] := by
  obtain ⟨after, passes⟩ := Option.isSome_iff_exists.mp bare.passed
  have passed : Nesting.passAll? {} (written key value).toList = .some after := by
    rw [toList_written, passAll?_behind_key isKey, passes]
  have trimmed : IsTrimmed (written key value).toList := by
    rw [toList_written]
    refine isTrimmed_append isKey.entry.nonempty (by simp) isKey.entry.trimmed.1 ?_
    rw [List.getLast?_cons_cons, List.getLast?_cons_of_ne_nil nonempty]
    exact bare.trimmed.2
  rw [readAll, splitSettings_of_passed passed (by simp [toList_written]) trimmed, List.map_singleton,
    read_written isKey.noColon isKey.entry.trimmed nonempty bare.trimmed]

theorem readAll_bare_two (isKey : IsKey key) (isOther : IsKey otherKey) (bare : StandsBare value.toList)
    (closed : Nesting.passAll? {} value.toList = some {}) (otherBare : StandsBare otherValue.toList)
    (nonempty : value.toList ≠ []) (otherNonempty : otherValue.toList ≠ []) :
    readAll ((written key value).toList ++ ',' :: ' ' :: (written otherKey otherValue).toList) =
      [⟨key, .some value⟩, ⟨otherKey, .some otherValue⟩] := by
  have passed : Nesting.passAll? {} (written key value).toList = .some {} := by
    rw [toList_written, passAll?_behind_key isKey, closed]
  have second := readAll_bare isOther otherBare otherNonempty
  rw [readAll] at second
  rw [readAll_comma passed, readAll_bare isKey bare nonempty, readAll, splitSettings_space, second]
  rfl

theorem value_of_standsBare (key : String) (bare : StandsBare value.toList) :
    (Setting.mk key (some value)).value = some value := by
  simp [Setting.value, stripQuotes, bare.unquoted]

end Setting

end TableScript
