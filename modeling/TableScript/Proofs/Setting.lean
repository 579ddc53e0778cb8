import Mathlib.Data.List.Basic
import TableScript.Proofs.Lexeme
import TableScript.Proofs.Text.Quoting
import TableScript.Setting

/-! Settings as they are written. An entry is passed as a whole when nothing in it is taken for the comma
behind it: quotes and parentheses close what they open. Such entries come apart again where they were
joined, each with its key and its value. -/

namespace TableScript

open Text

namespace Nesting

variable {nesting after : Nesting} {text rest : List Char}

/-- What a character leads to, unless it is a comma that ends an entry. -/
def pass? (nesting : Nesting) (c : Char) : Option Nesting :=
  if c = ',' && nesting.isTop then none else some (nesting.next c)

/-- What a text leads to, if no comma in it ends an entry. -/
def passAll? (nesting : Nesting) (text : List Char) : Option Nesting :=
  text.foldlM pass? nesting

theorem passAll?_cons (nesting : Nesting) (c : Char) (text : List Char) :
    nesting.passAll? (c :: text) = (nesting.pass? c).bind (·.passAll? text) :=
  List.foldlM_cons

theorem passAll?_append (nesting : Nesting) (first second : List Char) :
    nesting.passAll? (first ++ second) = (nesting.passAll? first).bind (·.passAll? second) :=
  List.foldlM_append

theorem pieces_ne_nil (nesting : Nesting) (text : List Char) : nesting.pieces text ≠ [] := by
  cases text with
  | nil => simp [pieces]
  | cons c text =>
      unfold pieces
      split
      · simp
      · split <;> simp

theorem pieces_append (passed : nesting.passAll? text = some after) (rest : List Char) :
    nesting.pieces (text ++ rest) = (after.pieces rest).modifyHead (text ++ ·) := by
  induction text generalizing nesting with
  | nil =>
      cases passed
      rw [List.nil_append]
      cases after.pieces rest <;> rfl
  | cons c text ih =>
      rw [passAll?_cons, pass?] at passed
      split at passed
      · cases passed
      · rename_i counts
        have behind := ih passed
        rw [List.cons_append, pieces, if_neg counts, behind]
        cases pieces : after.pieces rest with
        | nil => exact absurd pieces (pieces_ne_nil after rest)
        | cons piece more => rfl

/-- A text that is not passed is cut at its first comma that counts. -/
theorem exists_of_passAll?_eq_none (stops : nesting.passAll? text = none) :
    ∃ front after behind, text = front ++ ',' :: behind ∧ nesting.passAll? front = some after ∧
      after.isTop = true := by
  induction text generalizing nesting with
  | nil => cases stops
  | cons c text ih =>
      rw [passAll?_cons] at stops
      cases passed : nesting.pass? c with
      | none =>
          have counts : (c = ',' && nesting.isTop) = true := by
            by_contra other
            simp [pass?, other] at passed
          simp only [Bool.and_eq_true, decide_eq_true_eq] at counts
          exact ⟨[], nesting, text, by rw [counts.1]; rfl, rfl, counts.2⟩
      | some next =>
          rw [passed] at stops
          obtain ⟨front, after, behind, rfl, frontPassed, top⟩ := ih stops
          refine ⟨c :: front, after, behind, rfl, ?_, top⟩
          rw [passAll?_cons, passed]
          exact frontPassed

theorem exists_passAll?_of_noComma (noComma : ',' ∉ text) (nesting : Nesting) :
    ∃ after, nesting.passAll? text = some after := by
  cases passed : nesting.passAll? text with
  | some after => exact ⟨after, rfl⟩
  | none =>
      obtain ⟨front, after, behind, rfl, -⟩ := exists_of_passAll?_eq_none passed
      exact absurd (List.mem_append_right front List.mem_cons_self) noComma

theorem eq_of_isTop (top : nesting.isTop = true) : nesting = {} := by
  obtain ⟨quotes, depth⟩ := nesting
  simp only [isTop, Bool.and_eq_true, beq_iff_eq] at top
  obtain ⟨rfl, rfl⟩ := top
  rfl

def marks : List Char :=
  ['\'', '"', '\x60', '(', ')', ',']

theorem pass?_plain {c : Char} (plain : c ∉ marks) : pass? {} c = some {} := by
  simp only [marks, List.mem_cons, List.not_mem_nil, or_false, not_or] at plain
  obtain ⟨noSingle, noDouble, noBack, noOpen, noClose, noComma⟩ := plain
  simp [pass?, next, QuoteScan.next, isQuoteMark, noSingle, noDouble, noBack, noOpen, noClose,
    noComma]

theorem passAll?_plain (plain : ∀ c ∈ text, c ∉ marks) : passAll? {} text = some {} := by
  induction text with
  | nil => rfl
  | cons c text ih =>
      rw [passAll?_cons, pass?_plain (plain c List.mem_cons_self)]
      exact ih fun d member => plain d (List.mem_cons_of_mem c member)

theorem passAll?_escapeChar (depth : Nat) (c : Char) :
    passAll? ⟨.inside '\'' false, depth⟩ (escapeChar c) = some ⟨.inside '\'' false, depth⟩ := by
  unfold escapeChar
  repeat' split
  case isFalse plain noQuote _ _ =>
    simp [passAll?, pass?, isTop, next, QuoteScan.next, plain, noQuote]
  all_goals rfl

theorem passAll?_escape (depth : Nat) (text : List Char) :
    passAll? ⟨.inside '\'' false, depth⟩ (escape text) = some ⟨.inside '\'' false, depth⟩ := by
  induction text with
  | nil => rfl
  | cons c text ih =>
      rw [escape, List.flatMap_cons, passAll?_append, passAll?_escapeChar]
      exact ih

/-- Quotes close behind the text that they hold. -/
theorem passAll?_quote (depth : Nat) (text : List Char) :
    passAll? ⟨.outside, depth⟩ (quote text) = some ⟨.outside, depth⟩ := by
  have inside : passAll? ⟨.outside, depth⟩ ['\''] = some ⟨.inside '\'' false, depth⟩ := by
    simp [passAll?, pass?, next, QuoteScan.next, isQuoteMark]
  have outside : passAll? ⟨.inside '\'' false, depth⟩ ['\''] = some ⟨.outside, depth⟩ := by
    simp [passAll?, pass?, next, QuoteScan.next]
  rw [quote, ← List.singleton_append, passAll?_append, passAll?_append, inside]
  simp only [Option.bind_some, passAll?_escape, outside]

end Nesting

/-- A text that is read as one entry of a settings list. -/
structure IsEntry (text : List Char) : Prop where
  nonempty : text ≠ []
  trimmed : IsTrimmed text
  passed : Nesting.passAll? {} text = some {}

instance (text : List Char) : Decidable (IsEntry text) :=
  decidable_of_iff (text ≠ [] ∧ IsTrimmed text ∧ Nesting.passAll? {} text = some {})
    ⟨fun ⟨nonempty, trimmed, passed⟩ => ⟨nonempty, trimmed, passed⟩,
      fun entry => ⟨entry.nonempty, entry.trimmed, entry.passed⟩⟩

theorem IsEntry.append {first middle second : List Char} (begins : IsEntry first)
    (between : Nesting.passAll? {} middle = some {}) (ends : IsEntry second) :
    IsEntry (first ++ (middle ++ second)) := by
  have last : ∀ c ∈ (middle ++ second).getLast?, isBlank c = false := by
    rw [List.getLast?_append_of_ne_nil _ ends.nonempty]
    exact ends.trimmed.2
  have behind : middle ++ second ≠ [] := by simp [ends.nonempty]
  refine ⟨by simp [begins.nonempty], isTrimmed_append begins.nonempty behind ?_ last, ?_⟩
  · exact begins.trimmed.1
  · rw [Nesting.passAll?_append, begins.passed, Option.bind_some, Nesting.passAll?_append, between,
      Option.bind_some, ends.passed]

theorem splitSettings_space (text : List Char) : splitSettings (' ' :: text) = splitSettings text := by
  have blank : Nesting.passAll? {} [' '] = some {} := rfl
  rw [splitSettings, splitSettings, ← List.singleton_append, Nesting.pieces_append blank]
  cases Nesting.pieces {} text with
  | nil => rfl
  | cons piece more =>
      have trimmed : trim (' ' :: piece) = trim piece := by rw [trim, trimStart_space, trim]
      rw [List.modifyHead_cons, List.map_cons, List.map_cons, List.singleton_append, trimmed]

/-- A text that is passed ends at the comma behind it. -/
theorem splitSettings_comma {entry : List Char} (passed : Nesting.passAll? {} entry = some {})
    (rest : List Char) :
    splitSettings (entry ++ ',' :: rest) = splitSettings entry ++ splitSettings rest := by
  have comma : Nesting.pieces {} (',' :: rest) = [] :: Nesting.pieces {} rest := rfl
  have alone := Nesting.pieces_append passed []
  rw [List.append_nil] at alone
  rw [splitSettings, splitSettings, splitSettings, Nesting.pieces_append passed, comma, alone,
    ← List.filter_append, ← List.map_append]
  rfl

/-- Texts that are joined are split as each of them is, if no comma in them ends an entry before the last. -/
theorem splitSettings_intercalate {entries : List (List Char)}
    (passed : ∀ entry ∈ entries.dropLast, Nesting.passAll? {} entry = some {}) :
    splitSettings ([',', ' '].intercalate entries) = entries.flatMap splitSettings := by
  induction entries with
  | nil => rfl
  | cons entry rest ih =>
      cases rest with
      | nil => rw [List.intercalate_singleton, List.flatMap_singleton]
      | cons second rest =>
          rw [List.dropLast_cons_cons] at passed
          have behind := ih fun other member => passed other (List.mem_cons_of_mem entry member)
          rw [List.intercalate_cons_cons, List.append_assoc, List.cons_append,
            splitSettings_comma (passed entry List.mem_cons_self), List.singleton_append,
            splitSettings_space, behind]
          rfl

/-- A text in which no comma ends an entry is one entry, even if it leaves something open. -/
theorem splitSettings_of_passAll? {text : List Char} {after : Nesting}
    (passed : Nesting.passAll? {} text = some after) :
    splitSettings text = if trim text = [] then [] else [trim text] := by
  have alone := Nesting.pieces_append passed []
  rw [List.append_nil] at alone
  rw [splitSettings, alone]
  by_cases nothing : trim text = [] <;> simp [Nesting.pieces, nothing]

theorem splitSettings_of_passed {entry : List Char} {after : Nesting}
    (passed : Nesting.passAll? {} entry = some after) (nonempty : entry ≠ []) (trimmed : IsTrimmed entry) :
    splitSettings entry = [entry] := by
  rw [splitSettings_of_passAll? passed, trim_of_isTrimmed trimmed, if_neg nonempty]

theorem IsEntry.splitSettings_eq {entry : List Char} (isEntry : IsEntry entry) :
    splitSettings entry = [entry] :=
  splitSettings_of_passed isEntry.passed isEntry.nonempty isEntry.trimmed

theorem splitSettings_join_of_passed {settings : List String}
    (passed : ∀ setting ∈ settings, Nesting.passAll? {} setting.toList = some {}) :
    splitSettings (join ", " settings).toList =
      settings.flatMap fun setting => splitSettings setting.toList := by
  have each : ∀ entry ∈ settings.map String.toList, Nesting.passAll? {} entry = some {} := by
    intro entry member
    obtain ⟨setting, listed, rfl⟩ := List.mem_map.mp member
    exact passed setting listed
  rw [join, String.toList_ofList]
  have splits := splitSettings_intercalate fun entry member => each entry (List.dropLast_subset _ member)
  exact splits.trans (List.flatMap_map _ _ _)

/-- Entries that are joined come apart again. -/
theorem splitSettings_join {settings : List String}
    (entries : ∀ setting ∈ settings, IsEntry setting.toList) :
    splitSettings (join ", " settings).toList = settings.map String.toList := by
  rw [splitSettings_join_of_passed fun setting member => (entries setting member).passed,
    List.flatMap_def, List.map_congr_left fun setting member => (entries setting member).splitSettings_eq]
  exact List.flatMap_pure_eq_map String.toList settings

theorem Setting.readAll_join_of_passed {settings : List String}
    (passed : ∀ setting ∈ settings, Nesting.passAll? {} setting.toList = some {}) :
    Setting.readAll (join ", " settings).toList =
      settings.flatMap fun setting => Setting.readAll setting.toList := by
  rw [readAll, splitSettings_join_of_passed passed, List.map_flatMap]
  rfl

theorem Setting.readAll_join {settings : List String}
    (entries : ∀ setting ∈ settings, IsEntry setting.toList) :
    Setting.readAll (join ", " settings).toList =
      settings.map fun setting => Setting.read setting.toList := by
  rw [readAll, splitSettings_join entries, List.map_map]
  rfl

namespace Setting

def written (key value : String) : String :=
  key ++ ": " ++ value

theorem toList_written (key value : String) :
    (written key value).toList = key.toList ++ ':' :: ' ' :: value.toList := by
  simp [written]

theorem read_flag {key : String} (noColon : ':' ∉ key.toList) (trimmed : IsTrimmed key.toList) :
    read key.toList = ⟨key, none⟩ := by
  rw [read, cutAtFirst_eq_none noColon]
  dsimp only
  rw [trim_of_isTrimmed trimmed, String.ofList_toList]

theorem read_written {key value : String} (noColon : ':' ∉ key.toList)
    (keyTrimmed : IsTrimmed key.toList) (nonempty : value.toList ≠ [])
    (valueTrimmed : IsTrimmed value.toList) : read (written key value).toList = ⟨key, value⟩ := by
  have given : value.toList.isEmpty = false := by simpa using nonempty
  rw [read, toList_written, cutAtFirst_append noColon]
  dsimp only
  rw [trim_of_isTrimmed keyTrimmed, trim_space valueTrimmed, given]
  simp

theorem isEntry_written {key value : String} (keyEntry : IsEntry key.toList)
    (valueEntry : IsEntry value.toList) : IsEntry (written key value).toList := by
  have separator : Nesting.passAll? {} [':', ' '] = some {} := rfl
  rw [toList_written]
  exact keyEntry.append separator valueEntry

end Setting

theorem isEntry_quote (text : List Char) : IsEntry (quote text) :=
  ⟨by simp [quote], isTrimmed_quote text, Nesting.passAll?_quote 0 text⟩

/-- A class of characters that stand in entries wherever they like. -/
structure IsPlainClass (inClass : Char → Bool) : Prop where
  noMark : (Nesting.marks.all fun mark => !inClass mark) = true
  noBlank : ∀ c, inClass c = true → isBlank c = false

namespace IsPlainClass

variable {inClass : Char → Bool} {text : List Char}

theorem not_mem_marks (plain : IsPlainClass inClass) {c : Char} (inside : inClass c = true) :
    c ∉ Nesting.marks := by
  intro mark
  have outside := List.all_eq_true.mp plain.noMark c mark
  rw [inside] at outside
  cases outside

theorem isEntry (plain : IsPlainClass inClass) (nonempty : text ≠ [])
    (inside : ∀ c ∈ text, inClass c = true) : IsEntry text := by
  refine ⟨nonempty, ⟨?_, ?_⟩, Nesting.passAll?_plain fun c member => plain.not_mem_marks (inside c member)⟩
  · exact fun c first => plain.noBlank c (inside c (List.mem_of_mem_head? first))
  · exact fun c last => plain.noBlank c (inside c (List.mem_of_mem_getLast? last))

theorem stripQuotes_eq (plain : IsPlainClass inClass) (inside : ∀ c ∈ text, inClass c = true) :
    stripQuotes text = text := by
  refine stripQuotes_of_head fun c first => ?_
  have noMark := plain.not_mem_marks (inside c (List.mem_of_mem_head? first))
  rw [Bool.eq_false_iff]
  intro quote
  rcases isQuoteMark_iff.mp quote with rfl | rfl | rfl
  · exact noMark (by simp [Nesting.marks])
  · exact noMark (by simp [Nesting.marks])
  · exact noMark (by simp [Nesting.marks])

end IsPlainClass

theorem isPlainClass_word : IsPlainClass isWord :=
  ⟨by decide, fun _ => isBlank_eq_false_of_isWord⟩

theorem isPlainClass_bareCharacter : IsPlainClass Lexeme.isBareCharacter where
  noMark := by decide
  noBlank := by
    intro c bare
    simp only [Lexeme.isBareCharacter, Bool.or_eq_true, beq_iff_eq] at bare
    rcases bare with ((word | rfl) | rfl) | rfl
    · exact isBlank_eq_false_of_isWord word
    · decide
    · decide
    · decide

theorem isPlainClass_numeral : IsPlainClass Lexeme.isNumeral where
  noMark := by decide
  noBlank := by
    intro c numeral
    rcases Bool.or_eq_true_iff.mp numeral with digit | mark
    · exact isBlank_eq_false_of_isDigit digit
    · have each : ("+-.eE".toList.all fun d => !isBlank d) = true := by decide
      simpa using List.all_eq_true.mp each c (List.contains_iff_mem.mp mark)

namespace Text

theorem collapseBlanks_of_plain {text : List Char} (plain : ∀ c ∈ text, isBlank c = false) :
    collapseBlanks false text = text := by
  induction text with
  | nil => rfl
  | cons c text ih =>
      rw [collapseBlanks, plain c List.mem_cons_self, if_neg Bool.false_ne_true,
        ih fun d member => plain d (List.mem_cons_of_mem c member)]

theorem mem_collapseBlanks {c : Char} {text : List Char} (member : c ∈ text) (plain : isBlank c = false)
    (afterBlank : Bool) : c ∈ collapseBlanks afterBlank text := by
  induction text generalizing afterBlank with
  | nil => cases member
  | cons d text ih =>
      rw [collapseBlanks]
      rcases List.mem_cons.mp member with rfl | later
      · rw [plain]
        exact List.mem_cons_self
      · split
        · split
          · exact ih later true
          · exact List.mem_cons_of_mem _ (ih later true)
        · exact List.mem_cons_of_mem _ (ih later false)

/-- What has no case is left as it is. -/
theorem mem_lower {c : Char} {text : List Char} (member : c ∈ text) (ascii : c.toNat < 128)
    (caseless : c.toLower = c) : c ∈ lower text := by
  have noSigma : c ≠ capitalSigma := by
    rintro rfl
    exact absurd ascii (by decide)
  have kept : ∀ before, c ∈ lowerAfter before text := by
    induction text with
    | nil => cases member
    | cons d text ih =>
        intro before
        rw [lowerAfter]
        rcases List.mem_cons.mp member with rfl | later
        · refine List.mem_append_left _ ?_
          rw [if_neg noSigma, lowerChar, if_pos ascii, caseless]
          exact List.mem_singleton_self _
        · exact List.mem_append_right _ (ih later _)
  exact kept []

theorem isBlank_toLower {c : Char} (part : Lexeme.isIdentifierPart c = true) :
    isBlank c.toLower = false := by
  have each : ∀ code < 128, Lexeme.isIdentifierPart (Char.ofNat code) = true →
      isBlank (Char.ofNat code).toLower = false := by
    decide +kernel
  have found := each c.toNat (Lexeme.toNat_lt_of_isIdentifierPart part)
  rw [Char.ofNat_toNat] at found
  exact found part

theorem isBlank_of_mem_lowerAfter {text : List Char}
    (parts : ∀ c ∈ text, Lexeme.isIdentifierPart c = true) (before : List Char) :
    ∀ c ∈ lowerAfter before text, isBlank c = false := by
  induction text generalizing before with
  | nil => simp [lowerAfter]
  | cons c text ih =>
      have part := parts c List.mem_cons_self
      have noSigma : c ≠ capitalSigma := by
        intro sigma
        rw [sigma] at part
        exact absurd part (by decide)
      have lowered : lowerChar c = [c.toLower] := by
        rw [lowerChar, if_pos (Lexeme.toNat_lt_of_isIdentifierPart part)]
      intro d member
      rw [lowerAfter, if_neg noSigma, lowered] at member
      rcases List.mem_append.mp member with first | later
      · rw [List.mem_singleton.mp first]
        exact isBlank_toLower part
      · exact ih (fun e among => parts e (List.mem_cons_of_mem c among)) _ d later

end Text

theorem Setting.name_of_parts (setting : Setting)
    (parts : ∀ c ∈ setting.key.toList, Lexeme.isIdentifierPart c = true) :
    setting.name = String.ofList (lower setting.key.toList) := by
  rw [name, lower, collapseBlanks_of_plain (isBlank_of_mem_lowerAfter parts [])]

theorem Setting.mem_name {setting : Setting} {c : Char} (member : c ∈ setting.key.toList)
    (plain : isBlank c = false) (ascii : c.toNat < 128) (caseless : c.toLower = c) :
    c ∈ setting.name.toList := by
  rw [name, String.toList_ofList]
  exact mem_collapseBlanks (mem_lower member ascii caseless) plain false

/-- What stands in front of all marks belongs to the key of a setting. -/
theorem Setting.exists_key_front {front : List Char} (plain : ∀ c ∈ front, c ∉ Nesting.marks ∧ c ≠ ':')
    (nonempty : front ≠ []) (trimmed : IsTrimmed front) (rest : List Char) :
    ∃ setting ∈ readAll (front ++ rest), front <+: setting.key.toList := by
  obtain ⟨piece, more, pieces⟩ := List.exists_cons_of_ne_nil (Nesting.pieces_ne_nil {} rest)
  have cut : Nesting.pieces {} (front ++ rest) = (front ++ piece) :: more := by
    rw [Nesting.pieces_append (Nesting.passAll?_plain fun c member => (plain c member).1), pieces]
    rfl
  have first : front ++ trimEnd piece ∈ splitSettings (front ++ rest) := by
    rw [splitSettings, cut, List.map_cons, trim_append_of_front nonempty trimmed]
    exact List.mem_filter.mpr ⟨List.mem_cons_self, by simp [nonempty]⟩
  refine ⟨_, List.mem_map_of_mem first, ?_⟩
  have noColon : ':' ∉ front := fun member => (plain _ member).2 rfl
  rw [read, cutAtFirst_append_of_absent noColon]
  cases cutAtFirst ':' (trimEnd piece) with
  | none =>
      dsimp only [Option.map_none]
      rw [String.toList_ofList, trim_append_of_front nonempty trimmed]
      exact List.prefix_append _ _
  | some parts =>
      dsimp only [Option.map_some]
      rw [String.toList_ofList, trim_append_of_front nonempty trimmed]
      exact List.prefix_append _ _

end TableScript
