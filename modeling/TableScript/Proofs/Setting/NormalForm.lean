import TableScript.Proofs.Quotation

/-! Cutting a settings list and joining what it is cut into. No entry is cut any further, and every entry but
the last closes the quotes and parentheses that it opens. Lists of this kind come apart as they were joined,
so cutting is the way back from joining, and joining and cutting again changes nothing. -/

namespace TableScript

open Text

variable {text blanks content entry : List Char} {entries second : List (List Char)}

/-- Whatever span the scan is inside, a quote mark opened it. -/
def Text.QuoteScan.IsOpenedByMark (scan : QuoteScan) : Prop :=
  ∀ mark escaped, scan = .inside mark escaped → isQuoteMark mark = true

namespace Text.QuoteScan

variable {scan : QuoteScan}

theorem IsOpenedByMark.next (opened : scan.IsOpenedByMark) (c : Char) : (scan.next c).IsOpenedByMark := by
  intro mark escaped inside
  cases scan with
  | outside =>
      rw [QuoteScan.next] at inside
      split at inside
      · cases inside
        assumption
      · cases inside
  | inside other behindBackslash =>
      suffices same : other = mark from same ▸ opened other behindBackslash rfl
      cases behindBackslash with
      | true =>
          cases inside
          rfl
      | false =>
          rw [QuoteScan.next] at inside
          repeat' split at inside
          all_goals cases inside
          all_goals rfl

theorem isOpenedByMark_run (text : List Char) : (QuoteScan.outside.run text).IsOpenedByMark := by
  have before : QuoteScan.outside.IsOpenedByMark := fun _ _ inside => by cases inside
  exact List.foldlRecOn text _ before fun _ opened c _ => opened.next c

/-- A blank ends no span. -/
theorem eq_outside_of_next_blank {c : Char} (opened : scan.IsOpenedByMark) (blank : isBlank c = true)
    (left : scan.next c = .outside) : scan = .outside := by
  cases scan with
  | outside => rfl
  | inside mark escaped =>
      have other : c ≠ mark := by
        rintro rfl
        have each : ∀ mark, isQuoteMark mark = true → isBlank mark = false := by
          intro mark marked
          rcases isQuoteMark_iff.mp marked with rfl | rfl | rfl <;> decide
        rw [each c (opened c escaped rfl)] at blank
        cases blank
      cases escaped with
      | true => cases left
      | false =>
          rw [QuoteScan.next, if_neg other] at left
          split at left <;> cases left

end Text.QuoteScan

namespace Nesting

variable {nesting after : Nesting} {c : Char}

/-- Behind the text nothing is open. -/
def IsClosedBehind (text : List Char) : Prop :=
  text.foldl next {} = {}

theorem foldl_next_of_passAll? (passed : nesting.passAll? text = some after) :
    text.foldl next nesting = after := by
  induction text generalizing nesting with
  | nil => exact Option.some.inj passed
  | cons c text ih =>
      rw [passAll?_cons, pass?] at passed
      split at passed
      · cases passed
      · exact ih passed

theorem not_mem_marks_of_isBlank (blank : isBlank c = true) : c ∉ marks := by
  intro mark
  have each : (marks.all fun mark => !isBlank mark) = true := by decide
  simpa [blank] using List.all_eq_true.mp each c mark

theorem depth_next_of_isBlank (nesting : Nesting) (blank : isBlank c = true) :
    (nesting.next c).depth = nesting.depth := by
  have noMark := not_mem_marks_of_isBlank blank
  simp only [marks, List.mem_cons, List.not_mem_nil, or_false, not_or] at noMark
  obtain ⟨_, _, _, noOpen, noClose, _⟩ := noMark
  unfold next
  split
  · rw [if_neg noOpen, if_neg noClose]
  · rfl

/-- Blanks close nothing: if nothing is open behind them, nothing was open in front of them. -/
theorem eq_of_passAll?_blanks (opened : nesting.quotes.IsOpenedByMark)
    (blank : ∀ c ∈ blanks, isBlank c = true) (passed : nesting.passAll? blanks = some {}) :
    nesting = {} := by
  induction blanks generalizing nesting with
  | nil => exact Option.some.inj passed
  | cons c blanks ih =>
      have isBlank := blank c List.mem_cons_self
      rw [passAll?_cons, pass?] at passed
      split at passed
      · cases passed
      · have behind : nesting.next c = {} := by
          refine ih ?_ (fun d member => blank d (List.mem_cons_of_mem c member)) passed
          rw [quotes_next]
          exact opened.next c
        have outside : nesting.quotes = .outside := by
          refine QuoteScan.eq_outside_of_next_blank opened isBlank ?_
          rw [← quotes_next, behind]
        have top : nesting.depth = 0 := by
          rw [← depth_next_of_isBlank nesting isBlank, behind]
        exact congrArg₂ Nesting.mk outside top

/-- Without the blanks around it a text is passed as well, and it closes what it closes with them. -/
theorem exists_passAll?_trim (passed : passAll? {} text = some after) :
    ∃ reached, passAll? {} (trim text) = some reached ∧ (after = {} → reached = {}) := by
  have begins : text.takeWhile isBlank ++ trimStart text = text := List.takeWhile_append_dropWhile
  have front : passAll? {} (text.takeWhile isBlank) = some {} :=
    passAll?_plain fun c member => not_mem_marks_of_isBlank (List.mem_takeWhile_imp member)
  rw [← begins, passAll?_append, front, Option.bind_some] at passed
  obtain ⟨blanks, ended, blank⟩ := exists_eq_trimEnd_append (trimStart text)
  rw [ended, passAll?_append] at passed
  obtain ⟨reached, inside, behind⟩ := Option.bind_eq_some_iff.mp passed
  refine ⟨reached, inside, fun closed => eq_of_passAll?_blanks ?_ blank (closed ▸ behind)⟩
  rw [← foldl_next_of_passAll? inside, quotes_foldl_next]
  exact QuoteScan.isOpenedByMark_run _

end Nesting

/-- A settings list is a text in which no comma ends an entry, or it begins with a closed text of that kind
and the comma behind it. -/
theorem settingsList_induction {motive : List Char → Prop}
    (single : ∀ text after, Nesting.passAll? {} text = some after → motive text)
    (comma : ∀ front behind, Nesting.passAll? {} front = some {} → motive behind →
      motive (front ++ ',' :: behind))
    (content : List Char) : motive content := by
  induction length : content.length using Nat.strong_induction_on generalizing content with
  | _ count ih =>
      cases passed : Nesting.passAll? {} content with
      | some after => exact single content after passed
      | none =>
          obtain ⟨front, after, behind, rfl, frontPassed, top⟩ :=
            Nesting.exists_of_passAll?_eq_none passed
          rw [Nesting.eq_of_isTop top] at frontPassed
          refine comma front behind frontPassed (ih behind.length ?_ behind rfl)
          rw [← length, List.length_append, List.length_cons]
          omega

theorem length_le_of_mem_splitSettings (member : entry ∈ splitSettings content) :
    entry.length ≤ content.length := by
  induction content using settingsList_induction with
  | single text after passed =>
      rw [splitSettings_of_passAll? passed] at member
      split at member
      · cases member
      · rw [List.mem_singleton.mp member]
        exact (trim_isInfix text).length_le
  | comma front behind passed ih =>
      rw [splitSettings_comma passed, splitSettings_of_passAll? passed] at member
      rw [List.length_append, List.length_cons]
      rcases List.mem_append.mp member with inFront | isBehind
      · split at inFront
        · cases inFront
        · rw [List.mem_singleton.mp inFront]
          have inside := (trim_isInfix front).length_le
          omega
      · have inside := ih isBehind
        omega

theorem ne_nil_and_isTrimmed_of_mem_splitSettings (member : entry ∈ splitSettings content) :
    entry ≠ [] ∧ IsTrimmed entry := by
  obtain ⟨among, nonempty⟩ := List.mem_filter.mp member
  obtain ⟨piece, _, rfl⟩ := List.mem_map.mp among
  exact ⟨by simpa using nonempty, isTrimmed_trim piece⟩

/-- A text is cut into itself alone exactly if it has no blanks around it, is not empty, and no comma in it
ends an entry. -/
theorem splitSettings_eq_self_iff :
    splitSettings text = [text] ↔
      text ≠ [] ∧ IsTrimmed text ∧ ∃ after, Nesting.passAll? {} text = some after := by
  constructor
  · intro alone
    have among : text ∈ splitSettings text := by
      rw [alone]
      exact List.mem_singleton_self text
    obtain ⟨nonempty, trimmed⟩ := ne_nil_and_isTrimmed_of_mem_splitSettings among
    refine ⟨nonempty, trimmed, ?_⟩
    cases passed : Nesting.passAll? {} text with
    | some after => exact ⟨after, rfl⟩
    | none =>
        -- Both sides of a comma that ends an entry are shorter than the text.
        obtain ⟨front, after, behind, rfl, frontPassed, top⟩ := Nesting.exists_of_passAll?_eq_none passed
        rw [Nesting.eq_of_isTop top] at frontPassed
        rw [splitSettings_comma frontPassed] at among
        rcases List.mem_append.mp among with inside | inside
        all_goals
          have bound := length_le_of_mem_splitSettings inside
          rw [List.length_append, List.length_cons] at bound
          omega
  · rintro ⟨nonempty, trimmed, after, passed⟩
    exact splitSettings_of_passed passed nonempty trimmed

/-- The entries that a settings list may be cut into: none is cut any further, and behind each but the last
nothing is open. -/
structure AreSettings (entries : List (List Char)) : Prop where
  alone : ∀ entry ∈ entries, splitSettings entry = [entry]
  closed : ∀ entry ∈ entries.dropLast, Nesting.IsClosedBehind entry

namespace AreSettings

theorem append (first : AreSettings entries) (closed : ∀ entry ∈ entries, Nesting.IsClosedBehind entry)
    (rest : AreSettings second) : AreSettings (entries ++ second) where
  alone := by
    intro entry member
    exact (List.mem_append.mp member).elim (first.alone entry) (rest.alone entry)
  closed := by
    intro entry member
    cases second with
    | nil =>
        rw [List.append_nil] at member
        exact first.closed entry member
    | cons other more =>
        rw [List.dropLast_append_of_ne_nil (List.cons_ne_nil other more)] at member
        exact (List.mem_append.mp member).elim (closed entry) (rest.closed entry)

theorem of_trim {after : Nesting} (passed : Nesting.passAll? {} text = some after) :
    AreSettings (if trim text = [] then [] else [trim text]) := by
  split
  · exact ⟨by simp, by simp⟩
  · rename_i nonempty
    obtain ⟨reached, inside, _⟩ := Nesting.exists_passAll?_trim passed
    have alone := splitSettings_of_passed inside nonempty (isTrimmed_trim text)
    exact ⟨by simpa using alone, by simp⟩

/-- Whatever the text, it is cut into entries of this kind. -/
theorem of_splitSettings (content : List Char) : AreSettings (splitSettings content) := by
  induction content using settingsList_induction with
  | single text after passed =>
      rw [splitSettings_of_passAll? passed]
      exact of_trim passed
  | comma front behind passed ih =>
      rw [splitSettings_comma passed, splitSettings_of_passAll? passed]
      refine (of_trim passed).append ?_ ih
      intro entry member
      split at member
      · cases member
      · obtain ⟨reached, inside, closed⟩ := Nesting.exists_passAll?_trim passed
        rw [closed rfl] at inside
        rw [List.mem_singleton.mp member]
        exact Nesting.foldl_next_of_passAll? inside

theorem splitSettings_intercalate (settings : AreSettings entries) :
    splitSettings ([',', ' '].intercalate entries) = entries := by
  have passed : ∀ entry ∈ entries.dropLast, Nesting.passAll? {} entry = some {} := by
    intro entry member
    obtain ⟨_, _, after, inside⟩ :=
      splitSettings_eq_self_iff.mp (settings.alone entry (List.dropLast_subset entries member))
    rwa [← Nesting.foldl_next_of_passAll? inside, settings.closed entry member] at inside
  rw [TableScript.splitSettings_intercalate passed, List.flatMap_def,
    List.map_congr_left settings.alone]
  exact (List.flatMap_pure_eq_map id entries).trans (List.map_id entries)

end AreSettings

/-- Cutting a settings list gives entries in their normal form and is the way back from joining them. Whatever
the text, each entry is not empty, has no blanks around it and is cut into itself alone, behind each but the
last nothing is open, and the entries come apart again when they are joined. And each list of entries that
are cut into themselves alone, where nothing is open behind any but the last, is what its joined text is cut
into. -/
theorem splitSettings_normalForm :
    (∀ content : List Char,
      (∀ entry ∈ splitSettings content,
        entry ≠ [] ∧ trim entry = entry ∧ splitSettings entry = [entry]) ∧
      (∀ entry ∈ (splitSettings content).dropLast, entry.foldl Nesting.next {} = {}) ∧
      splitSettings ([',', ' '].intercalate (splitSettings content)) = splitSettings content) ∧
    ∀ entries : List (List Char),
      (∀ entry ∈ entries, splitSettings entry = [entry]) →
      (∀ entry ∈ entries.dropLast, entry.foldl Nesting.next {} = {}) →
      splitSettings ([',', ' '].intercalate entries) = entries := by
  refine ⟨fun content => ?_, fun entries alone closed => ?_⟩
  · have settings := AreSettings.of_splitSettings content
    refine ⟨fun entry member => ?_, settings.closed, settings.splitSettings_intercalate⟩
    obtain ⟨nonempty, trimmed⟩ := ne_nil_and_isTrimmed_of_mem_splitSettings member
    exact ⟨nonempty, trim_of_isTrimmed trimmed, settings.alone entry member⟩
  · exact AreSettings.splitSettings_intercalate ⟨alone, closed⟩

/-- A parenthesis that closes nothing and, in the last entry, quotes that are never closed and a backslash at
the very end. -/
theorem splitSettings_normalForm_openEnd :
    (∀ entry ∈ ["pk", "a)", "default: fn(1, 2)", "note: 'x, \\"].map String.toList,
      splitSettings entry = [entry]) ∧
    (∀ entry ∈ (["pk", "a)", "default: fn(1, 2)", "note: 'x, \\"].map String.toList).dropLast,
      entry.foldl Nesting.next {} = {}) ∧
    splitSettings "pk, a), default: fn(1, 2), note: 'x, \\".toList =
      ["pk", "a)", "default: fn(1, 2)", "note: 'x, \\"].map String.toList := by
  have alone : ∀ entry ∈ ["pk", "a)", "default: fn(1, 2)", "note: 'x, \\"].map String.toList,
      splitSettings entry = [entry] := by
    decide
  have closed : ∀ entry ∈ (["pk", "a)", "default: fn(1, 2)", "note: 'x, \\"].map String.toList).dropLast,
      entry.foldl Nesting.next {} = {} := by
    decide
  exact ⟨alone, closed, splitSettings_normalForm.2 _ alone closed⟩

end TableScript
