import TableScript.Proofs.LineKind
import TableScript.Proofs.Read.Column
import TableScript.Proofs.SourceLine

/-! A comment behind a line: blanks, then two slashes and the rest. It belongs to the line, and yet a line
that declares a column with settings is read as the same column with it. Only a bracket that the comment
closes could be taken for the end of the settings, and only a brace at its end for one that opens a block. -/

namespace TableScript

open Text

theorem Text.after?_append_of_blank {word text tail : List Char} (plain : ∀ c ∈ word, isBlank c = false)
    (blank : ∀ c ∈ tail.head?, isBlank c = true) :
    after? word (text ++ tail) = (after? word text).map (· ++ tail) := by
  induction word generalizing text with
  | nil => rfl
  | cons w word ih =>
      obtain ⟨first, others⟩ := List.forall_mem_cons.mp plain
      cases text with
      | cons c text =>
          rw [List.cons_append, after?, after?, ih others]
          split <;> rfl
      | nil =>
          cases tail with
          | nil => rfl
          | cons c tail =>
              have other : w ≠ c := by
                rintro rfl
                rw [blank w rfl] at first
                cases first
              rw [List.nil_append, after?]
              exact if_neg other

theorem Text.trimEnd_space (text : List Char) :
    trimEnd (' ' :: text) = if trimEnd text = [] then [] else ' ' :: trimEnd text := by
  have reversed : (' ' :: text).reverse.dropWhile isBlank =
      if (text.reverse.dropWhile isBlank).isEmpty then [] else text.reverse.dropWhile isBlank ++ [' '] := by
    rw [List.reverse_cons, List.dropWhile_append]
    rfl
  simp only [trimEnd, reversed, List.reverse_eq_nil_iff, List.isEmpty_iff]
  split
  · rfl
  · exact List.reverse_concat

namespace Keyword

variable {text tail : List Char}

theorem after?_append (keyword : Keyword) (blank : ∀ c ∈ tail.head?, isBlank c = true) :
    keyword.after? (text ++ tail) = (keyword.after? text).map (· ++ tail) := by
  have plain : (keyword.capital.toList.all fun c => !isBlank c) = true ∧
      (keyword.small.toList.all fun c => !isBlank c) = true := by
    cases keyword <;> decide
  simp only [List.all_eq_true, Bool.not_eq_true'] at plain
  unfold after?
  rw [after?_append_of_blank plain.1 blank, after?_append_of_blank plain.2 blank]
  cases Text.after? keyword.capital.toList text <;> rfl

/-- A mark behind the keyword is not put there by what stands behind the line. -/
theorem precedes_append (keyword : Keyword) {mark : Char} (blank : ∀ c ∈ tail.head?, isBlank c = true)
    (other : ∀ c ∈ (trimStart tail).head?, c ≠ mark) :
    keyword.precedes mark (text ++ tail) = keyword.precedes mark text := by
  unfold precedes
  rw [keyword.after?_append blank]
  cases keyword.after? text with
  | none => rfl
  | some rest =>
      rw [Option.map_some]
      dsimp only
      by_cases left : rest.dropWhile isBlank = []
      · have blanks : ∀ c ∈ rest, isBlank c = true := List.dropWhile_eq_nil_iff.mp left
        rw [trimStart_append blanks, trimStart.eq_def rest, left]
        cases start : trimStart tail with
        | nil => rfl
        | cons c tail => simpa using other c (by rw [start]; rfl)
      · have goesOn : trimStart (rest ++ tail) = trimStart rest ++ tail := dropWhile_append_of_left left tail
        rw [goesOn]
        cases start : trimStart rest with
        | nil => exact absurd start left
        | cons c rest => rfl

end Keyword

theorem ColumnLine.resembles_append {text : List Char} (column : ColumnLine.resembles text = true)
    (tail : List Char) : ColumnLine.resembles (text ++ tail) = true := by
  unfold ColumnLine.resembles at column ⊢
  cases nameRead : ColumnName.read? text with
  | none =>
      rw [nameRead] at column
      cases column
  | some read =>
      obtain ⟨name, rest⟩ := read
      rw [nameRead] at column
      dsimp only at column
      cases blanksRead : Lexeme.afterRun? isBlank rest with
      | none =>
          rw [blanksRead] at column
          cases column
      | some type =>
          cases type with
          | nil =>
              rw [blanksRead] at column
              cases column
          | cons c type =>
              have left : rest ≠ [] := by
                rintro rfl
                cases blanksRead
              rw [ColumnName.read?_append nameRead left]
              dsimp only
              rw [Lexeme.afterRun?_append_of_left blanksRead (List.cons_ne_nil c type)]
              rfl

/-- A comment that stands behind other text: blanks, then two slashes and the rest. It closes no bracket and
does not end in an opening brace. -/
structure IsRemark (blanks remark : List Char) : Prop where
  blank : ∀ c ∈ blanks, isBlank c = true
  apart : blanks ≠ []
  slash : remark.head? = some '/'
  last : ∀ c ∈ remark.getLast?, isBlank c = false ∧ c ≠ '\x7b'
  noBracket : ']' ∉ remark

namespace IsRemark

variable {blanks remark text : List Char} {declared : ColumnLine}

theorem trimStart_eq (behind : IsRemark blanks remark) : trimStart (blanks ++ remark) = remark := by
  rw [trimStart_append behind.blank]
  refine trimStart_of_head? fun c head => ?_
  rw [behind.slash] at head
  cases head
  decide

theorem remark_ne_nil (behind : IsRemark blanks remark) : remark ≠ [] := by
  rintro rfl
  cases behind.slash

theorem head?_blank (behind : IsRemark blanks remark) :
    ∀ c ∈ (blanks ++ remark).head?, isBlank c = true := by
  rw [List.head?_append_of_ne_nil _ behind.apart]
  exact fun c head => behind.blank c (List.mem_of_mem_head? head)

theorem not_mem (behind : IsRemark blanks remark) : ']' ∉ blanks ++ remark := by
  intro member
  rcases List.mem_append.mp member with blank | inside
  · exact absurd (behind.blank _ blank) (by decide)
  · exact behind.noBracket inside

/-- The line of a column stays one. -/
theorem classify_append (behind : IsRemark blanks remark)
    (column : LineKind.classify true text = .columnLike) :
    LineKind.classify true (text ++ (blanks ++ remark)) = .columnLike := by
  have other : ∀ {mark : Char}, mark ≠ '/' → ∀ c ∈ (trimStart (blanks ++ remark)).head?, c ≠ mark := by
    intro mark different c head
    rw [behind.trimStart_eq, behind.slash] at head
    cases head
    exact different.symm
  unfold LineKind.classify LineKind.ofBody at column ⊢
  rw [Keyword.precedes_append .indexes behind.head?_blank (other (by decide)),
    Keyword.precedes_append .note behind.head?_blank (other (by decide))]
  split at column
  · cases column
  · split at column
    · cases column
    · rename_i noIndexes
      rw [if_pos rfl] at column
      split at column
      · cases column
      · rename_i noNote
        split at column
        · rename_i resembles
          have noBrace : ¬ LineKind.isBrace (text ++ (blanks ++ remark)) = true := by
            intro brace
            cases text with
            | nil => cases resembles
            | cons c text =>
                have isMark : c = '\x7b' ∨ c = '\x7d' := by
                  rw [List.cons_append, LineKind.isBrace, Bool.and_eq_true] at brace
                  simpa using brace.1
                rcases isMark with rfl | rfl <;> cases resembles
          rw [if_neg noBrace, if_neg noIndexes, if_pos rfl, if_neg noNote,
            if_pos (ColumnLine.resembles_append resembles _)]
        · cases column

theorem opensBlock_append (behind : IsRemark blanks remark) (text : List Char) :
    LineKind.opensBlock (text ++ (blanks ++ remark)) = false := by
  have last : (text ++ (blanks ++ remark)).getLast? ≠ some '\x7b' := by
    rw [← List.append_assoc, List.getLast?_append_of_ne_nil _ behind.remark_ne_nil]
    exact fun brace => (behind.last _ brace).2 rfl
  have noBrace : ((text ++ (blanks ++ remark)).getLast? == some '\x7b') = false := by simpa using last
  rw [LineKind.opensBlock, noBrace, Bool.false_and]

end IsRemark

namespace SourceLine

/-- The line with more text at its end. -/
def withTail (line : SourceLine) (tail : List Char) : SourceLine :=
  { line with text := String.ofList (line.text.toList ++ tail) }

@[simp] theorem toList_text_withTail (line : SourceLine) (tail : List Char) :
    (line.withTail tail).text.toList = line.text.toList ++ tail :=
  String.toList_ofList

/-- A comment as it is written behind a line. -/
def remark (comment : List Char) : List Char :=
  '/' :: '/' :: trimEnd (' ' :: comment)

theorem mem_remark {comment : List Char} {c : Char} (member : c ∈ comment) (plain : isBlank c = false) :
    c ∈ remark comment :=
  List.mem_cons_of_mem _ (List.mem_cons_of_mem _ (mem_trimEnd (List.mem_cons_of_mem _ member) plain))

theorem getLast?_remark {comment : List Char} {c : Char} (last : (trimEnd comment).getLast? = some c) :
    (remark comment).getLast? = some c := by
  have something : trimEnd comment ≠ [] := by
    intro nothing
    rw [nothing] at last
    cases last
  have ended : remark comment = ['/', '/', ' '] ++ trimEnd comment := by
    rw [remark, trimEnd_space, if_neg something]
    rfl
  rw [ended, List.getLast?_append_of_ne_nil _ something, last]

theorem isRemark_remark {blanks comment : List Char} (blank : ∀ c ∈ blanks, isBlank c = true)
    (apart : blanks ≠ []) (noBracket : ']' ∉ comment) (noBrace : (trimEnd comment).getLast? ≠ some '\x7b') :
    IsRemark blanks (remark comment) where
  blank := blank
  apart := apart
  slash := rfl
  noBracket := by
    intro member
    have inside : ']' ∈ trimEnd (' ' :: comment) := by simpa [remark] using member
    have within := (trimEnd_isPrefix (' ' :: comment)).subset inside
    exact noBracket (by simpa using within)
  last := by
    intro c last
    rw [remark, trimEnd_space] at last
    split at last
    · cases last
      exact ⟨by decide, by decide⟩
    · rename_i something
      rw [show '/' :: '/' :: ' ' :: trimEnd comment = ['/', '/', ' '] ++ trimEnd comment from rfl,
        List.getLast?_append_of_ne_nil _ something] at last
      exact ⟨isBlank_getLast?_trimEnd comment c last, fun brace => noBrace (brace ▸ last)⟩

/-- With a comment behind it a line of a script has blanks and the comment at its end. -/
theorem ofRaw?_comment {number : Nat} {raw : List Char} {line : SourceLine}
    (counts : ofRaw? number raw = some line) (comment : List Char) :
    ∃ blanks, blanks ≠ [] ∧ (∀ c ∈ blanks, isBlank c = true) ∧
      ofRaw? number (raw ++ ' ' :: '/' :: '/' :: ' ' :: comment) =
        some (line.withTail (blanks ++ remark comment)) := by
  obtain ⟨nonempty, noComment, text, indent⟩ := text_and_indent_of_ofRaw? counts
  obtain ⟨ending, ended, blank⟩ := exists_eq_trimEnd_append (trimStart raw)
  have blanks : ∀ c ∈ ending ++ [' '], isBlank c = true :=
    List.forall_mem_append.mpr ⟨blank, List.forall_mem_singleton.mpr (by decide)⟩
  have left : raw.dropWhile isBlank ≠ [] := by
    intro nothing
    rw [trim, trimStart, nothing] at nonempty
    exact nonempty rfl
  have start : trimStart (raw ++ ' ' :: '/' :: '/' :: ' ' :: comment) =
      trimStart raw ++ ' ' :: '/' :: '/' :: ' ' :: comment :=
    dropWhile_append_of_left left _
  have trimmed : trim (raw ++ ' ' :: '/' :: '/' :: ' ' :: comment) =
      trim raw ++ (ending ++ [' '] ++ remark comment) := by
    have behind : trimEnd (ending ++ [' ', '/', '/'] ++ ' ' :: comment) =
        ending ++ [' ', '/', '/'] ++ trimEnd (' ' :: comment) := by
      refine trimEnd_append _ (fun c last => ?_) _
      rw [List.getLast?_append_of_ne_nil _ (List.cons_ne_nil _ _)] at last
      cases last
      decide
    calc trim (raw ++ ' ' :: '/' :: '/' :: ' ' :: comment)
        = trimEnd (trim raw ++ (ending ++ [' ', '/', '/'] ++ ' ' :: comment)) := by
          rw [trim, start, ended, ← trim]
          simp
      _ = trim raw ++ trimEnd (ending ++ [' ', '/', '/'] ++ ' ' :: comment) :=
          trimEnd_append _ (isTrimmed_trim raw).2 _
      _ = trim raw ++ (ending ++ [' '] ++ remark comment) := by
          rw [behind, remark]
          simp
  have counted : isComment (trim raw ++ (ending ++ [' '] ++ remark comment)) = false := by
    have head : ∀ c ∈ (ending ++ [' '] ++ remark comment).head?, isBlank c = true := by
      rw [List.head?_append_of_ne_nil _ (by simp)]
      exact fun c head => blanks c (List.mem_of_mem_head? head)
    have plain : ∀ c ∈ ['/', '/'], isBlank c = false :=
      List.forall_mem_cons.mpr ⟨by decide, List.forall_mem_singleton.mpr (by decide)⟩
    rw [isComment, after?_append_of_blank plain head, Option.isSome_map]
    exact noComment
  refine ⟨ending ++ [' '], by simp, blanks, ?_⟩
  unfold ofRaw?
  dsimp only
  rw [trimmed, counted, start, if_neg (by simp [nonempty])]
  have sameIndent : (raw ++ ' ' :: '/' :: '/' :: ' ' :: comment).length -
      (trimStart raw ++ ' ' :: '/' :: '/' :: ' ' :: comment).length = line.indent := by
    rw [indent, List.length_append, List.length_append, Nat.add_sub_add_right]
  rw [sameIndent, ← number_of_ofRaw? counts, withTail, text, String.toList_ofList]

/-- The script with a comment behind the line of that number. -/
def withComment (script : String) (number : Nat) (comment : List Char) : String :=
  textWith script number (' ' :: '/' :: '/' :: ' ' :: comment)

theorem ofScript_withComment {script : String} {front behind : List SourceLine} {line : SourceLine}
    {comment : List Char} (lines : ofScript script = front ++ line :: behind) (oneLine : '\n' ∉ comment) :
    ∃ blanks, blanks ≠ [] ∧ (∀ c ∈ blanks, isBlank c = true) ∧
      ofScript (withComment script line.number comment) =
        front ++ line.withTail (blanks ++ remark comment) :: behind := by
  have spaced : '\n' ∉ ' ' :: '/' :: '/' :: ' ' :: comment := by simpa using oneLine
  obtain ⟨raw, counts, others⟩ := ofScript_textWith lines spaced
  obtain ⟨blanks, apart, blank, longer⟩ := ofRaw?_comment counts comment
  exact ⟨blanks, apart, blank, others _ longer⟩

end SourceLine

end TableScript
