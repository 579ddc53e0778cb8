import Mathlib.Data.List.Basic
import TableScript.Proofs.Text.Character
import TableScript.Text.Cut

namespace TableScript.Text

variable {mark : Char} {text before behind : List Char}

theorem not_mem_of_mem_splitOn {piece : List Char} (member : piece ∈ text.splitOn mark) :
    mark ∉ piece := by
  induction text generalizing piece with
  | nil =>
      have empty : piece = [] := by simpa [List.splitOn_eq_splitOnP] using member
      simp [empty]
  | cons c rest ih =>
      rw [List.splitOn_cons_eq_if_modifyHead] at member
      split at member
      · rcases List.mem_cons.mp member with rfl | later
        · simp
        · exact ih later
      · rename_i different
        cases pieces : rest.splitOn mark with
        | nil => exact absurd pieces (List.splitOn_ne_nil mark rest)
        | cons first more =>
            rw [pieces] at ih
            rw [pieces, List.modifyHead_cons] at member
            rcases List.mem_cons.mp member with rfl | later
            · have other : ¬ mark = c := fun same => different (by simp [same])
              simpa [other] using ih List.mem_cons_self
            · exact ih (List.mem_cons_of_mem first later)

/-- Lines that are joined with line feeds come apart again. -/
theorem splitOn_join {lines : List String} (nonempty : lines ≠ [])
    (oneLine : ∀ line ∈ lines, '\n' ∉ line.toList) :
    (join "\n" lines).toList.splitOn '\n' = lines.map String.toList := by
  rw [join, String.toList_ofList]
  refine List.splitOn_intercalate '\n' ?_ (by simpa using nonempty)
  intro chars member
  obtain ⟨line, listed, rfl⟩ := List.mem_map.mp member
  exact oneLine line listed

/-- Joining fewer of the pieces gives a front of what joining all of them gives. -/
theorem intercalate_take_prefix (separator : List Char) (count : Nat) (pieces : List (List Char)) :
    separator.intercalate (pieces.take count) <+: separator.intercalate pieces := by
  induction pieces generalizing count with
  | nil => simp
  | cons piece pieces ih =>
      cases count with
      | zero => simp
      | succ count =>
          cases pieces with
          | nil => simp
          | cons next pieces =>
              cases count with
              | zero => simp [List.intercalate]
              | succ count =>
                  have behind := ih (count + 1)
                  simp only [List.take_succ_cons, List.intercalate_cons_cons] at behind ⊢
                  exact (List.prefix_append_right_inj _).mpr behind

theorem cutAtLast_eq_none (absent : mark ∉ text) : cutAtLast mark text = none := by
  induction text with
  | nil => rfl
  | cons c rest ih =>
      have different : c ≠ mark := fun same => absent (by simp [same])
      have later : mark ∉ rest := fun member => absent (List.mem_cons_of_mem c member)
      simp only [cutAtLast, ih later, if_neg different]

theorem cutAtLast_append (last : mark ∉ behind) :
    cutAtLast mark (before ++ mark :: behind) = some (before, behind) := by
  induction before with
  | nil => simp [cutAtLast, cutAtLast_eq_none last]
  | cons c before ih => simp only [List.cons_append, cutAtLast, ih]

theorem eq_append_of_cutAtLast (cut : cutAtLast mark text = some (before, behind)) :
    text = before ++ mark :: behind := by
  induction text generalizing before with
  | nil => cases cut
  | cons c rest ih =>
      rw [cutAtLast] at cut
      cases later : cutAtLast mark rest with
      | some pair =>
          rw [later] at cut
          cases cut
          rw [ih later, List.cons_append]
      | none =>
          simp only [later] at cut
          split at cut
          · rename_i same
            cases cut
            rw [same, List.nil_append]
          · cases cut

theorem not_mem_of_cutAtLast (uncut : cutAtLast mark text = none) : mark ∉ text := by
  induction text with
  | nil => exact List.not_mem_nil
  | cons c rest ih =>
      rw [cutAtLast] at uncut
      split at uncut
      · cases uncut
      · rename_i later
        split at uncut
        · cases uncut
        · rename_i other
          exact fun member => (List.mem_cons.mp member).elim (fun same => other same.symm) (ih later)

theorem exists_eq_append_cons_of_mem (member : mark ∈ text) :
    ∃ before behind, text = before ++ mark :: behind ∧ mark ∉ behind := by
  obtain ⟨after, before, reversed, absent⟩ := List.eq_append_cons_of_mem (List.mem_reverse.mpr member)
  exact ⟨before.reverse, after.reverse, by simpa using congrArg List.reverse reversed, by simpa using absent⟩

theorem cutAtLast_append_of_some {tail : List Char}
    (cut : cutAtLast mark text = some (before, behind)) (absent : mark ∉ tail) :
    cutAtLast mark (text ++ tail) = some (before, behind ++ tail) := by
  induction text generalizing before with
  | nil => cases cut
  | cons c rest ih =>
      rw [cutAtLast] at cut
      rw [List.cons_append, cutAtLast]
      cases later : cutAtLast mark rest with
      | some pair =>
          rw [later] at cut
          cases cut
          rw [ih later]
      | none =>
          rw [later] at cut
          have nowhere : cutAtLast mark (rest ++ tail) = none :=
            cutAtLast_eq_none fun member =>
              (List.mem_append.mp member).elim (not_mem_of_cutAtLast later) absent
          rw [nowhere]
          dsimp only at cut ⊢
          split at cut
          · cases cut
            rw [if_pos (by assumption)]
          · cases cut

theorem cutAtFirst_append (first : mark ∉ before) :
    cutAtFirst mark (before ++ mark :: behind) = some (before, behind) := by
  induction before with
  | nil => simp [cutAtFirst]
  | cons c before ih =>
      have different : c ≠ mark := fun same => first (by simp [same])
      have later : mark ∉ before := fun member => first (List.mem_cons_of_mem c member)
      simp [cutAtFirst, different, ih later]

theorem cutAtFirst_append_of_absent {front : List Char} (absent : mark ∉ front) (text : List Char) :
    cutAtFirst mark (front ++ text) =
      (cutAtFirst mark text).map fun (before, behind) => (front ++ before, behind) := by
  induction front with
  | nil => cases cut : cutAtFirst mark text <;> simp [cut]
  | cons c front ih =>
      have different : c ≠ mark := fun same => absent (by simp [same])
      rw [List.cons_append, cutAtFirst, if_neg different,
        ih fun member => absent (List.mem_cons_of_mem c member), Option.map_map]
      rfl

theorem cutAtFirst_eq_none (absent : mark ∉ text) : cutAtFirst mark text = none := by
  induction text with
  | nil => rfl
  | cons c rest ih =>
      have different : c ≠ mark := fun same => absent (by simp [same])
      have later : mark ∉ rest := fun member => absent (List.mem_cons_of_mem c member)
      simp [cutAtFirst, different, ih later]

theorem eq_append_of_cutAtFirst (cut : cutAtFirst mark text = some (before, behind)) :
    text = before ++ mark :: behind := by
  induction text generalizing before with
  | nil => cases cut
  | cons c rest ih =>
      rw [cutAtFirst] at cut
      split at cut
      · rename_i same
        cases cut
        rw [same, List.nil_append]
      · obtain ⟨⟨front, back⟩, later, same⟩ := Option.map_eq_some_iff.mp cut
        cases same
        rw [ih later, List.cons_append]

theorem dropWhile_run {inClass : Char → Bool} (inside : ∀ c ∈ before, inClass c = true)
    (ends : ∀ c ∈ behind.head?, inClass c = false) :
    (before ++ behind).dropWhile inClass = behind := by
  rw [List.dropWhile_append_of_pos inside]
  cases behind with
  | nil => rfl
  | cons c rest => rw [List.dropWhile_cons_of_neg (by simp [ends c rfl])]

theorem takeWhile_run {inClass : Char → Bool} (inside : ∀ c ∈ before, inClass c = true)
    (ends : ∀ c ∈ behind.head?, inClass c = false) :
    (before ++ behind).takeWhile inClass = before := by
  rw [List.takeWhile_append_of_pos inside]
  cases behind with
  | nil => simp
  | cons c rest => rw [List.takeWhile_cons_of_neg (by simp [ends c rfl]), List.append_nil]

/-- Where a run ends inside a text, what stands behind the text does not belong to it. -/
theorem dropWhile_append_of_left {inClass : Char → Bool} (left : text.dropWhile inClass ≠ [])
    (tail : List Char) : (text ++ tail).dropWhile inClass = text.dropWhile inClass ++ tail := by
  rw [List.dropWhile_append, if_neg (by simpa using left)]

theorem takeWhile_append_of_left {inClass : Char → Bool} (left : text.dropWhile inClass ≠ [])
    (tail : List Char) : (text ++ tail).takeWhile inClass = text.takeWhile inClass := by
  have whole := List.takeWhile_append_dropWhile (p := inClass) (l := text ++ tail)
  rw [dropWhile_append_of_left left, ← List.append_assoc] at whole
  exact List.append_cancel_right
    ((List.append_cancel_right whole).trans List.takeWhile_append_dropWhile.symm)

/-- No blank stands at either end. -/
def IsTrimmed (text : List Char) : Prop :=
  (∀ c ∈ text.head?, isBlank c = false) ∧ ∀ c ∈ text.getLast?, isBlank c = false

instance (text : List Char) : Decidable (IsTrimmed text) :=
  decidable_of_iff
    ((text.head?.all fun c => !isBlank c) = true ∧ (text.getLast?.all fun c => !isBlank c) = true)
    (by simp [IsTrimmed, Option.all_eq_true])

theorem trimStart_suffix (text : List Char) : trimStart text <:+ text :=
  List.dropWhile_suffix isBlank

theorem trimEnd_isPrefix (text : List Char) : trimEnd text <+: text := by
  have suffix := List.dropWhile_suffix (l := text.reverse) isBlank
  have reversed := List.reverse_prefix.mpr suffix
  rwa [List.reverse_reverse] at reversed

theorem isBlank_getLast?_trimEnd (text : List Char) : ∀ c ∈ (trimEnd text).getLast?, isBlank c = false := by
  intro c last
  have stops := List.head?_dropWhile_not isBlank text.reverse
  rw [trimEnd, Option.mem_def, List.getLast?_reverse] at last
  rw [last] at stops
  exact stops

theorem exists_eq_trimEnd_append (text : List Char) :
    ∃ blanks, text = trimEnd text ++ blanks ∧ ∀ c ∈ blanks, isBlank c = true := by
  refine ⟨(text.reverse.takeWhile isBlank).reverse, ?_, fun c member => ?_⟩
  · rw [trimEnd, ← List.reverse_append, List.takeWhile_append_dropWhile, List.reverse_reverse]
  · exact List.mem_takeWhile_imp (List.mem_reverse.mp member)

theorem mem_trimEnd {c : Char} (member : c ∈ text) (plain : isBlank c = false) : c ∈ trimEnd text := by
  obtain ⟨blanks, ended, blank⟩ := exists_eq_trimEnd_append text
  rw [ended] at member
  refine (List.mem_append.mp member).resolve_right fun among => ?_
  rw [blank c among] at plain
  cases plain

theorem mem_of_mem_trim {c : Char} (member : c ∈ trim text) : c ∈ text :=
  (trimStart_suffix text).subset ((trimEnd_isPrefix _).subset member)

theorem trim_isInfix (text : List Char) : trim text <:+: text :=
  (trimEnd_isPrefix (trimStart text)).isInfix.trans (trimStart_suffix text).isInfix

theorem isTrimmed_trim (text : List Char) : IsTrimmed (trim text) := by
  refine ⟨fun c first => ?_, isBlank_getLast?_trimEnd (trimStart text)⟩
  · obtain ⟨rest, whole⟩ := trimEnd_isPrefix (trimStart text)
    have begins : (trimStart text).head? = some c := by
      rw [← whole]
      exact List.mem_head?_append_of_mem_head? first
    have stops := List.head?_dropWhile_not isBlank text
    rw [← trimStart, begins] at stops
    exact stops

/-- What is left without the blanks stands behind those at the beginning. -/
theorem getElem?_indent (text : List Char) {place : Nat} (inside : place < (trim text).length) :
    text[text.length - (trimStart text).length + place]? = (trim text)[place]? := by
  obtain ⟨blanks, start⟩ := trimStart_suffix text
  obtain ⟨rest, ending⟩ := trimEnd_isPrefix (trimStart text)
  have indent : text.length - (trimStart text).length = blanks.length := by
    have length := congrArg List.length start
    rw [List.length_append] at length
    omega
  calc text[text.length - (trimStart text).length + place]?
      = (blanks ++ trimStart text)[blanks.length + place]? := by rw [start, indent]
    _ = (trim text ++ rest)[place]? := by
        rw [List.getElem?_append_right (Nat.le_add_right _ _), Nat.add_sub_cancel_left, trim, ending]
    _ = (trim text)[place]? := List.getElem?_append_left inside

theorem trimStart_of_head {c : Char} {rest : List Char} (plain : isBlank c = false) :
    trimStart (c :: rest) = c :: rest := by
  simp [trimStart, plain]

theorem trimStart_append (blank : ∀ c ∈ before, isBlank c = true) (text : List Char) :
    trimStart (before ++ text) = trimStart text :=
  List.dropWhile_append_of_pos blank

theorem trimStart_space (text : List Char) : trimStart (' ' :: text) = trimStart text :=
  List.dropWhile_cons_of_pos (by decide)

theorem trimStart_of_head? (head : ∀ c ∈ text.head?, isBlank c = false) : trimStart text = text := by
  cases text with
  | nil => rfl
  | cons c rest => exact trimStart_of_head (head c rfl)

theorem trimStart_of_isTrimmed (trimmed : IsTrimmed text) : trimStart text = text :=
  trimStart_of_head? trimmed.1

theorem trimEnd_of_last (last : ∀ c ∈ text.getLast?, isBlank c = false) : trimEnd text = text := by
  have head : ∀ c ∈ text.reverse.head?, isBlank c = false := by
    rw [List.head?_reverse]
    exact last
  rw [trimEnd]
  cases reversed : text.reverse with
  | nil => rw [List.reverse_eq_nil_iff.mp reversed]; rfl
  | cons c rest =>
      rw [reversed] at head
      rw [List.dropWhile_cons_of_neg (by simp [head c rfl]), ← reversed, List.reverse_reverse]

/-- What ends in a character that is no blank keeps everything in front of the end. -/
theorem trimEnd_append (front : List Char) (last : ∀ c ∈ front.getLast?, isBlank c = false)
    (text : List Char) : trimEnd (front ++ text) = front ++ trimEnd text := by
  have kept : trimEnd front = front := trimEnd_of_last last
  simp only [trimEnd, List.reverse_append, List.dropWhile_append] at kept ⊢
  split
  · rename_i allBlank
    rw [List.isEmpty_iff.mp allBlank, kept, List.reverse_nil, List.append_nil]
  · rw [List.reverse_append, List.reverse_reverse]

theorem trim_of_isTrimmed (trimmed : IsTrimmed text) : trim text = text := by
  rw [trim, trimStart_of_isTrimmed trimmed, trimEnd_of_last trimmed.2]

theorem trim_append (blank : ∀ c ∈ before, isBlank c = true) (trimmed : IsTrimmed text) :
    trim (before ++ text) = text := by
  rw [trim, trimStart_append blank, trimStart_of_isTrimmed trimmed, trimEnd_of_last trimmed.2]

theorem trim_append_of_front {front : List Char} (nonempty : front ≠ []) (trimmed : IsTrimmed front)
    (text : List Char) : trim (front ++ text) = front ++ trimEnd text := by
  have start : trimStart (front ++ text) = front ++ text := by
    refine trimStart_of_head? ?_
    rw [List.head?_append_of_ne_nil _ nonempty]
    exact trimmed.1
  rw [trim, start, trimEnd_append front trimmed.2]

theorem trim_space (trimmed : IsTrimmed text) : trim (' ' :: text) = text := by
  rw [trim, trimStart_space, trimStart_of_isTrimmed trimmed, trimEnd_of_last trimmed.2]

/-- The last character of two texts is that of the second or, where that is empty, of the first. -/
theorem forall_mem_getLast?_append {holds : Char → Prop} {front back : List Char}
    (first : ∀ c ∈ front.getLast?, holds c) (second : ∀ c ∈ back.getLast?, holds c) :
    ∀ c ∈ (front ++ back).getLast?, holds c := by
  rw [List.getLast?_append]
  intro c member
  rcases Option.or_eq_some_iff.mp member with inBack | ⟨_, inFront⟩
  · exact second c inBack
  · exact first c inFront

/-- The ends of a text that is put together are those of its first and its last part. -/
theorem isTrimmed_append {front back : List Char} (frontNonempty : front ≠ []) (backNonempty : back ≠ [])
    (first : ∀ c ∈ front.head?, isBlank c = false) (last : ∀ c ∈ back.getLast?, isBlank c = false) :
    IsTrimmed (front ++ back) := by
  obtain ⟨c, front, rfl⟩ := List.exists_cons_of_ne_nil frontNonempty
  refine ⟨first, ?_⟩
  rw [List.getLast?_append_of_ne_nil _ backNonempty]
  exact last

/-- Two texts differ where both go on. -/
def clash : (first second : List Char) → Bool
  | c :: first, d :: second => c != d || clash first second
  | _, _ => false

theorem after?_eq_none {word front : List Char} (differ : clash word front = true)
    (more rest : List Char) : after? (word ++ more) (front ++ rest) = none := by
  fun_induction clash word front with
  | case1 w word c front ih =>
      rw [List.cons_append, List.cons_append, after?]
      by_cases same : w = c
      · rw [if_pos same]
        rw [same, bne_self_eq_false, Bool.false_or] at differ
        exact ih differ
      · rw [if_neg same]
  | case2 => cases differ

end TableScript.Text
