import TableScript.Proofs.Setting

/-! A quoted text delimits itself. Whoever follows quotes is inside them from the first mark on and comes
out at the last mark and nowhere before, so braces, commas and parentheses in between count for nothing,
and what stands around a quoted text is read as it is without it. -/

namespace TableScript

open Text

namespace Text

variable {text front : List Char} {scan : QuoteScan}

namespace QuoteScan

theorem run_append (scan : QuoteScan) (first second : List Char) :
    scan.run (first ++ second) = (scan.run first).run second :=
  List.foldl_append

/-- Before its last character the text never leaves the quotes. -/
def StaysInside (scan : QuoteScan) (text : List Char) : Prop :=
  ∀ front, front <+: text → front ≠ text → scan.run front ≠ .outside

theorem StaysInside.ne_outside {c : Char} (stays : scan.StaysInside (c :: text)) : scan ≠ .outside :=
  stays [] List.nil_prefix (List.cons_ne_nil c text).symm

theorem StaysInside.next {c : Char} (stays : scan.StaysInside (c :: text)) :
    (scan.next c).StaysInside text := by
  intro front isFront proper
  refine stays (c :: front) (List.prefix_cons_inj c |>.mpr isFront) ?_
  exact fun same => proper (List.cons.inj same).2

theorem run_escapeChar (c : Char) :
    run (.inside '\'' false) (escapeChar c) = .inside '\'' false := by
  unfold escapeChar
  repeat' split
  case isFalse plain noQuote _ _ => simp [run, next, plain, noQuote]
  all_goals rfl

theorem run_front_escapeChar {c : Char} (isFront : front <+: escapeChar c) :
    run (.inside '\'' false) front ≠ .outside := by
  unfold escapeChar at isFront
  repeat' split at isFront
  case isFalse plain noQuote _ _ =>
    rcases List.prefix_cons_iff.mp isFront with rfl | ⟨behind, rfl, isEnd⟩
    · simp [run]
    · simp [List.prefix_nil.mp isEnd, run, next, plain, noQuote]
  all_goals
    rcases List.prefix_cons_iff.mp isFront with rfl | ⟨behind, rfl, isEnd⟩
    · simp [run]
    · rcases List.prefix_cons_iff.mp isEnd with rfl | ⟨last, rfl, isLast⟩
      · simp [run, next]
      · simp [List.prefix_nil.mp isLast, run, next]

theorem run_front_escape (isFront : front <+: escape text) :
    run (.inside '\'' false) front ≠ .outside := by
  induction text generalizing front with
  | nil =>
      rw [List.prefix_nil.mp isFront]
      simp [run]
  | cons c text ih =>
      have split : escape (c :: text) = escapeChar c ++ escape text := List.flatMap_cons
      rw [split] at isFront
      rcases List.prefix_or_prefix_of_prefix isFront (List.prefix_append (escapeChar c) (escape text)) with
        within | ⟨behind, rfl⟩
      · exact run_front_escapeChar within
      · rw [run_append, run_escapeChar]
        exact ih ((List.prefix_append_right_inj _).mp isFront)

theorem run_escape (text : List Char) :
    run (.inside '\'' false) (escape text) = .inside '\'' false := by
  induction text with
  | nil => rfl
  | cons c text ih =>
      have split : escape (c :: text) = escapeChar c ++ escape text := List.flatMap_cons
      rw [split, run_append, run_escapeChar, ih]

theorem run_quote (text : List Char) : run .outside (quote text) = .outside := by
  have opened : run .outside ['\''] = .inside '\'' false := rfl
  rw [quote, ← List.singleton_append, run_append, run_append, opened, run_escape]
  rfl

/-- Behind the first mark a quoted text stays inside until its last mark. -/
theorem staysInside_behindMark (text : List Char) :
    StaysInside (.inside '\'' false) (escape text ++ ['\'']) := by
  intro front isFront proper
  rcases List.prefix_concat_iff.mp isFront with whole | within
  · exact absurd whole proper
  · exact run_front_escape within

theorem run_front_quote (isFront : front <+: quote text) (nonempty : front ≠ []) :
    run .outside front = .outside ↔ front = quote text := by
  refine ⟨fun left => ?_, fun whole => whole ▸ run_quote text⟩
  rcases List.prefix_cons_iff.mp isFront with empty | ⟨behind, rfl, isBehind⟩
  · exact absurd empty nonempty
  · by_contra different
    exact staysInside_behindMark text behind isBehind (fun whole => different (by rw [whole]; rfl)) left

end QuoteScan

theorem braceBalance_append (scan : QuoteScan) (first second : List Char) :
    braceBalance scan (first ++ second) =
      braceBalance scan first + braceBalance (scan.run first) second := by
  induction first generalizing scan with
  | nil => exact (Int.zero_add _).symm
  | cons c first ih =>
      rw [List.cons_append, braceBalance, braceBalance, ih, ← Int.add_assoc]
      rfl

theorem braceBalance_of_staysInside (stays : scan.StaysInside text) : braceBalance scan text = 0 := by
  induction text generalizing scan with
  | nil => rfl
  | cons c text ih => rw [braceBalance, if_neg stays.ne_outside, ih stays.next, Int.zero_add]

theorem braceBalance_quote (text : List Char) : braceBalance .outside (quote text) = 0 := by
  have inside := braceBalance_of_staysInside (QuoteScan.staysInside_behindMark text)
  have opened : QuoteScan.outside.next '\'' = .inside '\'' false := rfl
  rw [quote, List.cons_append, braceBalance, opened, inside]
  rfl

/-- Quotes between two texts leave their braces as they count. -/
theorem braceBalance_around_quote {before : List Char} (closed : QuoteScan.outside.run before = .outside)
    (text behind : List Char) :
    braceBalance .outside (before ++ quote text ++ behind) = braceBalance .outside (before ++ behind) := by
  rw [braceBalance_append, braceBalance_append, braceBalance_append, QuoteScan.run_append, closed,
    QuoteScan.run_quote, braceBalance_quote, Int.add_zero]

end Text

namespace Nesting

variable {nesting : Nesting} {text front : List Char}

theorem quotes_next (nesting : Nesting) (c : Char) :
    (nesting.next c).quotes = nesting.quotes.next c := by
  obtain ⟨quotes, depth⟩ := nesting
  cases quotes with
  | inside mark escaped => rfl
  | outside =>
      simp only [next]
      split
      · rename_i parenthesis
        rw [parenthesis]
        rfl
      · split
        · rename_i parenthesis
          rw [parenthesis]
          rfl
        · rfl

theorem quotes_foldl_next (nesting : Nesting) (text : List Char) :
    (text.foldl next nesting).quotes = nesting.quotes.run text :=
  (List.foldl_hom Nesting.quotes fun nesting c => (quotes_next nesting c).symm).symm

theorem depth_next (inside : nesting.quotes ≠ .outside) (c : Char) :
    (nesting.next c).depth = nesting.depth := by
  unfold next
  cases found : nesting.quotes with
  | outside => exact absurd found inside
  | inside mark escaped => rfl

theorem depth_foldl_next (stays : nesting.quotes.StaysInside text) :
    (text.foldl next nesting).depth = nesting.depth := by
  induction text generalizing nesting with
  | nil => rfl
  | cons c text ih =>
      have later : (nesting.next c).quotes.StaysInside text := by
        rw [quotes_next]
        exact stays.next
      rw [List.foldl_cons, ih later, depth_next stays.ne_outside]

/-- No parenthesis in quotes counts. -/
theorem foldl_next_front_quote (isFront : front <+: quote text) (depth : Nat) :
    front.foldl next ⟨.outside, depth⟩ = ⟨QuoteScan.outside.run front, depth⟩ := by
  have quotes := quotes_foldl_next ⟨.outside, depth⟩ front
  suffices depthKept : (front.foldl next ⟨.outside, depth⟩).depth = depth by
    cases reached : front.foldl next ⟨.outside, depth⟩ with
    | mk inside count =>
        rw [reached] at quotes depthKept
        exact congrArg₂ Nesting.mk quotes depthKept
  rcases List.prefix_cons_iff.mp isFront with rfl | ⟨behind, rfl, isBehind⟩
  · rfl
  · have opened : next ⟨.outside, depth⟩ '\'' = ⟨.inside '\'' false, depth⟩ := by
      simp [next, QuoteScan.next, isQuoteMark]
    rw [List.foldl_cons, opened]
    refine depth_foldl_next fun front isFront proper => ?_
    refine QuoteScan.staysInside_behindMark text front (isFront.trans isBehind) fun whole => ?_
    exact proper (isFront.eq_of_length (le_antisymm isFront.length_le (whole ▸ isBehind.length_le)))

end Nesting

namespace Setting

/-- The note that is written with its text in quotes is read as one setting. -/
theorem readAll_note (text : List Char) :
    readAll ("note: " ++ String.ofList (quote text)).toList =
      [⟨"note", some (String.ofList (quote text))⟩] := by
  have key : IsEntry "note".toList := by decide
  have value : IsEntry (String.ofList (quote text)).toList := by
    rw [String.toList_ofList]
    exact isEntry_quote text
  have entry := isEntry_written key value
  have noColon : ':' ∉ "note".toList := by decide
  have read := read_written noColon key.trimmed value.nonempty value.trimmed
  rw [readAll]
  change (splitSettings (written "note" _).toList).map Setting.read = _
  rw [entry.splitSettings_eq, List.map_singleton, read]

end Setting

/-- Quoted texts are exact and end where they end: escaping and quoting are undone, no line break is
left, both scanners leave the quotes at the last mark and not before, with the depth that they had, and
braces and settings around a quoted text are those without it. The other settings of a list are any that
are closed behind their last character and have no comma at the top. -/
theorem quoted_exactly (text : List Char) :
    unescape (escape text) = text ∧ stripQuotes (quote text) = text ∧
      '\n' ∉ quote text ∧ '\r' ∉ quote text ∧
      (∀ front, front <+: quote text → front ≠ [] →
        (QuoteScan.outside.run front = .outside ↔ front = quote text) ∧
          ∀ depth, front.foldl Nesting.next ⟨.outside, depth⟩ = ⟨QuoteScan.outside.run front, depth⟩) ∧
      (∀ before behind, QuoteScan.outside.run before = .outside →
        braceBalance .outside (before ++ quote text ++ behind) = braceBalance .outside (before ++ behind)) ∧
      (∀ depth rest, Nesting.pieces ⟨.outside, depth⟩ (quote text ++ rest) =
        (Nesting.pieces ⟨.outside, depth⟩ rest).modifyHead (quote text ++ ·)) ∧
      ∀ earlier later : List String,
        (∀ setting ∈ earlier ++ later, Nesting.passAll? {} setting.toList = some {}) →
        let note : Setting := ⟨"note", some (String.ofList (quote text))⟩
        note.value = some (String.ofList text) ∧
          ∃ front back : List Setting,
            Setting.readAll (join ", " (earlier ++ later)).toList = front ++ back ∧
              Setting.readAll (join ", "
                (earlier ++ ("note: " ++ String.ofList (quote text)) :: later)).toList =
                front ++ note :: back := by
  refine ⟨unescape_escape text, stripQuotes_quote text, lineBreak_not_mem_quote (.inl rfl) text,
    lineBreak_not_mem_quote (.inr rfl) text, ?_, ?_, ?_, ?_⟩
  · intro front isFront nonempty
    exact ⟨QuoteScan.run_front_quote isFront nonempty, Nesting.foldl_next_front_quote isFront⟩
  · intro before behind closed
    exact braceBalance_around_quote closed text behind
  · intro depth rest
    exact Nesting.pieces_append (Nesting.passAll?_quote depth text) rest
  · intro earlier later passed note
    have noteKey : Nesting.passAll? {} "note: ".toList = some {} := by decide
    have notePassed : Nesting.passAll? {} ("note: " ++ String.ofList (quote text)).toList = some {} := by
      rw [String.toList_append, Nesting.passAll?_append, noteKey, String.toList_ofList]
      exact Nesting.passAll?_quote 0 text
    have withNote : ∀ setting ∈ earlier ++ ("note: " ++ String.ofList (quote text)) :: later,
        Nesting.passAll? {} setting.toList = some {} := by
      intro setting member
      rcases List.mem_append.mp member with before | here
      · exact passed setting (List.mem_append_left later before)
      · rcases List.mem_cons.mp here with rfl | behind
        · exact notePassed
        · exact passed setting (List.mem_append_right earlier behind)
    refine ⟨?_, earlier.flatMap fun setting => Setting.readAll setting.toList,
      later.flatMap fun setting => Setting.readAll setting.toList, ?_, ?_⟩
    · simp [note, Setting.value, stripQuotes_quote]
    · rw [Setting.readAll_join_of_passed passed, List.flatMap_append]
    · rw [Setting.readAll_join_of_passed withNote, List.flatMap_append, List.flatMap_cons,
        Setting.readAll_note, List.singleton_append]

theorem quoted_exactly_between :
    (∀ setting ∈ ["pk", "default: fn(1, 2)"] ++ ["unique"],
      Nesting.passAll? {} setting.toList = some {}) ∧
      ∃ front back : List Setting,
        Setting.readAll (join ", " (["pk", "default: fn(1, 2)"] ++ ["unique"])).toList = front ++ back ∧
          Setting.readAll (join ", " (["pk", "default: fn(1, 2)"] ++
            ("note: " ++ String.ofList (quote "it's (1,\n\\".toList)) :: ["unique"])).toList =
            front ++ ⟨"note", some (String.ofList (quote "it's (1,\n\\".toList))⟩ :: back := by
  have passed : ∀ setting ∈ ["pk", "default: fn(1, 2)"] ++ ["unique"],
      Nesting.passAll? {} setting.toList = some {} := by
    decide
  exact ⟨passed, ((quoted_exactly "it's (1,\n\\".toList).2.2.2.2.2.2.2 _ _ passed).2⟩

end TableScript
