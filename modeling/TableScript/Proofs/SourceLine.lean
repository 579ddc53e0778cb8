import TableScript.Proofs.Text.Pieces
import TableScript.SourceLine

namespace TableScript.SourceLine

variable {raw : List Char} {line : SourceLine} {script : String}

def content? (raw : List Char) : Option String :=
  if (Text.trim raw).isEmpty || isComment (Text.trim raw) then none
  else some (String.ofList (Text.trim raw))

theorem map_text_ofRaw? (number : Nat) (raw : List Char) :
    (ofRaw? number raw).map text = content? raw := by
  simp only [ofRaw?, content?]
  split <;> rfl

theorem map_text_ofScript (script : String) :
    (ofScript script).map text = (script.toList.splitOn '\n').filterMap content? := by
  have sameText : (fun pair : List Char × Nat => (ofRaw? pair.2 pair.1).map text) =
      content? ∘ Prod.fst :=
    funext fun pair => map_text_ofRaw? pair.2 pair.1
  calc (ofScript script).map text
      = ((script.toList.splitOn '\n').zipIdx 1).filterMap (content? ∘ Prod.fst) := by
        rw [← sameText]
        exact List.map_filterMap
    _ = (((script.toList.splitOn '\n').zipIdx 1).map Prod.fst).filterMap content? :=
        List.filterMap_map.symm
    _ = (script.toList.splitOn '\n').filterMap content? := by rw [List.zipIdx_map_fst]

theorem exists_raw_of_mem (member : line ∈ ofScript script) :
    ∃ raw ∈ script.toList.splitOn '\n', content? raw = some line.text := by
  have text : line.text ∈ (ofScript script).map text := List.mem_map_of_mem member
  rw [map_text_ofScript] at text
  exact List.mem_filterMap.mp text

theorem lineFeed_not_mem (member : line ∈ ofScript script) : '\n' ∉ line.text.toList := by
  obtain ⟨raw, piece, content⟩ := exists_raw_of_mem member
  rw [content?] at content
  split at content
  · cases content
  · rw [← Option.some.inj content, String.toList_ofList]
    exact fun inside => Text.not_mem_of_mem_splitOn piece (Text.mem_of_mem_trim inside)

theorem map_text_ofScript_join {lines : List String} (oneLine : ∀ line ∈ lines, '\n' ∉ line.toList) :
    (ofScript (Text.join "\n" lines)).map text = lines.filterMap fun line => content? line.toList := by
  rw [map_text_ofScript]
  cases lines with
  | nil => rfl
  | cons line lines =>
      rw [Text.splitOn_join (by simp) oneLine, List.filterMap_map]
      rfl

theorem content?_comment (rest : List Char) : content? ('/' :: '/' :: rest) = none := by
  have kept : Text.trim ('/' :: '/' :: rest) = ['/', '/'] ++ Text.trimEnd rest := by
    rw [Text.trim, Text.trimStart_of_head (by decide)]
    refine Text.trimEnd_append ['/', '/'] ?_ rest
    intro c member
    cases member
    decide
  simp [content?, kept, isComment, Text.after?]

/-- An indented line without blanks at its ends says itself, unless it is a comment. -/
theorem content?_indented {blanks content : List Char} (blank : ∀ c ∈ blanks, Text.isBlank c = true)
    (trimmed : Text.IsTrimmed content) (nonempty : content ≠ []) (counts : isComment content = false) :
    content? (blanks ++ content) = .some (String.ofList content) := by
  simp [content?, Text.trim_append blank trimmed, nonempty, counts]

/-- The lines that count among raw ones, numbered from the start on. -/
def ofRaws (start : Nat) (raws : List (List Char)) : List SourceLine :=
  (raws.zipIdx start).filterMap fun (raw, number) => ofRaw? number raw

theorem ofRaws_cons (start : Nat) (raw : List Char) (raws : List (List Char)) :
    ofRaws start (raw :: raws) = (ofRaw? start raw).toList ++ ofRaws (start + 1) raws := by
  rw [ofRaws, List.zipIdx_cons, List.filterMap_cons]
  dsimp only
  cases ofRaw? start raw <;> rfl

theorem number_of_ofRaw? {number : Nat} (counts : ofRaw? number raw = some line) :
    line.number = number := by
  unfold ofRaw? at counts
  dsimp only at counts
  split at counts
  · cases counts
  · cases counts
    rfl

/-- A line that counts says what its piece of the script says without the blanks around it. -/
theorem text_and_indent_of_ofRaw? {number : Nat} (counts : ofRaw? number raw = some line) :
    Text.trim raw ≠ [] ∧ isComment (Text.trim raw) = false ∧
      line.text = String.ofList (Text.trim raw) ∧
      line.indent = raw.length - (Text.trimStart raw).length := by
  unfold ofRaw? at counts
  dsimp only at counts
  split at counts
  · cases counts
  · rename_i kept
    cases counts
    simpa using kept

/-- A line of a script is the piece of its number between line feeds. -/
theorem exists_ofRaw?_eq_some (member : line ∈ ofScript script) :
    ∃ raw, 1 ≤ line.number ∧ (script.toList.splitOn '\n')[line.number - 1]? = some raw ∧
      ofRaw? line.number raw = some line := by
  obtain ⟨⟨raw, number⟩, among, counts⟩ := List.mem_filterMap.mp member
  have same := number_of_ofRaw? counts
  subst same
  obtain ⟨first, piece⟩ := List.mk_mem_zipIdx_iff_le_and_getElem?_sub.mp among
  exact ⟨raw, first, piece, counts⟩

theorem le_number_of_mem_ofRaws {start : Nat} {raws : List (List Char)}
    (member : line ∈ ofRaws start raws) : start ≤ line.number := by
  obtain ⟨pair, among, counts⟩ := List.mem_filterMap.mp member
  rw [number_of_ofRaw? counts]
  exact List.le_snd_of_mem_zipIdx among

theorem number_lt_of_mem_ofRaws {start : Nat} {raws : List (List Char)}
    (member : line ∈ ofRaws start raws) : line.number < start + raws.length := by
  obtain ⟨pair, among, counts⟩ := List.mem_filterMap.mp member
  rw [number_of_ofRaw? counts]
  exact List.snd_lt_add_of_mem_zipIdx among

theorem pairwise_number_ofRaws (start : Nat) (raws : List (List Char)) :
    (ofRaws start raws).Pairwise fun first second => first.number < second.number := by
  induction raws generalizing start with
  | nil => exact List.Pairwise.nil
  | cons raw raws ih =>
      rw [ofRaws_cons]
      cases counts : ofRaw? start raw with
      | none => exact ih (start + 1)
      | some line =>
          refine List.pairwise_cons.mpr ⟨fun other member => ?_, ih (start + 1)⟩
          have later := le_number_of_mem_ofRaws member
          rw [number_of_ofRaw? counts]
          omega

theorem nodup_ofScript (script : String) : (ofScript script).Nodup :=
  (pairwise_number_ofRaws 1 _).imp fun {one other} (less : one.number < other.number) same =>
    Nat.ne_of_lt less (congrArg number same)

theorem filter_number_ofRaws (start count : Nat) (raws : List (List Char)) :
    (ofRaws start raws).filter (·.number < start + count) = ofRaws start (raws.take count) := by
  induction raws generalizing start count with
  | nil => simp [ofRaws]
  | cons raw raws ih =>
      cases count with
      | zero =>
          rw [List.take_zero, List.filter_eq_nil_iff.mpr]
          · rfl
          · intro line member
            have late := le_number_of_mem_ofRaws member
            simpa using late
      | succ count =>
          have first : (ofRaw? start raw).toList.filter (·.number < start + (count + 1)) =
              (ofRaw? start raw).toList := by
            rw [List.filter_eq_self]
            intro line member
            have number := number_of_ofRaw? (Option.mem_toList.mp member)
            simp only [number, decide_eq_true_eq]
            omega
          rw [List.take_succ_cons, ofRaws_cons, ofRaws_cons, List.filter_append, first, ← ih,
            Nat.add_right_comm, Nat.add_assoc]

/-- Pieces that are joined with line feeds are the raw lines again. -/
theorem ofScript_intercalate {raws : List (List Char)} (pieces : ∀ raw ∈ raws, '\n' ∉ raw) :
    ofScript (String.ofList (['\n'].intercalate raws)) = ofRaws 1 raws := by
  change ofRaws 1 ((String.ofList (['\n'].intercalate raws)).toList.splitOn '\n') = _
  rw [String.toList_ofList]
  cases raws with
  | nil => rfl
  | cons raw raws => rw [List.splitOn_intercalate '\n' pieces (List.cons_ne_nil raw raws)]

/-- What of the script stands in front of the line of that number. -/
def textBefore (script : String) (number : Nat) : String :=
  String.ofList (['\n'].intercalate ((script.toList.splitOn '\n').take (number - 1)))

theorem textBefore_prefix (script : String) (number : Nat) :
    (textBefore script number).toList <+: script.toList := by
  have front := Text.intercalate_take_prefix ['\n'] (number - 1) (script.toList.splitOn '\n')
  rw [textBefore, String.toList_ofList]
  rwa [List.intercalate_splitOn] at front

theorem ofScript_textBefore (script : String) (number : Nat) :
    ofScript (textBefore script number) = (ofScript script).filter (·.number < number) := by
  have raws : ofScript (textBefore script number) =
      ofRaws 1 ((script.toList.splitOn '\n').take (number - 1)) :=
    ofScript_intercalate fun raw member => Text.not_mem_of_mem_splitOn (List.mem_of_mem_take member)
  rw [raws, ← filter_number_ofRaws]
  refine List.filter_congr fun line member => ?_
  have first := le_number_of_mem_ofRaws member
  rw [decide_eq_decide]
  omega

/-- The numbers go up: those in front of a line are smaller, those behind it greater. -/
theorem number_lt_of_split {front behind : List SourceLine}
    (lines : ofScript script = front ++ line :: behind) :
    (∀ other ∈ front, other.number < line.number) ∧ ∀ other ∈ behind, line.number < other.number := by
  have ascending : (front ++ line :: behind).Pairwise fun first second => first.number < second.number := by
    rw [← lines]
    exact pairwise_number_ofRaws 1 _
  obtain ⟨_, behindAscending, across⟩ := List.pairwise_append.mp ascending
  exact ⟨fun other member => across other member line List.mem_cons_self,
    (List.pairwise_cons.mp behindAscending).1⟩

/-- The text in front of a line holds just the lines in front of it. -/
theorem ofScript_textBefore_eq {front behind : List SourceLine}
    (lines : ofScript script = front ++ line :: behind) :
    ofScript (textBefore script line.number) = front := by
  obtain ⟨smaller, greater⟩ := number_lt_of_split lines
  have before : front.filter (·.number < line.number) = front :=
    List.filter_eq_self.mpr fun other member => decide_eq_true (smaller other member)
  have after : (line :: behind).filter (·.number < line.number) = [] := by
    rw [List.filter_eq_nil_iff]
    intro other member less
    have early := of_decide_eq_true less
    rcases List.mem_cons.mp member with same | later
    · rw [same] at early
      omega
    · have late := greater other later
      omega
  rw [ofScript_textBefore, lines, List.filter_append, before, after, List.append_nil]

def movedBy (line : SourceLine) (count : Nat) : SourceLine :=
  { line with number := line.number + count }

theorem ofRaws_append (start : Nat) (raws more : List (List Char)) :
    ofRaws start (raws ++ more) = ofRaws start raws ++ ofRaws (start + raws.length) more := by
  rw [ofRaws, List.zipIdx_append, List.filterMap_append]
  rfl

theorem ofRaw?_add (number count : Nat) (raw : List Char) :
    ofRaw? (number + count) raw = (ofRaw? number raw).map (·.movedBy count) := by
  unfold ofRaw?
  dsimp only
  split <;> rfl

theorem ofRaws_add (start count : Nat) (raws : List (List Char)) :
    ofRaws (start + count) raws = (ofRaws start raws).map (·.movedBy count) := by
  induction raws generalizing start with
  | nil => rfl
  | cons raw raws ih =>
      rw [ofRaws_cons, ofRaws_cons, List.map_append, ← ih, Nat.add_right_comm, ofRaw?_add,
        Option.toList_map]

/-- How many lines a script has, the blank ones and the comments among them. -/
def rawCount (script : String) : Nat :=
  (script.toList.splitOn '\n').length

theorem number_le_rawCount (member : line ∈ ofScript script) : line.number ≤ rawCount script := by
  have inside : line.number < 1 + rawCount script := number_lt_of_mem_ofRaws member
  omega

/-- A script in front of others is read as it is, and the lines of the others are moved on behind it. -/
theorem ofScript_join_cons (script : String) {others : List String} (nonempty : others ≠ []) :
    ofScript (Text.join "\n" (script :: others)) =
      ofScript script ++
        (ofScript (Text.join "\n" others)).map (·.movedBy (rawCount script)) := by
  have pieces : (Text.join "\n" (script :: others)).toList.splitOn '\n' =
      script.toList.splitOn '\n' ++ (Text.join "\n" others).toList.splitOn '\n' := by
    obtain ⟨next, more, rfl⟩ := List.exists_cons_of_ne_nil nonempty
    have apart : (Text.join "\n" (script :: next :: more)).toList =
        script.toList ++ '\n' :: (Text.join "\n" (next :: more)).toList := by
      simp only [Text.join, String.toList_ofList, List.map_cons, List.intercalate_cons_cons]
      exact List.append_assoc _ _ _
    rw [apart, List.splitOn_append_cons_self]
  change ofRaws 1 _ = ofRaws 1 _ ++ (ofRaws 1 _).map _
  rw [pieces, ofRaws_append, ofRaws_add]
  rfl

/-- A line cuts its script into the pieces in front of it, its own piece and those behind it. -/
theorem exists_splitOn_eq_append {front behind : List SourceLine}
    (lines : ofScript script = front ++ line :: behind) :
    ∃ before raw after, script.toList.splitOn '\n' = before ++ raw :: after ∧
      before.length = line.number - 1 ∧ 1 ≤ line.number ∧ ofRaws 1 before = front ∧
      ofRaw? line.number raw = some line ∧ ofRaws (line.number + 1) after = behind := by
  obtain ⟨raw, first, piece, counts⟩ :=
    exists_ofRaw?_eq_some (lines ▸ List.mem_append_right front List.mem_cons_self)
  obtain ⟨smaller, greater⟩ := number_lt_of_split lines
  let raws := script.toList.splitOn '\n'
  have inside : line.number - 1 < raws.length := (List.getElem?_eq_some_iff.mp piece).1
  have cut : raws = raws.take (line.number - 1) ++ raw :: raws.drop (line.number - 1 + 1) := by
    have here : raws[line.number - 1] = raw := (List.getElem?_eq_some_iff.mp piece).2
    rw [← here, ← List.drop_eq_getElem_cons inside, List.take_append_drop]
  have length : (raws.take (line.number - 1)).length = line.number - 1 := by
    rw [List.length_take]
    omega
  have whole : ofScript script = ofRaws 1 (raws.take (line.number - 1)) ++
      line :: ofRaws (line.number + 1) (raws.drop (line.number - 1 + 1)) := by
    have place : 1 + (raws.take (line.number - 1)).length = line.number := by omega
    change ofRaws 1 raws = _
    conv_lhs => rw [cut]
    rw [ofRaws_append, ofRaws_cons, place, counts]
    rfl
  rw [lines] at whole
  obtain ⟨frontSame, _, behindSame⟩ := (List.append_cons_inj_of_notMem
    (fun member => Nat.lt_irrefl _ (smaller line member))
    (fun member => Nat.lt_irrefl _ (greater line member))).mp whole
  exact ⟨_, raw, _, cut, length, first, frontSame.symm, counts, behindSame.symm⟩

/-- The script without the piece of that number between line feeds. -/
def textWithout (script : String) (number : Nat) : String :=
  String.ofList (['\n'].intercalate ((script.toList.splitOn '\n').eraseIdx (number - 1)))

/-- Without a line, the lines in front of it stay where they are and those behind it move up. -/
theorem ofScript_textWithout {front behind : List SourceLine}
    (lines : ofScript script = front ++ line :: behind) :
    ∃ left, ofScript (textWithout script line.number) = front ++ left ∧
      behind = left.map (·.movedBy 1) ∧ ∀ other ∈ left, line.number ≤ other.number := by
  obtain ⟨before, raw, after, cut, length, first, rfl, _, rfl⟩ := exists_splitOn_eq_append lines
  refine ⟨ofRaws line.number after, ?_, ofRaws_add line.number 1 after,
    fun other => le_number_of_mem_ofRaws⟩
  have place : 1 + before.length = line.number := by omega
  have rest : ofScript (textWithout script line.number) =
      ofRaws 1 ((before ++ raw :: after).eraseIdx (line.number - 1)) := by
    rw [← cut]
    exact ofScript_intercalate fun raw member =>
      Text.not_mem_of_mem_splitOn (List.mem_of_mem_eraseIdx member)
  rw [rest, ← length, List.eraseIdx_append_of_length_le (Nat.le_refl _), Nat.sub_self,
    List.eraseIdx_cons_zero, ofRaws_append, place]

/-- The script with more text at the end of the piece of that number between line feeds. -/
def textWith (script : String) (number : Nat) (more : List Char) : String :=
  String.ofList
    (['\n'].intercalate ((script.toList.splitOn '\n').modify (number - 1) (· ++ more)))

/-- With more text behind a line, all other lines stay where they are. -/
theorem ofScript_textWith {front behind : List SourceLine} {more : List Char}
    (lines : ofScript script = front ++ line :: behind) (oneLine : '\n' ∉ more) :
    ∃ raw, ofRaw? line.number raw = some line ∧
      ∀ other, ofRaw? line.number (raw ++ more) = some other →
        ofScript (textWith script line.number more) = front ++ other :: behind := by
  obtain ⟨before, raw, after, cut, length, first, rfl, counts, rfl⟩ := exists_splitOn_eq_append lines
  refine ⟨raw, counts, fun other longer => ?_⟩
  have place : 1 + before.length = line.number := by omega
  have pieces : ∀ piece ∈ before ++ raw :: after, '\n' ∉ piece := by
    rw [← cut]
    exact fun piece member => Text.not_mem_of_mem_splitOn member
  have modified : (before ++ raw :: after).modify (line.number - 1) (· ++ more) =
      before ++ (raw ++ more) :: after := by
    rw [← length, List.modify_eq_take_drop, List.take_left, List.drop_left]
    rfl
  obtain ⟨inFront, here⟩ := List.forall_mem_append.mp pieces
  obtain ⟨rawPiece, behindPieces⟩ := List.forall_mem_cons.mp here
  have rest : ofScript (textWith script line.number more) =
      ofRaws 1 (before ++ (raw ++ more) :: after) := by
    rw [textWith, cut, modified]
    refine ofScript_intercalate
      (List.forall_mem_append.mpr ⟨inFront, List.forall_mem_cons.mpr ⟨?_, behindPieces⟩⟩)
    exact fun member => (List.mem_append.mp member).elim rawPiece oneLine
  rw [rest, ofRaws_append, ofRaws_cons, place, longer]
  rfl

end TableScript.SourceLine
