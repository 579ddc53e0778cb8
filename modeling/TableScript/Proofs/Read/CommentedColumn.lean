import TableScript.Proofs.Read.Frame
import TableScript.Proofs.Read.Kept
import TableScript.Proofs.Read.Refused.Script
import TableScript.Proofs.Read.Trace
import TableScript.Proofs.Remark

namespace TableScript

open Text

namespace ColumnLine

/-- What the line declares with more text behind it. -/
def withTail (declared : ColumnLine) (tail : List Char) : ColumnLine :=
  { declared with rest := declared.rest ++ tail }

variable {declared : ColumnLine} {blanks remark : List Char}

theorem trim_rest_withTail (nothing : allBlank declared.rest = true) (behind : IsRemark blanks remark) :
    trim (declared.withTail (blanks ++ remark)).rest = remark := by
  have blank : ∀ c ∈ declared.rest ++ blanks, isBlank c = true :=
    List.forall_mem_append.mpr ⟨by simpa [allBlank] using nothing, behind.blank⟩
  rw [withTail, ← List.append_assoc]
  refine trim_append blank ⟨fun c head => ?_, fun c last => (behind.last c last).1⟩
  rw [behind.slash] at head
  cases head
  decide

theorem isAccepted_withTail (accepted : declared.isAccepted = true)
    (nothing : allBlank declared.rest = true) (behind : IsRemark blanks remark) :
    (declared.withTail (blanks ++ remark)).isAccepted = true := by
  rw [isAccepted, Bool.and_eq_true] at accepted ⊢
  refine ⟨?_, accepted.2⟩
  rw [trim_rest_withTail nothing behind, behind.slash]
  decide

/-- What is said of the comment. -/
def notice (declared : ColumnLine) (line : SourceLine) (remark : List Char) : Diagnostic :=
  (Problem.ignoredText (String.ofList remark)).foundAt line declared.restOffset

theorem diagnostics_withTail (nothing : allBlank declared.rest = true) (behind : IsRemark blanks remark)
    (policy : Policy) (line : SourceLine) :
    (declared.withTail (blanks ++ remark)).diagnostics policy (line.withTail (blanks ++ remark)) =
      declared.diagnostics policy line ++ [declared.notice line remark] := by
  have noRest : trim declared.rest = [] := by
    have blank : ∀ c ∈ declared.rest, isBlank c = true := by simpa [allBlank] using nothing
    have trimmed : trim (declared.rest ++ []) = [] := trim_append blank ⟨by simp, by simp⟩
    rwa [List.append_nil] at trimmed
  have nonempty : remark.isEmpty = false := by
    rw [List.isEmpty_eq_false_iff]
    exact behind.remark_ne_nil
  rw [diagnostics, diagnostics, trim_rest_withTail nothing behind, noRest]
  simp only [nonempty, List.isEmpty_nil, if_true, Bool.false_eq_true, if_false, List.append_nil]
  rfl

theorem inlineUses_withTail (declared : ColumnLine) (tail : List Char) (table : Table) (line : SourceLine)
    (column reference : Nat) :
    (declared.withTail tail).inlineUses table (line.withTail tail) column reference =
      (declared.inlineUses table line column reference).map fun use =>
        { use with line := line.withTail tail } := by
  rw [inlineUses, inlineUses, Table.inlineUses, Table.inlineUses, List.map_map]
  rfl

end ColumnLine

/-- Another column may stand where a column stands in a body. -/
theorem Body.exists_columnPlace {line : SourceLine} {lines : List SourceLine} {earlier later : List BodyItem}
    (items : (ofLines lines).items = earlier ++ .column line :: later) :
    ∃ before after, lines = before ++ line :: after ∧
      LineKind.classify true line.text.toList = .columnLike ∧
      ∀ other : SourceLine, LineKind.classify true other.text.toList = .columnLike →
        LineKind.opensBlock other.text.toList = false →
        ofLines (before ++ other :: after) =
          { ofLines lines with items := earlier ++ .column other :: later } := by
  obtain ⟨before, tail, rfl, inside, replaced⟩ := exists_itemPlace items
  obtain ⟨after, rfl, other, plain, column⟩ := exists_cons_of_items_column inside
  rw [ofLines_column other plain column] at inside
  obtain ⟨_, rfl⟩ := List.cons.inj inside
  refine ⟨before, after, rfl, column, fun next kind inBody => ?_⟩
  have noBrace : LineKind.classify true next.text.toList ≠ .brace := by
    rw [kind]
    decide
  have notOpening : next.isOpening = false := SourceLine.isOpening_eq_false noBrace
  have notClosing : next.isClosing = false := SourceLine.isClosing_eq_false noBrace
  have replaces : Replaces (line :: after) (next :: after) := by
    refine ⟨List.cons_ne_nil _ _, fun brace => ?_, fun opens => ?_⟩
    · rw [List.head?_cons, Option.any_some, notOpening] at brace
      cases brace
    · rw [List.head?_cons, Option.any_some, plain] at opens
      cases opens
  rw [replaced _ replaces, replaced _ (.ofSameHead line after after), ofLines_column notClosing inBody kind,
    ofLines_column other plain column]
  rfl

namespace ReadState

variable {policy : Policy} {state next last : ReadState} {header line : SourceLine}
  {declared : ColumnLine} {above : TableHeader} {table : Table}
  {following rest lines others front behind taken : List SourceLine}
  {blanks remark : List Char} {earlier later : List BodyItem}

/-- The line gives a column: it stands in the body of a table that is accepted. -/
inductive TakesColumn (policy : Policy) (lines : List SourceLine) (line : SourceLine)
    (declared : ColumnLine) : Prop where
  | intro {front following body : List SourceLine} {header : SourceLine} {above : TableHeader}
      {earlier later : List BodyItem} (place : lines = front ++ header :: following)
      (begins : header ∈ stepLines policy {} lines)
      (kind : LineKind.classify false header.text.toList = .table)
      (headed : TableHeader.read? header.text.toList = some above)
      (accepted : above.nameProblems (readLines policy .none {} front).1.catalog = [])
      (begun : above.bodyLines? following = some body)
      (items : (Body.ofLines body).items = earlier ++ .column line :: later)
      (read : ColumnLine.read? line.text.toList = some declared) (column : declared.isAccepted = true)

/-- The second state has one diagnostic more than the first, somewhere among the others. Otherwise they are
the same, but for the lines of inline references, which are at the same places. -/
def OneMore (said : Diagnostic) (first second : ReadState) : Prop :=
  ∃ (bare : ReadState) (journal : Journal) (uses others : List InlineUse),
    first = bare.behind journal uses ∧ second = bare.behind (journal ++ [said]) others ∧
      List.Forall₂ InlineUse.Like uses others

namespace OneMore

variable {said : Diagnostic} {first second : ReadState}

theorem catalog (together : OneMore said first second) : second.catalog = first.catalog := by
  obtain ⟨bare, journal, uses, others, rfl, rfl, _⟩ := together
  rfl

theorem report (together : OneMore said first second) (problem : Problem) (line : SourceLine) :
    OneMore said (first.report problem line) (second.report problem line) := by
  obtain ⟨bare, journal, uses, others, rfl, rfl, alike⟩ := together
  exact ⟨_, _, _, _, bare.behind_report problem line, bare.behind_report problem line, alike⟩

theorem withCatalog (together : OneMore said first second) (catalog : Catalog) :
    OneMore said { first with catalog } { second with catalog } := by
  obtain ⟨bare, journal, uses, others, rfl, rfl, alike⟩ := together
  exact ⟨{ bare with catalog }, journal, uses, others, rfl, rfl, alike⟩

/-- The rest of a body is taken alike. -/
theorem foldl_takeBodyItem (together : OneMore said first second) (policy : Policy) (table : Table)
    (items : List BodyItem) :
    ∃ after last given, items.foldl (takeBodyItem policy) (first, table) = (after, given) ∧
      items.foldl (takeBodyItem policy) (second, table) = (last, given) ∧ OneMore said after last := by
  obtain ⟨bare, journal, uses, others, rfl, rfl, alike⟩ := together
  let taken := items.foldl (takeBodyItem policy) (bare, table)
  have read : ∀ found uses, items.foldl (takeBodyItem policy) (bare.behind found uses, table) =
      (taken.1.behind found uses, taken.2) :=
    fun _ _ => behind_foldl_takeBodyItem policy (bare, table) items
  exact ⟨_, _, taken.2, read journal uses, read (journal ++ [said]) others, taken.1, journal, uses, others,
    rfl, rfl, alike⟩

/-- The lines behind are read alike. -/
theorem readLines (together : OneMore said first second) {policy : Policy} {lines : List SourceLine}
    {after : ReadState} (done : ReadState.readLines policy .none first lines = (after, none)) :
    ∃ last, ReadState.readLines policy .none second lines = (last, none) ∧ OneMore said after last := by
  obtain ⟨bare, journal, uses, others, rfl, rfl, alike⟩ := together
  rw [behind_readLines] at done
  obtain ⟨rfl, complete⟩ := Prod.mk.inj done
  refine ⟨_, ?_, (ReadState.readLines policy .none bare lines).1, journal, uses, others, rfl, rfl, alike⟩
  rw [behind_readLines]
  exact Prod.ext rfl complete

theorem checkInlines (together : OneMore said first second) {check : TargetCheck} {after : ReadState}
    (done : ReadState.checkInlines check first = .ok after) :
    ∃ last, ReadState.checkInlines check second = .ok last ∧ OneMore said after last := by
  obtain ⟨bare, journal, uses, others, rfl, rfl, alike⟩ := together
  obtain ⟨checked, rfl, again⟩ := checkInlines_behind alike done
  exact ⟨_, again _, checked, journal, uses, others, rfl, rfl, alike⟩

end OneMore

theorem oneMore_withColumn (policy : Policy) (state : ReadState) (table : Table) (line : SourceLine)
    (nothing : allBlank declared.rest = true) (behind : IsRemark blanks remark) :
    OneMore (declared.notice line remark) (state.withColumn policy table line declared)
      (state.withColumn policy table (line.withTail (blanks ++ remark))
        (declared.withTail (blanks ++ remark))) := by
  let taken := state.withColumn policy table line declared
  let uses := declared.inlineUses table line state.columnsNumbered state.referencesNumbered
  let others := uses.map fun use => { use with line := line.withTail (blanks ++ remark) }
  have stands : ∀ use ∈ uses, use.line = line := by
    intro use member
    obtain ⟨_, _, rfl⟩ := List.mem_map.mp member
    rfl
  have alike : List.Forall₂ InlineUse.Like (state.inlineUses ++ uses) (state.inlineUses ++ others) := by
    refine List.rel_append (List.forall₂_same.mpr fun use _ => .refl use) ?_
    refine List.forall₂_map_right_iff.mpr (List.forall₂_same.mpr fun use member => ?_)
    rw [← stands use member]
    exact ⟨rfl, rfl, rfl, rfl⟩
  refine ⟨taken.bare, taken.journal, _, _, (behind_bare _).symm, ?_, alike⟩
  have sameReferences : others.map InlineUse.reference = uses.map InlineUse.reference := by
    rw [List.map_map]
    rfl
  have sameCount : others.length = uses.length := List.length_map _
  simp only [withColumn, adding, ColumnLine.inlineUses_withTail,
    ColumnLine.diagnostics_withTail nothing behind, ReadState.behind, taken, bare, List.append_nil,
    List.append_assoc]
  rw [sameReferences, sameCount]

/-- What a table is with a comment behind one of its columns is what it is without the comment. -/
theorem readAcceptedTable_commented (start : ∀ lines, above.bodyLines? (taken ++ lines) = some lines)
    (items : (Body.ofLines lines).items = earlier ++ .column line :: later)
    (commented : Body.ofLines others =
      { Body.ofLines lines with items := earlier ++ .column (line.withTail (blanks ++ remark)) :: later })
    (read : ColumnLine.read? line.text.toList = some declared) (column : declared.isAccepted = true)
    (nothing : allBlank declared.rest = true) (remarked : IsRemark blanks remark)
    (reread : ColumnLine.read? (line.text.toList ++ (blanks ++ remark)) =
      some (declared.withTail (blanks ++ remark)))
    (done : readAcceptedTable policy state header above (taken ++ lines) = .ok (next, rest)) :
    ∃ last, readAcceptedTable policy state header above (taken ++ others) = .ok (last, rest) ∧
      OneMore (declared.notice line remark) next last := by
  rw [readAcceptedTable_eq, readBody_of_bodyLines? (start _)] at done ⊢
  rw [commented]
  dsimp only at done ⊢
  rw [items] at done
  rw [List.foldl_append, List.foldl_cons] at done ⊢
  generalize earlier.foldl (takeBodyItem policy)
    (state.withHeader policy header above, above.table state.tablesNumbered) = progress at done ⊢
  obtain ⟨middle, table⟩ := progress
  rw [← SourceLine.toList_text_withTail] at reread
  have sameColumn : (declared.withTail (blanks ++ remark)).column middle.columnsNumbered =
      declared.column middle.columnsNumbered := rfl
  simp only [takeBodyItem, readColumn_accepted read column, sameColumn,
    readColumn_accepted reread (ColumnLine.isAccepted_withTail column nothing remarked)] at done ⊢
  obtain ⟨short, long, given, taken, retaken, together⟩ :=
    (oneMore_withColumn policy middle table line nothing remarked).foldl_takeBodyItem policy
      { table with columns := table.columns ++ [declared.column middle.columnsNumbered] } later
  rw [taken] at done
  rw [retaken]
  dsimp only at done ⊢
  -- The table may have been closed or not, on both sides alike.
  have ended : OneMore (declared.notice line remark)
      (if (Body.ofLines lines).closed then short
        else short.report (.unclosedTable given.qualifiedName) header)
      (if (Body.ofLines lines).closed then long
        else long.report (.unclosedTable given.qualifiedName) header) := by
    split
    · exact together
    · exact together.report _ header
  rw [ended.catalog]
  split at done
  · rename_i catalog declares
    cases done
    exact ⟨_, rfl, ended.withCatalog catalog⟩
  · cases done

theorem TakesColumn.mem (takes : TakesColumn policy lines line declared) : line ∈ lines := by
  obtain ⟨rfl, _, _, _, _, begun, items, _, _⟩ := takes
  obtain ⟨before, after, rfl, _⟩ := Body.exists_columnPlace items
  obtain ⟨taken, rfl, _⟩ := TableHeader.bodyLines?_front begun
  simp

/-- Reading the lines with a comment behind a column gives what reading them without it gives, and says one
thing more. -/
theorem TakesColumn.exists_oneMore (takes : TakesColumn policy (front ++ line :: behind) line declared)
    (distinct : (front ++ line :: behind).Nodup) (bracketed : declared.settings.isSome = true)
    (nothing : allBlank declared.rest = true) (remarked : IsRemark blanks remark)
    (done : readLines policy .none {} (front ++ line :: behind) = (last, none)) :
    ∃ longer,
      readLines policy .none {} (front ++ line.withTail (blanks ++ remark) :: behind) = (longer, none) ∧
      OneMore (declared.notice line remark) last longer := by
  obtain ⟨notBefore, notBehind⟩ := not_mem_of_nodup distinct
  obtain @⟨beforeTable, following, body, header, above, earlier, later, place, begins, kind, headed, accepted,
    begun, items, read, column⟩ := takes
  obtain ⟨before, after, rfl, columnLike, replaced⟩ := Body.exists_columnPlace items
  obtain ⟨taken, rfl, start⟩ := TableHeader.bodyLines?_front begun
  have whole : front ++ line :: behind = (beforeTable ++ header :: (taken ++ before)) ++ line :: after := by
    rw [place]
    simp
  obtain ⟨rfl, _, rfl⟩ := (List.append_cons_inj_of_notMem notBefore notBehind).mp whole
  have commented := replaced (line.withTail (blanks ++ remark))
    (by simpa using remarked.classify_append columnLike) (by simpa using remarked.opensBlock_append _)
  have reread := ColumnLine.read?_append read bracketed remarked.not_mem
  rw [place] at begins distinct done
  obtain ⟨_, rest, bare, done⟩ := (readLines_accepted_iff begins distinct kind headed accepted _).mp done
  obtain ⟨_, longTable, together⟩ := readAcceptedTable_commented start items commented read column nothing
    remarked reread bare
  obtain ⟨longer, again, together⟩ := together.readLines done
  refine ⟨longer, ?_, together⟩
  have split : beforeTable ++ header :: (taken ++ before) ++ line.withTail (blanks ++ remark) :: behind =
      beforeTable ++ header :: (taken ++ (before ++ line.withTail (blanks ++ remark) :: behind)) := by simp
  rw [split]
  exact (readLines_accepted_iff begins distinct kind headed accepted _).mpr ⟨_, rest, longTable, again⟩

/-- A body that begins with the header of another block is not closed, and there is an error of that. -/
theorem mem_journal_of_opensBlock {lines : List SourceLine}
    (done : readAcceptedTable policy state header above following = .ok (next, rest))
    (begun : above.bodyLines? following = some (line :: lines))
    (opens : LineKind.opensBlock line.text.toList = true) :
    ∃ found ∈ next.journal, found.severity = .error := by
  rw [readAcceptedTable_eq, readBody_of_bodyLines? begun, Body.ofLines_of_opensBlock opens] at done
  dsimp only [List.foldl_nil] at done
  split at done
  · cases done
    exact ⟨_, mem_journal_report _ _ header, rfl⟩
  · cases done

end ReadState

namespace Reading

variable {policy : Policy} {script : String} {line : SourceLine} {declared : ColumnLine} {comment : List Char}

/-- The script with the comment behind the line reads alike, with one warning more, which says of the line
that the comment was left out. -/
def IgnoresComment (policy : Policy) (script : String) (line : SourceLine) (declared : ColumnLine)
    (comment : List Char) : Prop :=
  let reading := ofScript policy script
  ∃ earlier later, reading.warnings = earlier ++ later ∧
    ofScript policy (SourceLine.withComment script line.number comment) =
      { reading with
        warnings := earlier ++ declared.notice line (SourceLine.remark comment) :: later }

theorem ignoresComment_of_takesColumn
    (takes : ReadState.TakesColumn policy (SourceLine.ofScript script) line declared)
    (bracketed : declared.settings.isSome = true) (nothing : allBlank declared.rest = true)
    (oneLine : '\n' ∉ comment) (noBracket : ']' ∉ comment)
    (noBrace : (trimEnd comment).getLast? ≠ some '\x7b') :
    IgnoresComment policy script line declared comment := by
  obtain ⟨front, behind, lines⟩ := List.append_of_mem takes.mem
  obtain ⟨blanks, apart, blank, otherLines⟩ := SourceLine.ofScript_withComment lines oneLine
  have remarked := SourceLine.isRemark_remark blank apart noBracket noBrace
  have distinct := SourceLine.nodup_ofScript script
  obtain ⟨_, _, whole, _, checked, _, finished⟩ := ReadState.ofLines_checked policy script
  obtain ⟨_, _, otherWhole, _, rechecked, _, refinished⟩ :=
    ReadState.ofLines_checked policy (SourceLine.withComment script line.number comment)
  rw [lines] at whole distinct takes
  rw [otherLines] at otherWhole
  obtain ⟨_, again, together⟩ := takes.exists_oneMore distinct bracketed nothing remarked whole
  rw [otherWhole] at again
  cases again
  obtain ⟨_, checkedAgain, together⟩ := together.checkInlines checked
  rw [rechecked] at checkedAgain
  cases checkedAgain
  obtain ⟨bare, journal, uses, others, rfl, rfl, _⟩ := together
  have mild : (declared.notice line (SourceLine.remark comment)).severity = .warning := rfl
  simp only [IgnoresComment, ofScript, ofInterrupted, finished, refinished]
  refine ⟨journal.warnings, bare.journal.warnings, List.filter_append _ _, ?_⟩
  have sameLength : (front ++ line.withTail (blanks ++ SourceLine.remark comment) :: behind).length =
      (front ++ line :: behind).length := by
    simp only [List.length_append, List.length_cons]
  have errors : ((journal ++ [declared.notice line (SourceLine.remark comment)]) ++ bare.journal).errors =
      (journal ++ bare.journal).errors := by
    simp [Journal.errors, Journal.ofSeverity, mild]
  have warnings : ((journal ++ [declared.notice line (SourceLine.remark comment)]) ++ bare.journal).warnings =
      journal.warnings ++ declared.notice line (SourceLine.remark comment) :: bare.journal.warnings := by
    simp [Journal.warnings, Journal.ofSeverity, mild]
  rw [lines, otherLines]
  simp only [ReadState.behind, errors, warnings, sameLength]
  rfl

/-- The only column of a table. -/
theorem takesColumn_only
    (lines : SourceLine.ofScript script = [⟨"Table a \x7b", 1, 0⟩, line, ⟨"\x7d", 3, 0⟩])
    (other : line.isClosing = false) (plain : LineKind.opensBlock line.text.toList = false)
    (kind : LineKind.classify true line.text.toList = .columnLike)
    (read : ColumnLine.read? line.text.toList = some declared) (column : declared.isAccepted = true) :
    ReadState.TakesColumn {} (SourceLine.ofScript script) line declared := by
  let header : SourceLine := ⟨"Table a \x7b", 1, 0⟩
  let closing : SourceLine := ⟨"\x7d", 3, 0⟩
  have begins : header ∈ ReadState.stepLines {} {} (SourceLine.ofScript script) := by
    rw [lines, ReadState.stepLines]
    split <;> exact List.mem_cons_self
  have headed : TableHeader.read? header.text.toList = some ⟨['a'], 6, none, true⟩ := by decide +kernel
  have items : (Body.ofLines [line, closing]).items = [] ++ .column line :: [] := by
    have nothing : (Body.ofLines [closing]).items = [] := by decide +kernel
    rw [Body.ofLines_column other plain kind]
    exact congrArg (.column line :: ·) nothing
  exact .intro (lines.trans (List.nil_append _).symm) begins (by decide +kernel) headed (by decide +kernel)
    rfl items read column

/-- A bracket that is closed behind the settings of a column is taken for their end, and what stands in front
of it for a setting that is not known. -/
theorem kept_of_bracket {tail : List Char} (bracket : ']' ∈ tail)
    (read : ColumnLine.read? ("id integer [pk]".toList ++ tail) = some declared) :
    Setting.kept Column.settingNames declared.settingList ≠ [] := by
  obtain ⟨inside, rest, rfl, last⟩ := exists_eq_append_cons_of_mem bracket
  let content := "pk]".toList ++ inside
  have plainName : ColumnName.Written ⟨['i', 'd'], false⟩ ['i', 'd'] := by
    rw [ColumnName.Written, if_neg Bool.false_ne_true]
  have isBare : ColumnName.IsBare ['i', 'd'] :=
    ⟨'i', ['d'], rfl, by decide, by decide, by decide, List.forall_mem_singleton.mpr (by decide)⟩
  have typed : Lexeme.IsColumnType "integer".toList :=
    (Lexeme.isColumnType_iff (by decide)).mp (by decide +kernel)
  have reread := ColumnLine.read?_append
    (ColumnLine.read?_written (some content) plainName (fun _ => isBare) typed) rfl last
  have text : "id integer [pk]".toList ++ (inside ++ ']' :: rest) =
      ['i', 'd'] ++ ' ' :: ("integer".toList ++ bracketedText (some content)) ++ rest := by
    simp [bracketedText, content]
  rw [text, reread] at read
  cases read
  have plain : ∀ c ∈ ['p', 'k', ']'], c ∉ Nesting.marks ∧ c ≠ ':' := by simp [Nesting.marks]
  obtain ⟨setting, among, front⟩ :
      ∃ setting ∈ Setting.readAll content, "pk]".toList <+: setting.key.toList :=
    Setting.exists_key_front plain (by decide) (by decide) inside
  have marked : ']' ∈ setting.name.toList :=
    Setting.mem_name (front.subset (by decide)) (by decide) (by decide) (by decide)
  have noMark : ∀ name ∈ Column.settingNames, ']' ∉ name.toList := by decide
  have isKept : setting.key ∈ (Setting.kept Column.settingNames (Setting.readAll content)).map Prod.fst :=
    Setting.mem_keys_kept.mpr ⟨setting, among, fun meant => noMark _ meant marked, rfl⟩
  intro (nothing : Setting.kept Column.settingNames (Setting.readAll content) = [])
  rw [nothing] at isKept
  cases isKept

/-- With a bracket in the comment a column that had no properties has one. -/
theorem not_ignoresComment_of_bracket (oneLine : '\n' ∉ comment) (bracket : ']' ∈ comment) :
    ¬IgnoresComment {} "Table a \x7b\n  id integer [pk]\n\x7d" ⟨"id integer [pk]", 2, 2⟩
      ⟨⟨['i', 'd'], false⟩, "integer".toList, some ['p', 'k'], [], 15⟩ comment := by
  let script := "Table a \x7b\n  id integer [pk]\n\x7d"
  let line : SourceLine := ⟨"id integer [pk]", 2, 2⟩
  let header : SourceLine := ⟨"Table a \x7b", 1, 0⟩
  let closing : SourceLine := ⟨"\x7d", 3, 0⟩
  rintro ⟨earlier, later, _, same⟩
  have lines : SourceLine.ofScript script = [header] ++ line :: [closing] := by decide +kernel
  obtain ⟨blanks, _, _, others⟩ := SourceLine.ofScript_withComment lines oneLine
  -- Without the comment there is one column, and it has no properties.
  have bare : ∃ table ∈ (ofScript {} script).tables, ∃ column ∈ table.columns,
      column.name = "id" ∧ column.properties = [] := by
    decide +kernel
  have sameTables : (ofScript {} (SourceLine.withComment script line.number comment)).tables =
      (ofScript {} script).tables := by
    rw [same]
  rw [← sameTables] at bare
  obtain ⟨table, tableRead, column, columnRead, name, properties⟩ := bare
  have loud : ({} : Policy).reportUnknownSettings = true := rfl
  obtain ⟨source, member, declared, read, named, kept⟩ :=
    ((Accounts.ofLines loud _).readFrom table tableRead).columns column columnRead
  rw [others] at member
  -- It is read from its own line.
  have here : source = line.withTail (blanks ++ SourceLine.remark comment) := by
    have noOther : ∀ source ∈ [header, closing],
        (ColumnLine.read? source.text.toList).map (·.name.text) ≠ some "id".toList := by
      decide +kernel
    have sameName : declared.name.text = "id".toList := by
      rw [← name, named, String.toList_ofList]
    have isOther : source ∉ [header, closing] := fun among =>
      noOther source among (by rw [read, Option.map_some, sameName])
    simp only [List.mem_append, List.mem_cons, List.not_mem_nil, or_false, not_or] at member isOther
    exact (member.resolve_left isOther.1).resolve_right isOther.2
  subst here
  rw [SourceLine.toList_text_withTail] at read
  have inside := List.mem_append_right blanks (SourceLine.mem_remark bracket (by decide))
  exact kept_of_bracket inside read (kept.symm.trans properties)

/-- A brace at the end of the comment makes a block of a column that is named like one. -/
theorem not_ignoresComment_of_brace (oneLine : '\n' ∉ comment)
    (brace : (trimEnd comment).getLast? = some '\x7b') :
    ¬IgnoresComment {} "Table a \x7b\n  Table text [pk]\n\x7d" ⟨"Table text [pk]", 2, 2⟩
      ⟨⟨"Table".toList, false⟩, "text".toList, some ['p', 'k'], [], 15⟩ comment := by
  let script := "Table a \x7b\n  Table text [pk]\n\x7d"
  let line : SourceLine := ⟨"Table text [pk]", 2, 2⟩
  let header : SourceLine := ⟨"Table a \x7b", 1, 0⟩
  let closing : SourceLine := ⟨"\x7d", 3, 0⟩
  rintro ⟨earlier, later, _, same⟩
  have lines : SourceLine.ofScript script = [header] ++ line :: [closing] := by decide +kernel
  obtain ⟨blanks, _, _, others⟩ := SourceLine.ofScript_withComment lines oneLine
  have noErrors : (ofScript {} (SourceLine.withComment script line.number comment)).errors = [] := by
    rw [same]
    exact (by decide +kernel : (ofScript {} script).errors = [])
  have opens :
      LineKind.opensBlock (line.withTail (blanks ++ SourceLine.remark comment)).text.toList = true := by
    have last : (line.text.toList ++ (blanks ++ SourceLine.remark comment)).getLast? = some '\x7b' := by
      rw [List.getLast?_append, List.getLast?_append, SourceLine.getLast?_remark brace]
      rfl
    have table : LineKind.classify false
        (line.text.toList ++ (blanks ++ SourceLine.remark comment)) = .table := by
      have own : line.text.toList = "Table".toList ++ ' ' :: 't' :: "ext [pk]".toList := by decide +kernel
      rw [own, List.append_assoc]
      exact LineKind.classify_table (by decide) _
    rw [SourceLine.toList_text_withTail, LineKind.opensBlock, last, table]
    rfl
  obtain ⟨_, _, whole, _⟩ :=
    ReadState.ofLines_checked {} (SourceLine.withComment script line.number comment)
  rw [others] at whole
  obtain ⟨middle, rest, stepped, complete⟩ := ReadState.exists_step_of_readLines whole
  have headed : TableHeader.read? header.text.toList = some ⟨['a'], 6, none, true⟩ := by decide +kernel
  have taken := (ReadState.step_accepted_iff (by decide +kernel) headed (by decide +kernel)).mp stepped
  obtain ⟨found, said, grave⟩ := ReadState.mem_journal_of_opensBlock taken rfl opens
  have reached := (congrArg (ReadState.readLines {} .none {}) others).trans (ReadState.readLines_cons stepped)
  have isError := mem_errors_of_readLines reached said grave
  rw [noErrors] at isError
  cases isError

/-- A comment behind a column with settings changes nothing in what is read but for one warning more,
whichever script and column it is: so it is of just the comments that close no bracket and do not end in an
opening brace. -/
theorem ofScript_withComment_iff (oneLine : '\n' ∉ comment) :
    (∀ policy script line declared,
        ReadState.TakesColumn policy (SourceLine.ofScript script) line declared →
        declared.settings.isSome = true → allBlank declared.rest = true →
        IgnoresComment policy script line declared comment) ↔
      ']' ∉ comment ∧ (trimEnd comment).getLast? ≠ some '\x7b' := by
  constructor
  · intro ignores
    constructor
    · intro bracket
      refine not_ignoresComment_of_bracket oneLine bracket (ignores _ _ _ _ ?_ rfl rfl)
      exact takesColumn_only (by decide +kernel) (by decide) (by decide +kernel) (by decide +kernel)
        (by decide +kernel) (by decide +kernel)
    · intro brace
      refine not_ignoresComment_of_brace oneLine brace (ignores _ _ _ _ ?_ rfl rfl)
      exact takesColumn_only (by decide +kernel) (by decide) (by decide +kernel) (by decide +kernel)
        (by decide +kernel) (by decide +kernel)
  · rintro ⟨noBracket, noBrace⟩ policy script line declared takes bracketed nothing
    exact ignoresComment_of_takesColumn takes bracketed nothing oneLine noBracket noBrace

/-- A comment with quotes, a comma and an opening bracket. -/
theorem ofScript_withComment_plain :
    let comment := "see 'a', [b".toList
    '\n' ∉ comment ∧
      IgnoresComment {} "Table a \x7b\n  id integer [pk]\n\x7d" ⟨"id integer [pk]", 2, 2⟩
        ⟨⟨['i', 'd'], false⟩, "integer".toList, some ['p', 'k'], [], 15⟩ comment := by
  intro comment
  have oneLine : '\n' ∉ comment := by decide
  refine ⟨oneLine, (ofScript_withComment_iff oneLine).mpr (by decide) _ _ _ _ ?_ rfl rfl⟩
  exact takesColumn_only (by decide +kernel) (by decide) (by decide +kernel) (by decide +kernel)
    (by decide +kernel) (by decide +kernel)

/-- With a pair of brackets in its comment a column is not the primary key. -/
theorem ofScript_withComment_brackets :
    let script := "Table a \x7b\n  id integer [pk]\n\x7d"
    let line : SourceLine := ⟨"id integer [pk]", 2, 2⟩
    let declared : ColumnLine := ⟨⟨['i', 'd'], false⟩, "integer".toList, some ['p', 'k'], [], 15⟩
    let comment := "see [1]".toList
    let commented := ofScript {} (SourceLine.withComment script 2 comment)
    ReadState.TakesColumn {} (SourceLine.ofScript script) line declared ∧
      (ofScript {} script).tables.map (fun table => table.columns.map Column.primaryKey) = [[true]] ∧
      commented.tables.map (fun table => table.columns.map Column.primaryKey) = [[false]] ∧
      commented.errors = [] ∧ ¬IgnoresComment {} script line declared comment := by
  intro script line declared comment commented
  have oneLine : '\n' ∉ comment := by decide
  refine ⟨?_, by decide +kernel, by decide +kernel, by decide +kernel,
    not_ignoresComment_of_bracket oneLine (by decide)⟩
  exact takesColumn_only (by decide +kernel) (by decide) (by decide +kernel) (by decide +kernel)
    (by decide +kernel) (by decide +kernel)

end Reading

end TableScript
