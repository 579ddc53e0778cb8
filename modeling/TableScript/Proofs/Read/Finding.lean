import TableScript.Proofs.LineKind.Overlap
import TableScript.Proofs.Read.Sound.Inline
import TableScript.Proofs.Read.Step

/-! Where diagnostics point. Every diagnostic says what was found wrong with one line of the script, either
with the line as a whole or with a part that the reader of the line found in it. So the place that it
names stands in what counts of that line. -/

namespace TableScript

namespace TableHeader

variable {text : List Char} {header : TableHeader}

/-- The qualifier is a part of the name. -/
theorem length_qualifier_le (header : TableHeader) : header.qualifier.length ≤ header.name.length := by
  unfold qualifier
  cases qualified : header.nameParts.1 with
  | none => exact Nat.zero_le _
  | some schema =>
      have shorter := length_schema_lt qualified
      rw [Option.elim_some, List.length_append, List.length_singleton]
      omega

theorem offset_le_of_mem_nameProblems (read : read? text = some header) {catalog : Catalog}
    {problem : Problem} {offset : Nat} (member : (problem, offset) ∈ header.nameProblems catalog) :
    offset ≤ text.length := by
  have inside := nameOffset_add_length_le read
  have front := header.length_qualifier_le
  rcases eq_of_mem_nameProblems member with found | ⟨schema, _, found⟩ | found
  all_goals cases found; omega

end TableHeader

theorem ReferenceLine.offset_le_of_resolve_error {text : List Char} {written : ReferenceLine}
    (read : read? text = some written) {catalog : Catalog} {problem : Problem} {offset : Nat}
    (missing : written.resolve catalog = .error (problem, offset)) : offset ≤ text.length := by
  have ends : written.sourceOffset ≤ text.length ∧ written.targetOffset ≤ text.length := by
    simp only [read?, Option.bind_eq_bind, Option.bind_eq_some_iff] at read
    obtain ⟨_, _, _, _, _, _, _, _, _, _, _, _, made⟩ := read
    cases made
    exact ⟨Nat.sub_le _ _, Nat.sub_le _ _⟩
  obtain ⟨endpoint, place, anEnd, found⟩ := eq_missing_of_resolve_error missing
  have same : offset = place := by
    rcases found with found | found <;> exact (Prod.mk.inj found).2
  rw [same]
  rcases List.mem_pair.mp anEnd with source | target
  · exact (Prod.mk.inj source).2 ▸ ends.1
  · exact (Prod.mk.inj target).2 ▸ ends.2

/-- The problem is one of a line as a whole or of a setting in it. -/
def Problem.concernsLine : Problem → Bool
  | .badSchemaName _ | .badTableName _ | .duplicateTable _ | .badColumnName _ | .ignoredText _
  | .missingTable _ | .missingColumn _ _ => false
  | _ => true

/-- What can be found wrong with a line, and how far behind its beginning. -/
inductive Finding (line : SourceLine) : Problem → Nat → Prop where
  | whole {problem : Problem} (concerns : problem.concernsLine = true) : Finding line problem 0
  | header {header : TableHeader} {catalog : Catalog} {problem : Problem} {offset : Nat}
      (kind : LineKind.classify false line.text.toList = .table)
      (read : TableHeader.read? line.text.toList = some header)
      (named : (problem, offset) ∈ header.nameProblems catalog) : Finding line problem offset
  | column {problem : Problem} (refusal : ColumnLine.Refusal line problem) : Finding line problem 0
  | ignored {declared : ColumnLine} (read : ColumnLine.read? line.text.toList = some declared)
      (remains : Text.trim declared.rest ≠ []) :
      Finding line (.ignoredText (String.ofList (Text.trim declared.rest))) declared.restOffset
  | reference {catalog : Catalog} {problem : Problem} {offset : Nat}
      (refusal : ReferenceLine.Refusal line catalog problem offset) : Finding line problem offset
  | lost {catalog : Catalog} {target : Endpoint} {problem : Problem}
      (inColumn : ReferenceLine.read? line.text.toList = none)
      (missing : ReadState.missingTarget? catalog target = some problem) : Finding line problem 0

/-- Nothing is found behind the end of a line. -/
theorem Finding.offset_le {line : SourceLine} {problem : Problem} {offset : Nat}
    (finding : Finding line problem offset) : offset ≤ line.text.toList.length := by
  cases finding with
  | whole | column | lost => exact Nat.zero_le _
  | header _ read named => exact TableHeader.offset_le_of_mem_nameProblems read named
  | ignored read => exact ColumnLine.restOffset_le read
  | reference refusal =>
      cases refusal with
      | malformed => exact Nat.zero_le _
      | unresolved read missing => exact ReferenceLine.offset_le_of_resolve_error read missing

theorem Setting.concernsLine_of_mem_problems {policy : Policy} {setting : Setting} {problem : Problem}
    (member : problem ∈ setting.columnProblems policy ∨ problem ∈ setting.tableProblems policy ∨
      problem ∈ setting.referenceProblems policy) : problem.concernsLine = true := by
  rcases member with column | table | reference
  · unfold columnProblems at column
    dsimp only at column
    repeat' split at column
    all_goals simp at column
    all_goals simp [column, Problem.concernsLine]
  · unfold tableProblems at table
    split at table
    · rw [List.mem_singleton.mp table]
      rfl
    · cases table
  · unfold referenceProblems at reference
    repeat' split at reference
    all_goals simp at reference
    all_goals simp [reference, Problem.concernsLine]

namespace ColumnLine

variable {declared : ColumnLine} {table : Table} {line : SourceLine} {columnNumber referenceNumber : Nat}
  {use : InlineUse}

theorem line_of_mem_inlineUses (among : use ∈ declared.inlineUses table line columnNumber referenceNumber) :
    use.line = line := by
  obtain ⟨_, _, rfl⟩ := List.mem_map.mp among
  rfl

/-- A line whose settings hold a reference does not read as one. -/
theorem reference_eq_none (read : ColumnLine.read? line.text.toList = some declared)
    (accepted : declared.isAccepted = true)
    (among : use ∈ declared.inlineUses table line columnNumber referenceNumber) :
    ReferenceLine.read? line.text.toList = none := by
  rw [Option.eq_none_iff_forall_ne_some]
  intro written reference
  have named : declared.name.quoted = true ∨ Lexeme.isIdentifier declared.name.text = true := by
    simpa using (Bool.and_eq_true_iff.mp accepted).2
  have noSettings := settings_eq_none_of_reference read named reference
  have nothing : declared.settingList = [] := by
    rw [settingList, noSettings]
    rfl
  rw [inlineUses, nothing] at among
  cases among

end ColumnLine

/-- The diagnostic says what was found wrong with one of the lines, and where. -/
def Diagnostic.IsFoundIn (diagnostic : Diagnostic) (lines : List SourceLine) : Prop :=
  ∃ line ∈ lines, ∃ problem offset severity, Finding line problem offset ∧
    diagnostic =
      .make severity problem.kind line.number (line.columnOf offset) problem.message none

theorem Finding.isFoundIn {lines : List SourceLine} {line : SourceLine} {problem : Problem}
    {offset : Nat} (finding : Finding line problem offset) (member : line ∈ lines) :
    (problem.foundAt line offset).IsFoundIn lines :=
  ⟨line, member, problem, offset, problem.severity, finding, rfl⟩

namespace ReadState

/-- All that was found, and all that is still to be looked after, stands in the lines. What is still to be
looked after stands in columns, and no such line reads as a reference. -/
structure StandsIn (lines : List SourceLine) (state : ReadState) : Prop where
  journal : ∀ diagnostic ∈ state.journal, diagnostic.IsFoundIn lines
  inlineUses : ∀ use ∈ state.inlineUses, use.line ∈ lines ∧ ReferenceLine.read? use.line.text.toList = none

variable {policy : Policy} {interrupts : Interrupts} {state after : ReadState} {table : Table}
  {line : SourceLine} {header : TableHeader} {lines following rest : List SourceLine}
  {problem : Problem} {offset : Nat}

namespace StandsIn

theorem initial : StandsIn lines {} := by
  constructor <;> intro _ member <;> cases member

theorem adding (stands : state.StandsIn lines) (uses : List InlineUse) (found : Journal)
    (usesStand : ∀ use ∈ uses, use.line ∈ lines ∧ ReferenceLine.read? use.line.text.toList = none)
    (foundStands : ∀ diagnostic ∈ found, diagnostic.IsFoundIn lines) :
    (state.adding uses found).StandsIn lines := by
  constructor
  · intro diagnostic member
    exact (List.mem_append.mp member).elim (stands.journal diagnostic) (foundStands diagnostic)
  · intro use member
    exact (List.mem_append.mp member).elim (stands.inlineUses use) (usesStand use)

theorem reportAs (stands : state.StandsIn lines) (member : line ∈ lines)
    (finding : Finding line problem offset) (severity : Severity) :
    (state.reportAs severity problem line offset).StandsIn lines := by
  refine { stands with journal := fun diagnostic among => ?_ }
  rcases List.mem_append.mp among with old | new
  · exact stands.journal diagnostic old
  · rw [List.mem_singleton.mp new]
    exact ⟨line, member, problem, offset, severity, finding, rfl⟩

theorem report (stands : state.StandsIn lines) (member : line ∈ lines)
    (finding : Finding line problem 0) : (state.report problem line).StandsIn lines :=
  stands.reportAs member finding problem.severity

theorem noticeBlock (stands : state.StandsIn lines) (member : line ∈ lines) (block : SkippedBlock)
    (tag : String) : (state.noticeBlock block tag line).StandsIn lines := by
  have noted : (state.addFeature tag).StandsIn lines := by
    unfold addFeature
    split
    · exact stands
    · exact { stands with }
  exact noted.report member (.whole rfl)

theorem skipBlock (stands : state.StandsIn lines) (member : line ∈ lines)
    (following : List SourceLine) : (state.skipBlock line following).1.StandsIn lines := by
  unfold ReadState.skipBlock
  dsimp only
  split
  · exact stands
  · exact stands.report member (.whole rfl)

theorem reportAll (stands : state.StandsIn lines) (member : line ∈ lines)
    {problems : List (Problem × Nat)}
    (findings : ∀ found ∈ problems, Finding line found.1 found.2) :
    (state.reportAll line problems).StandsIn lines := by
  induction problems generalizing state with
  | nil => exact stands
  | cons found problems ih =>
      exact ih (stands.reportAs member (findings found List.mem_cons_self) found.1.severity)
        fun other among => findings other (List.mem_cons_of_mem found among)

theorem withColumn (stands : state.StandsIn lines) (member : line ∈ lines) {declared : ColumnLine}
    (read : ColumnLine.read? line.text.toList = some declared) (accepted : declared.isAccepted = true)
    (policy : Policy) (table : Table) :
    (state.withColumn policy table line declared).StandsIn lines := by
  refine { stands.adding (declared.inlineUses table line _ _) (declared.diagnostics policy line)
    ?_ ?_ with }
  · intro use among
    rw [ColumnLine.line_of_mem_inlineUses among]
    exact ⟨member, ColumnLine.reference_eq_none read accepted among⟩
  · intro diagnostic among
    rcases List.mem_append.mp among with ofSettings | ofRest
    · obtain ⟨problem, found, rfl⟩ := List.mem_map.mp ofSettings
      obtain ⟨setting, _, ofSetting⟩ := List.mem_flatMap.mp found
      exact Finding.isFoundIn (.whole (Setting.concernsLine_of_mem_problems (.inl ofSetting))) member
    · split at ofRest
      · cases ofRest
      · rename_i left
        rw [List.mem_singleton.mp ofRest]
        exact Finding.isFoundIn (.ignored read (by simpa using left)) member

theorem withHeader (stands : state.StandsIn lines) (member : line ∈ lines) (policy : Policy)
    (header : TableHeader) : (state.withHeader policy line header).StandsIn lines := by
  refine { stands.adding [] (header.diagnostics policy line) (by simp) ?_ with }
  intro diagnostic among
  obtain ⟨problem, found, rfl⟩ := List.mem_map.mp among
  obtain ⟨setting, _, ofSetting⟩ := List.mem_flatMap.mp found
  exact Finding.isFoundIn (.whole (Setting.concernsLine_of_mem_problems (.inr (.inl ofSetting))))
    member

theorem withReference (stands : state.StandsIn lines) (member : line ∈ lines) (policy : Policy)
    (written : ReferenceLine) (source : Table) :
    (state.withReference policy line written source).StandsIn lines := by
  refine { stands.adding [] (written.diagnostics policy line) (by simp) ?_ with }
  intro diagnostic among
  obtain ⟨problem, found, rfl⟩ := List.mem_map.mp among
  obtain ⟨setting, _, ofSetting⟩ := List.mem_flatMap.mp found
  exact Finding.isFoundIn (.whole (Setting.concernsLine_of_mem_problems (.inr (.inr ofSetting))))
    member

theorem takeBodyItem (stands : state.StandsIn lines) {item : BodyItem} (member : item.line ∈ lines)
    (policy : Policy) (table : Table) :
    (ReadState.takeBodyItem policy (state, table) item).1.StandsIn lines := by
  cases item with
  | column line =>
      rcases readColumn_cases policy state table line with
        ⟨declared, read, accepted, taken⟩ | ⟨problem, refusal, reported⟩
      · simp only [ReadState.takeBodyItem, taken]
        exact stands.withColumn member read accepted policy table
      · simp only [ReadState.takeBodyItem, reported]
        exact stands.report member (.column refusal)
  | note line =>
      simp only [ReadState.takeBodyItem, readNote]
      cases noteText? line.text.toList with
      | none => exact stands.report member (.whole rfl)
      | some text =>
          cases text with
          | nil => exact stands.report member (.whole rfl)
          | cons c text => exact stands
  | indexes line closed =>
      have noticed := stands.noticeBlock member .indexes LineKind.indexes.featureTag
      cases closed with
      | true => exact noticed
      | false => exact noticed.report member (.whole rfl)
  | other line => exact stands.report member (.whole rfl)

theorem foldl_takeBodyItem (stands : state.StandsIn lines) {items : List BodyItem}
    (members : ∀ item ∈ items, item.line ∈ lines) (policy : Policy) (table : Table) :
    (items.foldl (ReadState.takeBodyItem policy) (state, table)).1.StandsIn lines := by
  induction items generalizing state table with
  | nil => exact stands
  | cons item items ih =>
      exact ih (stands.takeBodyItem (members item List.mem_cons_self) policy table)
        (fun other among => members other (List.mem_cons_of_mem item among)) _

theorem readBody (stands : state.StandsIn lines) (member : line ∈ lines)
    (within : following ⊆ lines) (policy : Policy) (header : TableHeader) (table : Table) :
    (ReadState.readBody policy line header following (state, table)).1.1.StandsIn lines := by
  unfold ReadState.readBody
  cases begun : header.bodyLines? following with
  | none => exact stands
  | some bodyLines =>
      have members : ∀ item ∈ (Body.ofLines bodyLines).items, item.line ∈ lines :=
        fun item among =>
          within ((TableHeader.bodyLines?_suffix begun).subset (Body.line_mem among))
      have items := stands.foldl_takeBodyItem members policy table
      dsimp only
      cases (Body.ofLines bodyLines).closed with
      | true => exact items
      | false => exact items.report member (.whole rfl)

theorem readAcceptedTable (stands : state.StandsIn lines) (member : line ∈ lines)
    (within : following ⊆ lines)
    (done : ReadState.readAcceptedTable policy state line header following = .ok (after, rest)) :
    after.StandsIn lines := by
  have body := (stands.withHeader member policy header).readBody member within policy header
    (header.table state.tablesNumbered)
  rw [readAcceptedTable_eq] at done
  dsimp only at done
  split at done
  · cases done
    exact { body with }
  · cases done

theorem readTable (stands : state.StandsIn lines) (member : line ∈ lines) (within : following ⊆ lines)
    (kind : LineKind.classify false line.text.toList = .table)
    (done : ReadState.readTable policy state line following = .ok (after, rest)) :
    after.StandsIn lines := by
  unfold ReadState.readTable at done
  cases read : TableHeader.read? line.text.toList with
  | none =>
      rw [read] at done
      cases done
      exact (stands.report member (.whole rfl)).skipBlock member following
  | some header =>
      rw [read] at done
      dsimp only at done
      split at done
      · exact stands.readAcceptedTable member within done
      · cases done
        exact (stands.reportAll member fun found named => .header kind read named).skipBlock member
          following

theorem readReference (stands : state.StandsIn lines) (member : line ∈ lines) (policy : Policy) :
    (ReadState.readReference policy state line).StandsIn lines := by
  rcases readReference_cases policy state line with
    ⟨written, source, _, _, taken⟩ | ⟨problem, offset, refusal, reported⟩
  · rw [taken]
    exact stands.withReference member policy written source
  · rw [reported]
    exact stands.reportAs member (.reference refusal) problem.severity

theorem step (stands : state.StandsIn lines) (member : line ∈ lines) (within : following ⊆ lines)
    (done : ReadState.step policy interrupts state line following = .ok (after, rest)) :
    after.StandsIn lines := by
  obtain ⟨_, read⟩ := step_eq_ok_iff.mp done
  cases kind : LineKind.classify false line.text.toList with
  | table =>
      rw [kind] at read
      exact stands.readTable member within kind read
  | ref =>
      rw [kind] at read
      cases read
      exact stands.readReference member policy
  | enum | project | tableGroup | indexes =>
      rw [kind] at read
      cases read
      exact (stands.noticeBlock member _ _).skipBlock member following
  | columnLike | note | brace | unknown =>
      rw [kind] at read
      cases read
      exact stands.report member (.whole rfl)

/-- What reading lines finds stands in them. -/
theorem readLines {unread : List SourceLine} (stands : state.StandsIn lines)
    (within : unread ⊆ lines) :
    (ReadState.readLines policy interrupts state unread).1.StandsIn lines := by
  fun_induction ReadState.readLines policy interrupts state unread with
  | case1 state => exact stands
  | case2 state line following after rest done ih =>
      obtain ⟨member, behind⟩ := List.cons_subset.mp within
      exact ih (stands.step member behind done) (List.Subset.trans (step_suffix done).subset behind)
  | case3 state line following failure failed => exact stands

theorem checkInline {check : TargetCheck} {use : InlineUse} (stands : state.StandsIn lines)
    (member : use.line ∈ lines) (inColumn : ReferenceLine.read? use.line.text.toList = none)
    (done : ReadState.checkInline check state use = .ok after) : after.StandsIn lines := by
  unfold ReadState.checkInline at done
  split at done
  · cases done
    exact stands
  · rename_i problem missing
    split at done
    · cases done
      exact stands
    · cases done
      exact stands.reportAs member (.lost inColumn missing) .warning
    · have reported := stands.reportAs member (.lost inColumn missing) .error
      unfold dropInline at done
      split at done
      · cases done
        exact { reported with }
      · cases done

theorem foldlM_checkInline {check : TargetCheck} {uses : List InlineUse}
    (stands : state.StandsIn lines)
    (members : ∀ use ∈ uses, use.line ∈ lines ∧ ReferenceLine.read? use.line.text.toList = none)
    (done : uses.foldlM (ReadState.checkInline check) state = .ok after) : after.StandsIn lines := by
  induction uses generalizing state with
  | nil =>
      cases done
      exact stands
  | cons use uses ih =>
      rw [List.foldlM_cons] at done
      cases first : ReadState.checkInline check state use with
      | error failure =>
          rw [first] at done
          cases done
      | ok middle =>
          rw [first] at done
          obtain ⟨member, inColumn⟩ := members use List.mem_cons_self
          exact ih (stands.checkInline member inColumn first)
            (fun other among => members other (List.mem_cons_of_mem use among)) done

theorem checkInlines {check : TargetCheck} (stands : state.StandsIn lines)
    (done : ReadState.checkInlines check state = .ok after) : after.StandsIn lines := by
  cases check with
  | ignore =>
      cases done
      exact stands
  | warn | fail => exact stands.foldlM_checkInline stands.inlineUses done

end StandsIn

/-- Every diagnostic of a script says what was found wrong with one of its lines. -/
theorem isFoundIn_of_mem_journal (policy : Policy) (script : String) :
    ∀ diagnostic ∈ (ofLines policy .none (SourceLine.ofScript script)).journal,
      diagnostic.IsFoundIn (SourceLine.ofScript script) := by
  obtain ⟨read, after, lines, _, done, _, complete⟩ := ofLines_checked policy script
  have stands : (ReadState.readLines policy .none {} (SourceLine.ofScript script)).1.StandsIn
      (SourceLine.ofScript script) :=
    StandsIn.initial.readLines (List.Subset.refl _)
  rw [lines] at stands
  rw [complete]
  exact (stands.checkInlines done).journal

end ReadState

/-- Every diagnostic points into the content of a line of the script. Counted from one over the pieces between
line feeds, the line of its number is neither blank nor a comment; its column is one of a character of
the line without the blanks around it, or the one right behind the last of them. -/
theorem Reading.diagnostics_point (policy : Policy) (script : String) :
    ∀ diagnostic ∈ (ofScript policy script).errors ++ (ofScript policy script).warnings,
      ∃ raw, 1 ≤ diagnostic.line ∧
        (script.toList.splitOn '\n')[diagnostic.line.toNat - 1]? = some raw ∧
        let content := Text.trim raw
        let indent := raw.length - (Text.trimStart raw).length
        content ≠ [] ∧ SourceLine.isComment content = false ∧
          (indent : Int) + 1 ≤ diagnostic.column ∧
          diagnostic.column ≤ (indent : Int) + content.length + 1 ∧
          ∀ place < content.length, raw[indent + place]? = content[place]? := by
  intro diagnostic member
  have found : diagnostic ∈ (ReadState.ofLines policy .none (SourceLine.ofScript script)).journal := by
    rcases List.mem_append.mp member with error | warning
    · exact List.mem_of_mem_filter error
    · exact List.mem_of_mem_filter warning
  obtain ⟨line, among, problem, offset, severity, finding, rfl⟩ :=
    ReadState.isFoundIn_of_mem_journal policy script diagnostic found
  obtain ⟨raw, first, piece, counts⟩ := SourceLine.exists_ofRaw?_eq_some among
  obtain ⟨notBlank, noComment, text, indent⟩ := SourceLine.text_and_indent_of_ofRaw? counts
  have inside := finding.offset_le
  rw [text, String.toList_ofList] at inside
  refine ⟨raw, ?_, ?_, notBlank, noComment, ?_, ?_, fun place fits => ?_⟩
  · change 1 ≤ (line.number : Int)
    omega
  · change (script.toList.splitOn '\n')[(line.number : Int).toNat - 1]? = some raw
    exact piece
  · change _ ≤ (line.indent : Int) + offset + 1
    omega
  · change (line.indent : Int) + offset + 1 ≤ _
    omega
  · exact Text.getElem?_indent raw fits

/-- The name behind the dot of an indented header, in the third piece of the script. -/
theorem Reading.diagnostics_point_indented :
    let script := "// tables\n\n\tTable s.9 \x7b\n\x7d"
    let diagnostic := (Problem.badTableName "9").foundAt ⟨"Table s.9 \x7b", 3, 1⟩ 8
    diagnostic ∈ (ofScript {} script).errors ++ (ofScript {} script).warnings ∧
      diagnostic.line = 3 ∧ diagnostic.column = 10 ∧
      ∃ raw, (script.toList.splitOn '\n')[2]? = some raw ∧ Text.trim raw ≠ [] ∧
        diagnostic.column ≤
          (raw.length - (Text.trimStart raw).length : Nat) + (Text.trim raw).length + 1 := by
  intro script diagnostic
  have member : diagnostic ∈ (ofScript {} script).errors ++ (ofScript {} script).warnings := by
    decide +kernel
  obtain ⟨raw, _, piece, notBlank, _, _, within, _⟩ := diagnostics_point {} script diagnostic member
  exact ⟨member, rfl, rfl, raw, piece, notBlank, within⟩

end TableScript
