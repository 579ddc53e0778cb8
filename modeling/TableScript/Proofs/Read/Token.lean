import TableScript.Proofs.LineKind.Dispatch
import TableScript.Proofs.Read.Finding
import TableScript.Proofs.Wording

/-! What stands where a diagnostic points. A diagnostic that quotes a name, an endpoint or a text of the line
points at it, and the line goes on with it from there. There is one exception: text behind the settings of a
column is quoted without the blanks in front of it, but the diagnostic points at these. -/

namespace TableScript

open Text

/-- What the problem quotes of the content of a line stands in it at the place. -/
def Problem.StandsAt (content : List Char) (place : Nat) : Problem → Prop
  | .missingTable name => ∀ written, ReferenceLine.read? content = some written →
      name.toList <+: content.drop place
  | .missingColumn table column => ∀ written, ReferenceLine.read? content = some written →
      ∃ endpoint ∈ [written.source, written.target], endpoint.table = table ∧ endpoint.column = column ∧
        endpoint.written.toList <+: content.drop place
  | .ignoredText text => ∃ declared, ColumnLine.read? content = some declared ∧
      content.drop place = declared.rest ∧ text.toList = trim declared.rest ∧ trim declared.rest ≠ []
  | problem => problem.quotesName = true → problem.quoted.toList <+: content.drop place

variable {text : List Char} {problem : Problem} {place : Nat}

namespace Text

/-- Blanks at the end make no difference to a text without the blanks around it. -/
theorem trim_append_blanks {blanks : List Char} (nonempty : trim text ≠ [])
    (blank : ∀ c ∈ blanks, isBlank c = true) : trim (text ++ blanks) = trim text := by
  have left : trimStart text ≠ [] := by
    intro nothing
    rw [trim, nothing] at nonempty
    exact nonempty rfl
  have reversed : ∀ c ∈ blanks.reverse, isBlank c = true := fun c member =>
    blank c (List.mem_reverse.mp member)
  have start : trimStart (text ++ blanks) = trimStart text ++ blanks := dropWhile_append_of_left left blanks
  rw [trim, start, trimEnd, List.reverse_append, List.dropWhile_append_of_pos reversed]
  rfl

/-- A text begins with itself without the blanks around it just if no blank stands in front of it. -/
theorem trim_prefix_iff (nonempty : trim text ≠ []) :
    trim text <+: text ↔ ∀ c ∈ text.head?, isBlank c = false := by
  constructor
  · rintro ⟨rest, whole⟩ c head
    rw [← whole, List.head?_append_of_ne_nil _ nonempty] at head
    exact (isTrimmed_trim text).1 c head
  · intro plain
    have start := trimStart_of_head? plain
    have front := trimEnd_isPrefix (trimStart text)
    rwa [start, ← start, ← trim, start] at front

end Text

namespace TableHeader

variable {header : TableHeader}

/-- A name that does not begin with a dot is what its parts are. -/
theorem name_eq (begun : header.name.head? ≠ some '.') :
    header.name = header.qualifier ++ header.nameParts.2 := by
  unfold qualifier nameParts
  cases cut : cutAtLast '.' header.name with
  | none => rfl
  | some parts =>
      obtain ⟨schema, name⟩ := parts
      have whole := eq_append_of_cutAtLast cut
      cases schema with
      | nil => exact absurd (congrArg List.head? whole) begun
      | cons c schema => simpa using whole

/-- The name of a line that is taken for a header does not begin with a dot. -/
theorem head_name_ne_dot (read : read? text = some header)
    (kind : LineKind.classify false text = .table) : header.name.head? ≠ some '.' := by
  obtain ⟨blank, rest, behind, found, isBlank, start⟩ := exists_after?_eq_blank_cons read
  intro dot
  have column : LineKind.classify false text = .columnLike := by
    refine LineKind.classify_dottedHeader found isBlank ?_
    rw [start, List.head?_append, dot]
    rfl
  rw [kind] at column
  cases column

/-- Behind the schema and its dot stands the table's own name. -/
theorem drop_qualifier (read : read? text = some header)
    (kind : LineKind.classify false text = .table) :
    header.name <+: text.drop header.nameOffset ∧
      header.nameParts.2 <+: text.drop (header.nameOffset + header.qualifier.length) := by
  obtain ⟨front, behind, rfl, length⟩ := exists_eq_append_name read
  have atName : (front ++ header.name ++ behind).drop header.nameOffset = header.name ++ behind := by
    rw [List.append_assoc, ← length, List.drop_left]
  refine ⟨⟨behind, atName.symm⟩, ⟨behind, ?_⟩⟩
  rw [← List.drop_drop, atName]
  conv_rhs => rw [name_eq (head_name_ne_dot read kind), List.append_assoc]
  rw [List.drop_left]

theorem standsAt_of_mem_nameProblems (read : read? text = some header)
    (kind : LineKind.classify false text = .table) {catalog : Catalog}
    (member : (problem, place) ∈ header.nameProblems catalog) : problem.StandsAt text place := by
  obtain ⟨whole, own⟩ := drop_qualifier read kind
  have split_eq := name_eq (head_name_ne_dot read kind)
  rcases eq_of_mem_nameProblems member with found | ⟨schema, qualified, found⟩ | found
  · cases found
    intro _
    simpa only [Problem.quoted, String.toList_ofList] using whole
  · cases found
    intro _
    have front : schema <+: header.name := by
      rw [split_eq, qualifier, qualified, Option.elim_some, List.append_assoc]
      exact List.prefix_append schema _
    simpa only [Problem.quoted, String.toList_ofList] using front.trans whole
  · cases found
    intro _
    simpa only [Problem.quoted, String.toList_ofList] using own

end TableHeader

namespace ReferenceLine

variable {written : ReferenceLine}

theorem readName_suffix (text : List Char) : (readName text).2 <:+ text := by
  unfold readName
  cases blanks : Lexeme.afterRun? isBlank text with
  | none => exact List.suffix_refl text
  | some rest =>
      obtain ⟨run, rfl, _⟩ := Lexeme.exists_eq_append_of_afterRun? blanks
      dsimp only
      cases word : word? rest with
      | none => exact List.suffix_append run rest
      | some parts =>
          obtain ⟨name, behind⟩ := parts
          obtain ⟨rfl, _⟩ := eq_append_of_word? word
          exact ((trimStart_suffix behind).trans (List.suffix_append name behind)).trans
            (List.suffix_append run _)

end ReferenceLine

theorem Cardinality.suffix_of_read? {cardinality : Cardinality} {behind : List Char}
    (read : Cardinality.read? text = some (cardinality, behind)) : behind <:+ text := by
  unfold Cardinality.read? at read
  split at read
  all_goals cases read
  all_goals simp [List.suffix_cons_iff]

/-- Both endpoints stand in the line at their offsets. -/
theorem ReferenceLine.exists_endpoints {written : ReferenceLine} (read : read? text = some written) :
    written.source.written.toList <+: text.drop written.sourceOffset ∧
      written.target.written.toList <+: text.drop written.targetOffset := by
  simp only [read?, Option.bind_eq_bind, Option.bind_eq_some_iff] at read
  obtain ⟨behindKeyword, keyword, behindColon, colon, ⟨source, behindSource⟩, sourceRead,
    ⟨cardinality, behindSymbol⟩, symbol, ⟨target, behindTarget⟩, targetRead, settings, _, made⟩ := read
  cases made
  have sourceSuffix : trimStart behindColon <:+ text := by
    obtain ⟨word, rfl⟩ := Keyword.exists_eq_append_of_after? keyword
    have named := readName_suffix behindKeyword
    rw [eq_append_of_after? colon] at named
    exact (((trimStart_suffix behindColon).trans (List.suffix_append _ behindColon)).trans named).trans
      (List.suffix_append word behindKeyword)
  obtain ⟨sourceText, _⟩ := Endpoint.eq_written_append_of_read? sourceRead
  obtain ⟨targetText, _⟩ := Endpoint.eq_written_append_of_read? targetRead
  have targetSuffix : trimStart behindSymbol <:+ text := by
    have behind : behindSource <:+ trimStart behindColon := ⟨_, sourceText.symm⟩
    exact ((((trimStart_suffix behindSymbol).trans (Cardinality.suffix_of_read? symbol)).trans
      (trimStart_suffix behindSource)).trans behind).trans sourceSuffix
  dsimp only
  rw [← List.suffix_iff_eq_drop.mp sourceSuffix, ← List.suffix_iff_eq_drop.mp targetSuffix]
  exact ⟨⟨behindSource, sourceText.symm⟩, ⟨behindTarget, targetText.symm⟩⟩

theorem Endpoint.qualify_prefix_written (endpoint : Endpoint) :
    (qualify endpoint.schema endpoint.table).toList <+: endpoint.written.toList := by
  rw [written, String.append_assoc, String.toList_append]
  exact List.prefix_append _ _

/-- What is not found of a reference stands in its line. -/
theorem ReferenceLine.standsAt_of_resolve_error {written : ReferenceLine} (read : read? text = some written)
    {catalog : Catalog} (missing : written.resolve catalog = .error (problem, place)) :
    problem.StandsAt text place := by
  obtain ⟨endpoint, offset, anEnd, found⟩ := eq_missing_of_resolve_error missing
  obtain ⟨isEnd, stands⟩ : endpoint ∈ [written.source, written.target] ∧
      endpoint.written.toList <+: text.drop offset := by
    obtain ⟨source, target⟩ := exists_endpoints read
    rcases List.mem_pair.mp anEnd with isSource | isTarget
    · cases isSource
      exact ⟨List.mem_cons_self, source⟩
    · cases isTarget
      exact ⟨List.mem_cons_of_mem _ List.mem_cons_self, target⟩
  have same : ∀ other, read? text = some other → other = written := fun other again =>
    Option.some.inj (again.symm.trans read)
  rcases found with found | found
  · cases found
    intro other again
    exact endpoint.qualify_prefix_written.trans stands
  · cases found
    intro other again
    obtain rfl := same other again
    exact ⟨endpoint, isEnd, rfl, rfl, stands⟩

namespace ColumnLine

variable {declared : ColumnLine}

theorem rest_suffix (read : read? text = some declared) : declared.rest <:+ text := by
  obtain ⟨behindName, behindType, settings, nameRead, blanksRead, _, ended, _⟩ := exists_parts read
  obtain ⟨written, rfl, _⟩ := ColumnName.exists_eq_append_of_read? nameRead
  obtain ⟨blanks, rfl, _⟩ := Lexeme.exists_eq_append_of_afterRun? blanksRead
  have behind : declared.rest <:+ behindType := by
    have suffix := trimStart_suffix behindType
    rw [ended] at suffix
    exact (List.suffix_append settings declared.rest).trans suffix
  exact ((behind.trans (List.suffix_append declared.type behindType)).trans
    (List.suffix_append blanks _)).trans (List.suffix_append written _)

/-- The rest of a column line stands at its offset. Blanks are left in front of it only behind settings. -/
theorem drop_restOffset (read : read? text = some declared) :
    text.drop declared.restOffset = declared.rest ∧
      (declared.settings = none → ∀ c ∈ declared.rest.head?, isBlank c = false) := by
  have suffix := rest_suffix read
  simp only [read?, Option.bind_eq_bind, Option.bind_eq_some_iff] at read
  obtain ⟨_, _, _, _, behindType, _, ended⟩ := read
  split at ended
  · cases ended
    refine ⟨(List.suffix_iff_eq_drop.mp suffix).symm, fun noSettings => ?_⟩
    cases noSettings
  · cases ended
    refine ⟨(List.suffix_iff_eq_drop.mp suffix).symm, fun _ c head => ?_⟩
    have stops := List.head?_dropWhile_not isBlank behindType
    dsimp only at head
    rw [trimStart] at head
    rw [head] at stops
    exact stops

end ColumnLine

theorem Problem.standsAt_of_concernsLine (concerns : problem.concernsLine = true) (content : List Char)
    (place : Nat) : problem.StandsAt content place := by
  cases problem with
  | badSchemaName | badTableName | duplicateTable | badColumnName | ignoredText | missingTable
  | missingColumn => cases concerns
  | _ =>
      intro quotes
      cases quotes

/-- What a finding quotes stands where it was found. -/
theorem Finding.standsAt {line : SourceLine} (finding : Finding line problem place) :
    problem.StandsAt line.text.toList place := by
  cases finding with
  | whole concerns => exact problem.standsAt_of_concernsLine concerns _ _
  | header kind read named => exact TableHeader.standsAt_of_mem_nameProblems read kind named
  | column refusal =>
      cases refusal with
      | malformed =>
          intro quotes
          cases quotes
      | misnamed read bare =>
          intro _
          obtain ⟨written, blanks, behindType, front, form, _⟩ := ColumnLine.exists_eq_append_of_read? read
          rw [ColumnName.Written, if_neg (by simp [bare])] at form
          rw [List.drop_zero, front, form, Problem.quoted, String.toList_ofList, List.append_assoc,
            List.append_assoc]
          exact List.prefix_append _ _
  | ignored read some =>
      exact ⟨_, read, (ColumnLine.drop_restOffset read).1, String.toList_ofList, some⟩
  | reference refusal =>
      cases refusal with
      | malformed =>
          intro quotes
          cases quotes
      | unresolved read missing => exact ReferenceLine.standsAt_of_resolve_error read missing
  | lost inColumn missing =>
      unfold ReadState.missingTarget? at missing
      repeat' split at missing
      all_goals cases missing
      all_goals intro written read
      all_goals rw [inColumn] at read; cases read

namespace Diagnostic

/-- The line of the script that the diagnostic names, with the blanks around it. -/
def rawLine? (diagnostic : Diagnostic) (script : String) : Option (List Char) :=
  (script.toList.splitOn '\n')[diagnostic.line.toNat - 1]?

/-- That line from the column of the diagnostic on. -/
def pointed? (diagnostic : Diagnostic) (script : String) : Option (List Char) :=
  (diagnostic.rawLine? script).map (·.drop (diagnostic.column.toNat - 1))

/-- Read from the column of the diagnostic, the line begins with the text. -/
def PointsAt (diagnostic : Diagnostic) (script text : String) : Prop :=
  ∃ pointed ∈ diagnostic.pointed? script, text.toList <+: pointed

instance (diagnostic : Diagnostic) (script text : String) : Decidable (diagnostic.PointsAt script text) :=
  inferInstanceAs (Decidable (∃ pointed ∈ diagnostic.pointed? script, _))

/-- The reference that the line of the diagnostic gives, if it gives one. -/
def reference? (diagnostic : Diagnostic) (script : String) : Option ReferenceLine :=
  (diagnostic.rawLine? script).bind fun raw => ReferenceLine.read? (trim raw)

/-- The column that the line of the diagnostic declares, if it can declare one. -/
def column? (diagnostic : Diagnostic) (script : String) : Option ColumnLine :=
  (diagnostic.rawLine? script).bind fun raw => ColumnLine.read? (trim raw)

end Diagnostic

theorem Problem.StandsAt.quoted_prefix {content : List Char} (stands : problem.StandsAt content place)
    (named : problem.quotesName = true) : problem.quoted.toList <+: content.drop place := by
  cases problem with
  | badSchemaName | badTableName | duplicateTable | badColumnName => exact stands named
  | _ => cases named

/-- A diagnostic points at what its line is from there on, if no blank stands in front of that. -/
theorem Diagnostic.pointsAt_trim_iff {diagnostic : Diagnostic} {script quoted : String} {pointed : List Char}
    (found : diagnostic.pointed? script = some pointed) (trimmed : trim pointed = quoted.toList)
    (nonempty : trim pointed ≠ []) :
    diagnostic.PointsAt script quoted ↔ ∀ c ∈ pointed.head?, isBlank c = false := by
  rw [← trim_prefix_iff nonempty, trimmed, PointsAt, found]
  simp

theorem Diagnostic.pointsAt_of_prefix {diagnostic : Diagnostic} {script quoted : String}
    {content blanks : List Char} (pointed : diagnostic.pointed? script = some (content ++ blanks))
    (front : quoted.toList <+: content) : diagnostic.PointsAt script quoted :=
  ⟨_, pointed, front.trans (List.prefix_append content blanks)⟩

/-- From the column of a place on, a line of a script goes on like its content from the place on; only blanks
may follow. -/
theorem SourceLine.exists_pointed {script : String} {line : SourceLine} (member : line ∈ ofScript script)
    (inside : place ≤ line.text.toList.length) (severity : Severity) (kind : DiagnosticKind)
    (message : String) :
    let diagnostic := Diagnostic.make severity kind line.number (line.columnOf place) message none
    ∃ raw blanks, diagnostic.rawLine? script = some raw ∧ trim raw = line.text.toList ∧
      diagnostic.pointed? script = some (line.text.toList.drop place ++ blanks) ∧
      ∀ c ∈ blanks, isBlank c = true := by
  intro diagnostic
  obtain ⟨raw, first, piece, counts⟩ := exists_ofRaw?_eq_some member
  obtain ⟨_, _, content, indent⟩ := text_and_indent_of_ofRaw? counts
  obtain ⟨lead, start⟩ := trimStart_suffix raw
  obtain ⟨blanks, ending, blank⟩ := exists_eq_trimEnd_append (trimStart raw)
  have text_eq : line.text.toList = trimEnd (trimStart raw) := by rw [content, String.toList_ofList, trim]
  have found : diagnostic.rawLine? script = some raw := piece
  refine ⟨raw, blanks, found, text_eq.symm, ?_, blank⟩
  have width : lead.length = line.indent := by
    have length := congrArg List.length start
    rw [List.length_append] at length
    omega
  have column : diagnostic.column.toNat - 1 = lead.length + place := by
    change ((line.indent : Int) + place + 1).toNat - 1 = _
    omega
  rw [Diagnostic.pointed?, found, Option.map_some, column, ← start, ← List.drop_drop, List.drop_left, ending,
    ← text_eq, List.drop_append_of_le_length inside]

/-- What a diagnostic quotes of its line stands where it points, in the line as it is in the script. That goes
for a bad name of a schema, a table or a column, for the name of a table that is there already, for a table
that a reference does not find and for the endpoint whose column it does not find. For text that is ignored
behind a column it goes just where no blank stands in front of the text, and so wherever the column has no
settings. -/
theorem Reading.diagnostics_quote (policy : Policy) (script : String) :
    ∀ diagnostic ∈ (ofScript policy script).errors ++ (ofScript policy script).warnings,
      (∀ front ∈ Problem.nameWordings, ∀ text, diagnostic.message = front ++ text →
        diagnostic.PointsAt script text) ∧
      (∀ written, diagnostic.reference? script = some written →
        (∀ text, diagnostic.message = "Referenced table not found: " ++ text →
          diagnostic.PointsAt script text) ∧
        ∀ text, diagnostic.message = "Referenced column not found: " ++ text →
          ∃ endpoint ∈ [written.source, written.target],
            text = endpoint.table ++ "." ++ endpoint.column ∧ diagnostic.PointsAt script endpoint.written) ∧
      ∀ text, diagnostic.message = "Unexpected content after column definition ignored: " ++ text →
        ∃ declared pointed, diagnostic.column? script = some declared ∧
          diagnostic.pointed? script = some pointed ∧ trim pointed = text.toList ∧
          (diagnostic.PointsAt script text ↔ ∀ c ∈ pointed.head?, isBlank c = false) ∧
          (declared.settings = none → diagnostic.PointsAt script text) := by
  intro diagnostic member
  have found : diagnostic ∈ (ReadState.ofLines policy .none (SourceLine.ofScript script)).journal := by
    rcases List.mem_append.mp member with error | warning
    · exact List.mem_of_mem_filter error
    · exact List.mem_of_mem_filter warning
  obtain ⟨line, among, problem, place, severity, finding, rfl⟩ :=
    ReadState.isFoundIn_of_mem_journal policy script diagnostic found
  obtain ⟨raw, blanks, isRaw, content, pointed, blank⟩ :=
    SourceLine.exists_pointed among finding.offset_le severity problem.kind problem.message
  have stands := finding.standsAt
  refine ⟨fun front known text said => ?_, fun written reads => ⟨fun text said => ?_, fun text said => ?_⟩,
    fun text said => ?_⟩
  · obtain ⟨named, rfl⟩ := Problem.quotesName_of_message known said
    exact Diagnostic.pointsAt_of_prefix pointed (stands.quoted_prefix named)
  · obtain rfl := Problem.eq_missingTable said
    rw [Diagnostic.reference?, isRaw, Option.bind_some, content] at reads
    exact Diagnostic.pointsAt_of_prefix pointed (stands written reads)
  · obtain ⟨table, column, rfl, rfl⟩ := Problem.eq_missingColumn said
    rw [Diagnostic.reference?, isRaw, Option.bind_some, content] at reads
    obtain ⟨endpoint, anEnd, rfl, rfl, front⟩ := stands written reads
    exact ⟨endpoint, anEnd, rfl, Diagnostic.pointsAt_of_prefix pointed front⟩
  · obtain rfl := Problem.eq_ignoredText said
    obtain ⟨declared, read, rest, text_eq, nonempty⟩ := stands
    rw [rest] at pointed
    have trimmed := trim_append_blanks nonempty blank
    have points := Diagnostic.pointsAt_trim_iff pointed (trimmed.trans text_eq.symm) (by rwa [trimmed])
    refine ⟨declared, _, ?_, pointed, trimmed.trans text_eq.symm, points, fun noSettings => points.mpr ?_⟩
    · rw [Diagnostic.column?, isRaw, Option.bind_some, content, read]
    · have restSome : declared.rest ≠ [] := by
        intro nothing
        rw [nothing] at nonempty
        exact nonempty rfl
      rw [List.head?_append_of_ne_nil _ restSome]
      exact (ColumnLine.drop_restOffset read).2 noSettings

/-- A column that is not there, at the end of an indented reference, and the name of a table behind a dot. -/
theorem Reading.diagnostics_quote_indented :
    let script := "Table s.a \x7b\n  id integer // key\n\x7d\n\u2003Ref: s.a.id > s.a.no\n\tTable s.9 \x7b\n\x7d"
    let ignored := (Problem.ignoredText "// key").foundAt ⟨"id integer // key", 2, 2⟩ 11
    let missing := (Problem.missingColumn "a" "no").foundAt ⟨"Ref: s.a.id > s.a.no", 4, 1⟩ 14
    let misnamed := (Problem.badTableName "9").foundAt ⟨"Table s.9 \x7b", 5, 1⟩ 8
    let said := (ofScript {} script).errors ++ (ofScript {} script).warnings
    ignored ∈ said ∧ missing ∈ said ∧ misnamed ∈ said ∧ ignored.PointsAt script "// key" ∧
      missing.PointsAt script "s.a.no" ∧ misnamed.PointsAt script "9" := by
  intro script ignored missing misnamed said
  have ignoredSaid : ignored ∈ said := by decide +kernel
  have missingSaid : missing ∈ said := by decide +kernel
  have misnamedSaid : misnamed ∈ said := by decide +kernel
  refine ⟨ignoredSaid, missingSaid, misnamedSaid, ?_, ?_, ?_⟩
  · obtain ⟨declared, _, column, _, _, _, points⟩ :=
      (diagnostics_quote {} script ignored ignoredSaid).2.2 "// key" rfl
    refine points ?_
    have noSettings : (ignored.column? script).bind ColumnLine.settings = none := by decide +kernel
    rwa [column] at noSettings
  · have reads : missing.reference? script = some ⟨none, ⟨some "s", "a", "id"⟩, 5, .oneToMany,
        ⟨some "s", "a", "no"⟩, 14, none⟩ := by decide +kernel
    obtain ⟨endpoint, anEnd, quoted, points⟩ :=
      ((diagnostics_quote {} script missing missingSaid).2.1 _ reads).2 "a.no" (by decide +kernel)
    rcases List.mem_pair.mp anEnd with rfl | rfl
    · exact absurd quoted (by decide +kernel)
    · have written : Endpoint.written ⟨some "s", "a", "no"⟩ = "s.a.no" := by decide +kernel
      rwa [written] at points
  · exact (diagnostics_quote {} script misnamed misnamedSaid).1 _ (by decide) "9" rfl

/-- Behind settings the diagnostic points at the blank in front of the text that is ignored. -/
theorem Reading.ignoredText_behindSettings :
    let script := "Table a \x7b\n  id integer [pk] // key\n\x7d"
    let ignored := (Problem.ignoredText "// key").foundAt ⟨"id integer [pk] // key", 2, 2⟩ 15
    ignored ∈ (ofScript {} script).warnings ∧
      ignored.message = "Unexpected content after column definition ignored: " ++ "// key" ∧
      ¬ignored.PointsAt script "// key" := by
  decide +kernel

end TableScript
