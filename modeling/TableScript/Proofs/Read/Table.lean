import TableScript.Proofs.Grammar.TableHeader
import TableScript.Proofs.Read.Column

namespace TableScript

namespace TableHeader

def settingList (header : TableHeader) : List Setting :=
  Setting.readAll (header.settings.getD [])

def bareTable (header : TableHeader) (number : Nat) : Table where
  id := "table_" ++ toString number
  name := String.ofList header.nameParts.2
  schema := header.nameParts.1.map String.ofList

/-- The table as far as the header tells, under its number. -/
def table (header : TableHeader) (number : Nat) : Table :=
  header.settingList.foldl Table.afterSetting (header.bareTable number)

def diagnostics (header : TableHeader) (policy : Policy) (line : SourceLine) : Journal :=
  (header.settingList.flatMap (Setting.tableProblems policy)).map (·.foundAt line 0)

variable {header : TableHeader}

theorem table_kept (header : TableHeader) (number : Nat) :
    (header.table number).id = "table_" ++ toString number ∧
      (header.table number).key =
        ⟨header.nameParts.1.map String.ofList, String.ofList header.nameParts.2⟩ ∧
      (header.table number).columns = [] :=
  Table.foldl_afterSetting_kept (header.bareTable number) header.settingList

theorem kind_of_mem_diagnostics {policy : Policy} {line : SourceLine} {diagnostic : Diagnostic}
    (member : diagnostic ∈ header.diagnostics policy line) : diagnostic.kind ≠ .internal := by
  obtain ⟨problem, found, rfl⟩ := List.mem_map.mp member
  obtain ⟨setting, _, among⟩ := List.mem_flatMap.mp found
  exact Setting.kind_of_mem_problems (.inr (.inl among))

/-- A header that nothing forbids has good names, and no table has them so far. -/
theorem isIdentifier_of_nameProblems_eq_nil {catalog : Catalog} (allowed : header.nameProblems catalog = []) :
    Lexeme.isIdentifier header.nameParts.2 = true ∧
      (∀ schema ∈ header.nameParts.1, Lexeme.isIdentifier schema = true) ∧
      catalog.contains ⟨header.nameParts.1.map String.ofList, String.ofList header.nameParts.2⟩ =
        false := by
  unfold nameProblems at allowed
  cases parts : header.nameParts with
  | mk schema name =>
      cases named : Lexeme.isIdentifier name with
      | false => cases schema <;> simp [parts, named] at allowed
      | true =>
          cases schema with
          | none => simpa [parts, named] using allowed
          | some text =>
              cases qualified : Lexeme.isIdentifier text with
              | false => simp [parts, named, qualified] at allowed
              | true => simpa [parts, named, qualified] using allowed

/-- What stands in front of the table's own name. -/
def qualifier (header : TableHeader) : List Char :=
  header.nameParts.1.elim [] (· ++ ['.'])

/-- What is wrong with the name in a header is wrong with the whole name, its schema or the table's own name,
and is found where that begins. -/
theorem eq_of_mem_nameProblems {catalog : Catalog} {found : Problem × Nat}
    (member : found ∈ header.nameProblems catalog) :
    found = (.duplicateTable (String.ofList header.name), header.nameOffset) ∨
      (∃ schema ∈ header.nameParts.1, found = (.badSchemaName (String.ofList schema), header.nameOffset)) ∨
      found = (.badTableName (String.ofList header.nameParts.2),
        header.nameOffset + header.qualifier.length) := by
  unfold nameProblems at member
  unfold qualifier
  cases parts : header.nameParts with
  | mk schema name =>
      simp only [parts] at member
      split at member
      · split at member
        · exact .inl (List.mem_singleton.mp member)
        · cases member
      · rcases List.mem_append.mp member with ofSchema | ofName
        · split at ofSchema
          · split at ofSchema
            · cases ofSchema
            · exact .inr (.inl ⟨_, rfl, List.mem_singleton.mp ofSchema⟩)
          · cases ofSchema
        · split at ofName
          · cases ofName
          · refine .inr (.inr ((List.mem_singleton.mp ofName).trans ?_))
            cases schema with
            | none => rfl
            | some schema => simp [Nat.add_assoc]

/-- What can be wrong with the name in a header. -/
inductive NameProblem : Problem → Prop where
  | schema (name : String) : NameProblem (.badSchemaName name)
  | table (name : String) : NameProblem (.badTableName name)
  | duplicate (name : String) : NameProblem (.duplicateTable name)

theorem NameProblem.grave {problem : Problem} (wrong : NameProblem problem) :
    problem.severity = .error ∧ problem.kind ≠ .internal := by
  cases wrong <;> simp [Problem.severity, Problem.kind]

theorem nameProblem_of_mem {catalog : Catalog} {found : Problem × Nat}
    (member : found ∈ header.nameProblems catalog) : NameProblem found.1 := by
  rcases eq_of_mem_nameProblems member with rfl | ⟨schema, _, rfl⟩ | rfl
  · exact .duplicate _
  · exact .schema _
  · exact .table _

theorem kind_of_mem_nameProblems {catalog : Catalog} {found : Problem × Nat}
    (member : found ∈ header.nameProblems catalog) : found.1.kind ≠ .internal :=
  (nameProblem_of_mem member).grave.2

end TableHeader

namespace ReadState

/-- The state with what is wrong at places of a line. -/
def reportAll (state : ReadState) (line : SourceLine) (problems : List (Problem × Nat)) : ReadState :=
  problems.foldl (fun (state : ReadState) (problem, offset) => state.reportAt problem line offset) state

def withHeader (state : ReadState) (policy : Policy) (line : SourceLine) (header : TableHeader) :
    ReadState :=
  { state.adding [] (header.diagnostics policy line) with
    tablesNumbered := state.tablesNumbered + 1 }

/-- What the lines behind a header add to the table, and which lines are left. -/
def readBody (policy : Policy) (line : SourceLine) (header : TableHeader)
    (following : List SourceLine) (progress : ReadState × Table) :
    (ReadState × Table) × List SourceLine :=
  match header.bodyLines? following with
  | none => (progress, following)
  | some lines =>
      let body := Body.ofLines lines
      let (state, table) := body.items.foldl (takeBodyItem policy) progress
      ((if body.closed then state else state.report (.unclosedTable table.qualifiedName) line,
        table), body.rest)

theorem readAcceptedTable_eq (policy : Policy) (state : ReadState) (line : SourceLine)
    (header : TableHeader) (following : List SourceLine) :
    readAcceptedTable policy state line header following =
      let ((after, table), rest) := readBody policy line header following
        (state.withHeader policy line header, header.table state.tablesNumbered)
      match after.catalog.declare table with
      | .ok catalog => .ok ({ after with catalog }, rest)
      | .error refusal => .error refusal := by
  have settings := foldl_takeTableSetting policy state.numberTable.2 line
    (header.bareTable state.tablesNumbered) header.settingList
  simp only [numberTable, TableHeader.bareTable, TableHeader.settingList] at settings
  simp only [readAcceptedTable, numberTable, settings, readBody]
  cases header.bodyLines? following <;> rfl

end ReadState

def BodyItem.line : BodyItem → SourceLine
  | .column line => line
  | .note line => line
  | .indexes line _ => line
  | .other line => line

theorem Body.line_mem {lines : List SourceLine} {item : BodyItem}
    (member : item ∈ (Body.ofLines lines).items) : item.line ∈ lines := by
  have goesOn : ∀ {line : SourceLine} {first : BodyItem} {rest : List SourceLine} {body : Body},
      first.line = line → (item ∈ body.items → item.line ∈ rest) →
      item ∈ (body.cons first).items → item.line ∈ line :: rest := by
    intro line first rest body same later member
    rcases List.mem_cons.mp member with rfl | inside
    · simp [same]
    · exact List.mem_cons_of_mem line (later inside)
  fun_induction Body.ofLines lines with
  | case1 => cases member
  | case2 => cases member
  | case3 => cases member
  | case4 line rest _ _ _ ih => exact goesOn rfl ih member
  | case5 line rest _ _ _ ih => exact goesOn rfl ih member
  | case6 line rest _ _ _ skipped ih =>
      exact goesOn rfl (fun inside => (Skipped.ofHeader_suffix line rest).subset (ih inside)) member
  | case7 line rest _ _ _ _ _ ih => exact goesOn rfl ih member

end TableScript
