import TableScript.Proofs.Grammar.ColumnLine
import TableScript.Proofs.Read.Settings
import TableScript.Read.Table

namespace TableScript

namespace ColumnLine

/-- The line declares a column: its name may be one, and no second list of settings follows. -/
def isAccepted (declared : ColumnLine) : Bool :=
  (Text.trim declared.rest).head? != some '[' &&
    (declared.name.quoted || Lexeme.isIdentifier declared.name.text)

def settingList (declared : ColumnLine) : List Setting :=
  Setting.readAll (declared.settings.getD [])

def bareColumn (declared : ColumnLine) (number : Nat) : Column where
  id := "col_" ++ toString number
  name := String.ofList declared.name.text
  type := String.ofList declared.type
  quotedName := declared.name.quoted

def column (declared : ColumnLine) (number : Nat) : Column :=
  declared.settingList.foldl Column.afterSetting (declared.bareColumn number)

def diagnostics (declared : ColumnLine) (policy : Policy) (line : SourceLine) : Journal :=
  let ignored := Text.trim declared.rest
  Setting.columnDiagnostics policy line declared.settingList ++
    if ignored.isEmpty then []
    else [(Problem.ignoredText (String.ofList ignored)).foundAt line declared.restOffset]

def inlineUses (declared : ColumnLine) (table : Table) (line : SourceLine)
    (columnNumber referenceNumber : Nat) : List InlineUse :=
  table.inlineUses ("col_" ++ toString columnNumber) (String.ofList declared.name.text) line
    declared.settingList referenceNumber

/-- What is said of a line that declares no column. -/
inductive Refusal (line : SourceLine) : Problem → Prop where
  | malformed : Refusal line (.badColumn line.text)
  | misnamed {declared : ColumnLine} (read : ColumnLine.read? line.text.toList = some declared)
      (bare : declared.name.quoted = false) :
      Refusal line (.badColumnName (String.ofList declared.name.text))

theorem Refusal.grave {line : SourceLine} {problem : Problem} (refusal : Refusal line problem) :
    problem.severity = .error ∧ problem.kind ≠ .internal := by
  cases refusal <;> simp [Problem.severity, Problem.kind]

variable {declared : ColumnLine}

theorem column_kept (declared : ColumnLine) (number : Nat) :
    (declared.column number).id = "col_" ++ toString number ∧
      (declared.column number).name = String.ofList declared.name.text ∧
      (declared.column number).type = String.ofList declared.type ∧
      (declared.column number).quotedName = declared.name.quoted :=
  Column.foldl_afterSetting_kept (declared.bareColumn number) declared.settingList

theorem kind_of_mem_diagnostics {policy : Policy} {line : SourceLine} {diagnostic : Diagnostic}
    (member : diagnostic ∈ declared.diagnostics policy line) : diagnostic.kind ≠ .internal := by
  rcases List.mem_append.mp member with ofSettings | ofRest
  · obtain ⟨problem, found, rfl⟩ := List.mem_map.mp ofSettings
    obtain ⟨setting, _, among⟩ := List.mem_flatMap.mp found
    exact Setting.kind_of_mem_problems (.inl among)
  · split at ofRest
    · cases ofRest
    · rw [List.mem_singleton.mp ofRest]
      simp [Problem.kind]

end ColumnLine

namespace ReadState

variable {policy : Policy} {state : ReadState} {table : Table} {line : SourceLine}
  {declared : ColumnLine}

def withColumn (state : ReadState) (policy : Policy) (table : Table) (line : SourceLine)
    (declared : ColumnLine) : ReadState :=
  { state.adding (declared.inlineUses table line state.columnsNumbered state.referencesNumbered)
      (declared.diagnostics policy line) with
    columnsNumbered := state.columnsNumbered + 1 }

theorem readColumn_accepted (read : ColumnLine.read? line.text.toList = some declared)
    (accepted : declared.isAccepted = true) :
    readColumn policy table state line =
      (state.withColumn policy table line declared,
        some (declared.column state.columnsNumbered)) := by
  simp only [ColumnLine.isAccepted, Bool.and_eq_true, bne_iff_ne, ne_eq] at accepted
  obtain ⟨noSettings, named⟩ := accepted
  have nameable : (!declared.name.quoted && !Lexeme.isIdentifier declared.name.text) = false := by
    cases quoted : declared.name.quoted <;> simp_all
  have settings := foldl_takeColumnSetting policy state.numberColumn.2 line table
    (declared.bareColumn state.columnsNumbered) declared.settingList
  simp only [numberColumn, ColumnLine.bareColumn, ColumnLine.settingList] at settings
  simp only [readColumn, read, if_neg noSettings, nameable, Bool.false_eq_true, if_false,
    numberColumn, settings]
  split <;> rename_i nothing <;>
    simp [nothing, withColumn, ColumnLine.diagnostics, ColumnLine.inlineUses, ColumnLine.column,
      ColumnLine.bareColumn, ColumnLine.settingList, reportAt_eq_adding, adding]

/-- A line declares a column, or it is reported and that is all. -/
theorem readColumn_cases (policy : Policy) (state : ReadState) (table : Table) (line : SourceLine) :
    (∃ declared, ColumnLine.read? line.text.toList = some declared ∧ declared.isAccepted = true ∧
        readColumn policy table state line =
          (state.withColumn policy table line declared,
            some (declared.column state.columnsNumbered))) ∨
      ∃ problem, ColumnLine.Refusal line problem ∧
        readColumn policy table state line = (state.report problem line, none) := by
  cases read : ColumnLine.read? line.text.toList with
  | none => exact .inr ⟨_, .malformed, by simp [readColumn, read]⟩
  | some declared =>
      cases accepted : declared.isAccepted with
      | true => exact .inl ⟨declared, rfl, accepted, readColumn_accepted read accepted⟩
      | false =>
          refine .inr ?_
          by_cases settings : (Text.trim declared.rest).head? = some '['
          · exact ⟨_, .malformed, by simp [readColumn, read, settings]⟩
          · have first : ((Text.trim declared.rest).head? != some '[') = true := by
              simpa using settings
            rw [ColumnLine.isAccepted, first, Bool.true_and, Bool.or_eq_false_iff] at accepted
            obtain ⟨bare, misnamed⟩ := accepted
            refine ⟨_, .misnamed read bare, ?_⟩
            simp only [readColumn, read, if_neg settings, bare, misnamed, Bool.not_false,
              Bool.and_self, if_true]

end ReadState

end TableScript
