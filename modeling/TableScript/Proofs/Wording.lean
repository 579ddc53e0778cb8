import TableScript.Read.Problem
import TableScript.Proofs.Text.Pieces

/-! What messages say. A message is a wording and behind it what it quotes of the script. No two wordings
begin alike, so a message tells which problem there is and what of the script is meant. -/

namespace TableScript.Problem

/-- What a message says in front of what it quotes. -/
def wording : Problem → String
  | badTableHeader _ => "Invalid table definition syntax: "
  | badSchemaName _ => "Invalid schema name: "
  | badTableName _ => "Invalid table name: "
  | duplicateTable _ => "Duplicate table name: "
  | unclosedTable _ => "Missing closing brace for table: "
  | unclosedBlock _ => "Missing closing brace for block: "
  | unknownTableContent _ => "Unrecognized table content: "
  | badNote _ => "Invalid note syntax: "
  | badColumn _ => "Invalid column definition: "
  | badColumnName _ => "Invalid column name: "
  | ignoredText _ => "Unexpected content after column definition ignored: "
  | missingValue _ => "Missing value for setting: "
  | unknownSetting owner _ => "Unknown " ++ owner.label ++ " setting: "
  | badInlineReference _ => "Invalid inline reference: "
  | badReference _ => "Invalid reference syntax: "
  | missingTable _ => "Referenced table not found: "
  | missingColumn _ _ => "Referenced column not found: "
  | unknownAction _ => "Unknown referential action: "
  | skippedBlock block _ => block.notice ++ ": "
  | unknownLine _ => "Unrecognized syntax: "
  | stopped _ => "Fatal parsing error: "

def quoted : Problem → String
  | badTableHeader text | badSchemaName text | badTableName text | duplicateTable text
  | unclosedTable text | unclosedBlock text | unknownTableContent text | badNote text | badColumn text
  | badColumnName text | ignoredText text | missingValue text | unknownSetting _ text
  | badInlineReference text | badReference text | missingTable text | unknownAction text
  | skippedBlock _ text | unknownLine text | stopped text => text
  | missingColumn table column => table ++ "." ++ column

theorem message_eq (problem : Problem) : problem.message = problem.wording ++ problem.quoted := by
  cases problem with
  | missingColumn table column =>
      change "Referenced column not found: " ++ table ++ "." ++ column =
        "Referenced column not found: " ++ (table ++ "." ++ column)
      rw [String.append_assoc, String.append_assoc, String.append_assoc]
  | _ => rfl

/-- The problem without what it quotes. -/
def outline : Problem → Problem
  | badTableHeader _ => badTableHeader ""
  | badSchemaName _ => badSchemaName ""
  | badTableName _ => badTableName ""
  | duplicateTable _ => duplicateTable ""
  | unclosedTable _ => unclosedTable ""
  | unclosedBlock _ => unclosedBlock ""
  | unknownTableContent _ => unknownTableContent ""
  | badNote _ => badNote ""
  | badColumn _ => badColumn ""
  | badColumnName _ => badColumnName ""
  | ignoredText _ => ignoredText ""
  | missingValue _ => missingValue ""
  | unknownSetting owner _ => unknownSetting owner ""
  | badInlineReference _ => badInlineReference ""
  | badReference _ => badReference ""
  | missingTable _ => missingTable ""
  | missingColumn _ _ => missingColumn "" ""
  | unknownAction _ => unknownAction ""
  | skippedBlock block _ => skippedBlock block ""
  | unknownLine _ => unknownLine ""
  | stopped _ => stopped ""

def outlines : List Problem :=
  [badTableHeader "", badSchemaName "", badTableName "", duplicateTable "", unclosedTable "",
    unclosedBlock "", unknownTableContent "", badNote "", badColumn "", badColumnName "", ignoredText "",
    missingValue "", badInlineReference "", badReference "", missingTable "", missingColumn "" "",
    unknownAction "", unknownLine "", stopped ""] ++
  [SettingOwner.table, .column, .reference].map (unknownSetting · "") ++
  [SkippedBlock.enum, .project, .tableGroup, .indexes].map (skippedBlock · "")

theorem wording_outline (problem : Problem) : problem.outline.wording = problem.wording := by
  cases problem <;> rfl

theorem outline_mem_outlines (problem : Problem) : problem.outline ∈ outlines := by
  cases problem with
  | unknownSetting owner => cases owner <;> simp [outlines, outline]
  | skippedBlock block => cases block <;> simp [outlines, outline]
  | _ => simp [outlines, outline]

/-- The wordings of different problems differ where both go on. -/
theorem clash_of_mem_outlines : ∀ first ∈ outlines, ∀ second ∈ outlines,
    first = second ∨ Text.clash first.wording.toList second.wording.toList = true := by
  decide +kernel

variable {problem : Problem} {text : String}

/-- A message begins with its own wording and with no other. -/
theorem after?_wording (other : Problem) (known : other ∈ outlines) (problem : Problem) :
    Text.after? other.wording.toList problem.message.toList =
      if problem.outline = other then some problem.quoted.toList else none := by
  rw [message_eq, String.toList_append, ← wording_outline problem]
  split
  · rename_i same
    rw [same, Text.after?_append]
  · rename_i different
    have differ := (clash_of_mem_outlines _ known _ (outline_mem_outlines problem)).resolve_left
      (Ne.symm different)
    have missed := Text.after?_eq_none differ [] problem.quoted.toList
    rwa [List.append_nil] at missed

theorem outline_and_quoted (other : Problem) (known : other ∈ outlines)
    (said : problem.message = other.wording ++ text) : problem.outline = other ∧ problem.quoted = text := by
  have begins := after?_wording other known problem
  rw [said, String.toList_append, Text.after?_append] at begins
  split at begins
  · rename_i same
    exact ⟨same, (String.toList_injective (Option.some.inj begins)).symm⟩
  · cases begins

/-- What messages say in front of a name that stands in the line. -/
def nameWordings : List String :=
  ["Invalid schema name: ", "Invalid table name: ", "Duplicate table name: ", "Invalid column name: "]

/-- The problem is one with a name. -/
def quotesName : Problem → Bool
  | badSchemaName _ | badTableName _ | duplicateTable _ | badColumnName _ => true
  | _ => false

theorem quotesName_of_message {front : String} (known : front ∈ nameWordings)
    (said : problem.message = front ++ text) : problem.quotesName = true ∧ problem.quoted = text := by
  have named : ∃ other ∈ outlines, other.wording = front ∧ other.quotesName = true := by
    have all : nameWordings = [badSchemaName "", badTableName "", duplicateTable "",
        badColumnName ""].map wording := rfl
    rw [all] at known
    obtain ⟨other, among, rfl⟩ := List.mem_map.mp known
    have listed : ∀ other ∈ [badSchemaName "", badTableName "", duplicateTable "", badColumnName ""],
        other ∈ outlines ∧ other.quotesName = true := by decide
    exact ⟨other, (listed other among).1, rfl, (listed other among).2⟩
  obtain ⟨other, among, rfl, isName⟩ := named
  obtain ⟨same, quoted⟩ := outline_and_quoted other among said
  refine ⟨?_, quoted⟩
  rw [← same] at isName
  cases problem <;> first | rfl | cases isName

theorem eq_ignoredText
    (said : problem.message = "Unexpected content after column definition ignored: " ++ text) :
    problem = ignoredText text := by
  obtain ⟨same, rfl⟩ := outline_and_quoted (ignoredText "") (by decide) said
  cases problem <;> first | rfl | cases same

theorem eq_missingTable (said : problem.message = "Referenced table not found: " ++ text) :
    problem = missingTable text := by
  obtain ⟨same, rfl⟩ := outline_and_quoted (missingTable "") (by decide) said
  cases problem <;> first | rfl | cases same

theorem eq_missingColumn (said : problem.message = "Referenced column not found: " ++ text) :
    ∃ table column, problem = missingColumn table column ∧ text = table ++ "." ++ column := by
  obtain ⟨same, rfl⟩ := outline_and_quoted (missingColumn "" "") (by decide) said
  cases problem <;> first | exact ⟨_, _, rfl, rfl⟩ | cases same

end TableScript.Problem
