import TableScript.Proofs.Grammar.ReferenceLine
import TableScript.Proofs.LineKind
import TableScript.Proofs.SourceLine
import TableScript.Proofs.Write.Column
import TableScript.Write.Script

namespace TableScript

open Text

namespace Reference

variable {reference : Reference}

def nameText (reference : Reference) : List Char :=
  if isGiven reference.name then ' ' :: (reference.name.getD "").toList else []

def actionTexts (reference : Reference) : List String :=
  Write.labelled "delete: " reference.onDelete ++ Write.labelled "update: " reference.onUpdate

theorem toList_referenceLine (reference : Reference) :
    (Write.referenceLine reference).toList =
      "Ref".toList ++ (reference.nameText ++ ':' :: ' ' ::
        (reference.arrow.toList ++ bracketedText (settingsContent reference.actionTexts))) := by
  unfold Write.referenceLine nameText
  cases given : isGiven reference.name <;>
    simp [actionTexts, Write.toList_bracketed]

/-- The line of the reference as it is read: without the blanks at its end. -/
def lineText (reference : Reference) : String :=
  String.ofList (trim (Write.referenceLine reference).toList)

theorem toList_lineText (reference : Reference) :
    ∃ rest, reference.lineText.toList = "Ref".toList ++ (reference.nameText ++ ':' :: rest) := by
  have start : trimStart (Write.referenceLine reference).toList =
      (Write.referenceLine reference).toList := by
    rw [toList_referenceLine]
    exact trimStart_of_head (by decide)
  have colon : ("Ref".toList ++ (reference.nameText ++ [':'])).getLast? = some ':' := by
    rw [← List.append_assoc, List.getLast?_concat]
  have split : (Write.referenceLine reference).toList =
      ("Ref".toList ++ (reference.nameText ++ [':'])) ++ (' ' ::
        (reference.arrow.toList ++ bracketedText (settingsContent reference.actionTexts))) := by
    rw [toList_referenceLine]
    simp
  refine ⟨trimEnd (' ' ::
    (reference.arrow.toList ++ bracketedText (settingsContent reference.actionTexts))), ?_⟩
  rw [lineText, String.toList_ofList, trim, start, split, trimEnd_append]
  · simp
  · rw [colon]
    intro c member
    cases member
    decide

theorem content?_referenceLine (reference : Reference) :
    SourceLine.content? (Write.referenceLine reference).toList = some reference.lineText := by
  obtain ⟨rest, text⟩ := reference.toList_lineText
  rw [lineText, String.toList_ofList] at text
  rw [SourceLine.content?, lineText, text]
  rfl

theorem classify_lineText (reference : Reference) :
    LineKind.classify false reference.lineText.toList = .ref := by
  obtain ⟨rest, text⟩ := reference.toList_lineText
  have behind : Keyword.ref.after? reference.lineText.toList =
      some (reference.nameText ++ ':' :: rest) := by
    rw [text]
    exact Keyword.after?_capital .ref _
  have starts : LineKind.ofKeyword?.startsReference reference.lineText.toList = true := by
    unfold nameText at behind
    unfold LineKind.ofKeyword?.startsReference
    rw [behind]
    cases isGiven reference.name <;> rfl
  have noBrace : LineKind.isBrace reference.lineText.toList = false := by
    rw [text]
    rfl
  have noIndexes : Keyword.indexes.precedes '\x7b' reference.lineText.toList = false := by
    rw [text]
    rfl
  have noTable : Keyword.table.namesSomething reference.lineText.toList = false := by
    rw [text]
    rfl
  simp [LineKind.classify, LineKind.ofKeyword?, noBrace, noIndexes, noTable, starts]

end Reference

end TableScript
