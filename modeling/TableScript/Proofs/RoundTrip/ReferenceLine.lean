import TableScript.Proofs.Read.Reference
import TableScript.Proofs.Write.Reference
import TableScript.Proofs.Write.Setting

namespace TableScript

open Text

/-- The text, unless it is empty. -/
def ifGiven (text : Option String) : Option String :=
  if isGiven text then text else none

theorem isGiven_ifGiven (text : Option String) : isGiven (ifGiven text) = isGiven text := by
  cases given : isGiven text with
  | true => rw [ifGiven, if_pos given, given]
  | false => rw [ifGiven, if_neg (by simp [given]), isGiven]

theorem mem_of_mem_ifGiven {text : Option String} {found : String} (member : found ∈ ifGiven text) :
    found ∈ text := by
  unfold ifGiven at member
  split at member
  · exact member
  · cases member

theorem IsPlainAction.isRawOf {action : String} (plain : IsPlainAction action) :
    IsRawOf action action :=
  ⟨plain.entry, plain.oneLine, by simp [stripQuotes, plain.unquoted]⟩

namespace Reference

variable {reference : Reference} {tables : List Table}

/-- What stands in front of the settings of a reference: words. -/
structure IsWordy (reference : Reference) : Prop where
  source : reference.source.IsWordy
  target : reference.target.IsWordy
  named : ∀ name ∈ reference.name, IsWordText name.toList

/-- What a reference of its own is written with: words and plain actions. -/
structure IsPlain (reference : Reference) : Prop where
  source : reference.source.IsWordy
  target : reference.target.IsWordy
  named : ∀ name ∈ reference.name, IsWordText name.toList
  deletes : ∀ action ∈ reference.onDelete, IsPlainAction action
  updates : ∀ action ∈ reference.onUpdate, IsPlainAction action

theorem IsPlain.isWordy (plain : reference.IsPlain) : reference.IsWordy :=
  ⟨plain.source, plain.target, plain.named⟩

def settingsMeant (reference : Reference) : List Setting :=
  (reference.onDelete.toList.map fun action => ⟨"delete", some action⟩) ++
    reference.onUpdate.toList.map fun action => ⟨"update", some action⟩

theorem isKey_action {key : String} (known : key = "delete" ∨ key = "update") : IsKey key := by
  rcases known with rfl | rfl
  · decide
  · decide

theorem forall₂_action {key : String} (known : key = "delete" ∨ key = "update")
    {action : Option String} (plain : ∀ text ∈ action, IsPlainAction text) :
    List.Forall₂ Setting.IsWrittenAs (action.toList.map fun text => ⟨key, some text⟩)
      (Write.labelled (key ++ ": ") action) := by
  cases action with
  | none => exact .nil
  | some text =>
      have given : isGiven (some text) = true := by
        have nonempty := (plain text rfl).entry.nonempty
        simpa [isGiven] using nonempty
      rw [Write.labelled, if_pos given]
      exact .cons (Setting.isWrittenAs_of_isRawOf (isKey_action known) (plain text rfl).isRawOf) .nil

theorem IsPlain.forall₂_actionTexts (plain : reference.IsPlain) :
    List.Forall₂ Setting.IsWrittenAs reference.settingsMeant reference.actionTexts :=
  List.rel_append (forall₂_action (.inl rfl) plain.deletes) (forall₂_action (.inr rfl) plain.updates)

theorem IsWordy.nameText_eq (wordy : reference.IsWordy) :
    reference.nameText = ReferenceLine.nameText (reference.name.map String.toList) := by
  unfold nameText
  cases name : reference.name with
  | none => rfl
  | some text =>
      have nonempty := (wordy.named text name).1
      have given : isGiven (.some text) = true := by simpa [isGiven] using nonempty
      rw [if_pos given]
      rfl

theorem toList_arrow (reference : Reference) :
    reference.arrow.toList = reference.source.written.toList ++
      ' ' :: (reference.cardinality.symbol.toList ++ ' ' :: reference.target.written.toList) := by
  simp [arrow]

theorem IsWordy.isTrimmed_referenceLine (wordy : reference.IsWordy) :
    IsTrimmed (Write.referenceLine reference).toList := by
  have last : ∀ c ∈ (reference.target.written.toList ++
      bracketedText (settingsContent reference.actionTexts)).getLast?, isBlank c = false := by
    refine forall_mem_getLast?_bracketedText _ (by decide) fun c final => ?_
    exact isPlainClass_bareCharacter.noBlank c
      (wordy.target.isBareCharacter c (List.mem_of_mem_getLast? final))
  have text : (Write.referenceLine reference).toList =
      ("Ref".toList ++ reference.nameText ++ ':' :: ' ' :: reference.source.written.toList ++
        ' ' :: (reference.cardinality.symbol.toList ++ [' '])) ++
        (reference.target.written.toList ++
          bracketedText (settingsContent reference.actionTexts)) := by
    rw [toList_referenceLine, toList_arrow]
    simp
  rw [text]
  refine isTrimmed_append (by simp) (by simp [reference.target.written_ne_nil]) ?_ last
  intro c member
  cases member
  decide

theorem foldl_deletes (bare : Reference) {action : Option String}
    (plain : ∀ text ∈ action, IsPlainAction text) :
    (action.toList.map fun text => Setting.mk "delete" (some text)).foldl afterSetting bare =
      { bare with onDelete := action <|> bare.onDelete } := by
  cases action with
  | none => rfl
  | some text =>
      have named : (Setting.mk "delete" none).isDelete = true := by decide +kernel
      have deletes : (Setting.mk "delete" (some text)).isDelete = true := named
      have value := Setting.value_of_isRawOf "delete" (plain text rfl).isRawOf
      simp [afterSetting, deletes, value]

theorem foldl_updates (bare : Reference) {action : Option String}
    (plain : ∀ text ∈ action, IsPlainAction text) :
    (action.toList.map fun text => Setting.mk "update" (some text)).foldl afterSetting bare =
      { bare with onUpdate := action <|> bare.onUpdate } := by
  cases action with
  | none => rfl
  | some text =>
      have named : (Setting.mk "update" none).isDelete = false ∧
          (Setting.mk "update" none).isUpdate = true := by decide +kernel
      have updates : (Setting.mk "update" (some text)).isDelete = false ∧
          (Setting.mk "update" (some text)).isUpdate = true := named
      have value := Setting.value_of_isRawOf "update" (plain text rfl).isRawOf
      simp [afterSetting, updates, value]

theorem IsWordy.toList_lineText (wordy : reference.IsWordy) :
    reference.lineText.toList =
      "Ref".toList ++ (ReferenceLine.nameText (reference.name.map String.toList) ++ ':' :: ' ' ::
        (reference.source.written.toList ++ ' ' :: (reference.cardinality.symbol.toList ++
          ' ' :: (reference.target.written.toList ++
            bracketedText (settingsContent reference.actionTexts))))) := by
  rw [lineText, String.toList_ofList, trim_of_isTrimmed wordy.isTrimmed_referenceLine,
    toList_referenceLine, wordy.nameText_eq, toList_arrow]
  simp

/-- The line of a reference gives its ends and its name, and whatever its settings are read as. -/
theorem IsWordy.exists_read (wordy : reference.IsWordy) :
    ∃ written, ReferenceLine.read? reference.lineText.toList = some written ∧
      written.source = reference.source ∧ written.target = reference.target ∧
      ∀ number, written.reference number =
        (Setting.readAll (join ", " reference.actionTexts).toList).foldl afterSetting {
          id := "ref_" ++ toString number
          source := reference.source
          target := reference.target
          cardinality := reference.cardinality
          name := reference.name } := by
  have named : ∀ word ∈ reference.name.map String.toList, IsWordText word := by
    intro word member
    obtain ⟨name, given, rfl⟩ := Option.map_eq_some_iff.mp member
    exact wordy.named name given
  obtain ⟨sourceOffset, targetOffset, read⟩ := ReferenceLine.read?_written named wordy.source
    reference.cardinality wordy.target (settingsContent reference.actionTexts)
  rw [← wordy.toList_lineText] at read
  refine ⟨_, read, rfl, rfl, fun number => ?_⟩
  have name : (reference.name.map String.toList).map String.ofList = reference.name := by
    cases reference.name <;> simp
  rw [ReferenceLine.reference, ReferenceLine.settingList, getD_settingsContent, name]

/-- The reference is read from its line as it was, under its number. -/
theorem IsPlain.exists_read (plain : reference.IsPlain) (standalone : reference.inline = false) :
    ∃ written, ReferenceLine.read? reference.lineText.toList = some written ∧
      written.source = reference.source ∧ written.target = reference.target ∧
      ∀ number, written.reference number = { reference with id := "ref_" ++ toString number } := by
  obtain ⟨written, read, source, target, given⟩ := plain.isWordy.exists_read
  refine ⟨written, read, source, target, fun number => ?_⟩
  rw [given, readAll_of_isWrittenAs plain.forall₂_actionTexts, settingsMeant, List.foldl_append,
    foldl_deletes _ plain.deletes, foldl_updates _ plain.updates]
  simp [standalone]

/-- What the line of a reference says of it. A name or an action that is empty is not written, and
neither is whether the reference was declared with a column. -/
def onOwnLine (reference : Reference) : Reference :=
  { reference with
    name := ifGiven reference.name
    onDelete := ifGiven reference.onDelete
    onUpdate := ifGiven reference.onUpdate
    inline := false }

theorem IsPlain.onOwnLine (plain : reference.IsPlain) : reference.onOwnLine.IsPlain where
  source := plain.source
  target := plain.target
  named := fun name given => plain.named name (mem_of_mem_ifGiven given)
  deletes := fun action given => plain.deletes action (mem_of_mem_ifGiven given)
  updates := fun action given => plain.updates action (mem_of_mem_ifGiven given)

theorem referenceLine_onOwnLine (reference : Reference) :
    Write.referenceLine reference.onOwnLine = Write.referenceLine reference := by
  have name : (if isGiven (ifGiven reference.name) then
      " " ++ (ifGiven reference.name).getD "" else "") =
      if isGiven reference.name then " " ++ reference.name.getD "" else "" := by
    rw [isGiven_ifGiven]
    split
    · rename_i given
      rw [ifGiven, if_pos given]
    · rfl
  have labelled : ∀ label text, Write.labelled label (ifGiven text) = Write.labelled label text := by
    intro label text
    unfold Write.labelled
    rw [isGiven_ifGiven]
    split
    · rename_i given
      rw [ifGiven, if_pos given]
    · rfl
  have arrow : reference.onOwnLine.arrow = reference.arrow := rfl
  rw [Write.referenceLine, arrow, onOwnLine]
  dsimp only
  rw [name, labelled, labelled]
  rfl

end Reference

end TableScript
