import Mathlib.Data.List.Induction
import TableScript.Proofs.Read.Complaint
import TableScript.Proofs.Read.Legible.Script
import TableScript.Proofs.Write.Action
import TableScript.Proofs.Write.OneLine

/-! The values in settings lists, read back. Three writers decide by themselves when a value needs no
quotes. Numbers and bare words may end in a line feed, which breaks the line that they stand on; actions
are never looked at, and come back just where they stand bare. -/

namespace TableScript

open Text

theorem Setting.IsWrittenAs.readAll_eq {setting : Setting} {text : String}
    (written : setting.IsWrittenAs text) : Setting.readAll text.toList = [setting] := by
  rw [Setting.readAll, written.entry.splitSettings_eq, List.map_singleton, written.read]

namespace Write

/-- A default value that does not come in quotes is read back, unless it is a number with a line feed at
its end. -/
theorem readAll_defaultValue_iff {value : String} (unquoted : Text.isQuoted value.toList = false) :
    ('\n' ∉ (defaultValue value).toList ∧
        ∃ setting, Setting.readAll ("default: " ++ defaultValue value).toList = [setting] ∧
          setting.key = "default" ∧ setting.value = some value) ↔
      ¬(Lexeme.isNumber value.toList = true ∧ '\n' ∈ value.toList) := by
  constructor
  · rintro ⟨oneLine, -⟩ ⟨number, lineFeed⟩
    rw [defaultValue, number, Bool.true_or, if_pos rfl] at oneLine
    exact oneLine lineFeed
  · intro fine
    have isRaw : IsRawOf (defaultValue value) value := by
      by_cases oneLine : '\n' ∈ value.toList
      · have noNumber : Lexeme.isNumber value.toList = false :=
          Bool.eq_false_iff.mpr fun number => fine ⟨number, oneLine⟩
        rw [defaultValue, noNumber, unquoted, if_neg (by decide)]
        exact isRawOf_quoted value
      · exact isRawOf_defaultValue ⟨oneLine, unquoted⟩
    have isKey : IsKey "default" := by decide
    exact ⟨isRaw.oneLine, _, (Setting.isWrittenAs_of_isRawOf isKey isRaw).readAll_eq, rfl,
      Setting.value_of_isRawOf "default" isRaw⟩

/-- A property whose key is a name is read back, unless the key or a bare value ends in a line feed. -/
theorem readAll_property_iff {key : String} (named : Lexeme.isIdentifier key.toList = true)
    (value : String) :
    ∃ entry, property? (key, .text value) = some entry ∧
      (('\n' ∉ entry.toList ∧
          ∃ setting, Setting.readAll entry.toList = [setting] ∧
            setting.key = key ∧ setting.value = some value) ↔
        '\n' ∉ key.toList ∧ ¬(Lexeme.isBareValue value.toList = true ∧ '\n' ∈ value.toList)) := by
  refine ⟨Setting.written key (propertyText value), rfl, ?_, ?_⟩
  · rintro ⟨oneLine, -⟩
    rw [Setting.toList_written, List.mem_append, not_or] at oneLine
    refine ⟨oneLine.1, fun ⟨bare, lineFeed⟩ => oneLine.2 ?_⟩
    rw [propertyText, if_pos bare]
    exact List.mem_cons_of_mem _ (List.mem_cons_of_mem _ lineFeed)
  · rintro ⟨keyOneLine, fine⟩
    have oneLine : '\n' ∉ (propertyText value).toList := by
      unfold propertyText
      split
      · rename_i bare
        exact fun lineFeed => fine ⟨bare, lineFeed⟩
      · exact (isRawOf_quoted value).oneLine
    have isRaw := isRawOf_propertyText oneLine
    have plain : IsPlainName key := ⟨named, keyOneLine⟩
    have written := Setting.isWrittenAs_of_isRawOf plain.isKey isRaw
    exact ⟨written.oneLine, _, written.readAll_eq, rfl, Setting.value_of_isRawOf key isRaw⟩

end Write

theorem toList_join_two (first second : String) :
    (join ", " [first, second]).toList = first.toList ++ ',' :: ' ' :: second.toList := by
  simp [join, List.intercalate]

theorem toList_join_one (text : String) : (join ", " [text]).toList = text.toList := by
  simp [join, List.intercalate]

theorem mem_join {texts : List String} {text : String} {c : Char} (among : text ∈ texts)
    (member : c ∈ text.toList) : c ∈ (join ", " texts).toList := by
  rw [join, String.toList_ofList]
  induction texts with
  | nil => cases among
  | cons first rest ih =>
      cases rest with
      | nil =>
          rw [List.mem_singleton.mp among] at member
          simpa using member
      | cons second rest =>
          rw [List.map_cons, List.map_cons, List.intercalate_cons_cons]
          rcases List.mem_cons.mp among with rfl | later
          · exact List.mem_append_left _ (List.mem_append_left _ member)
          · exact List.mem_append_right _ (ih later)

theorem ifGiven_cases (text : Option String) :
    (isGiven text = false ∧ ifGiven text = none ∧ ∀ label, Write.labelled label text = []) ∨
      ∃ action, action.toList ≠ [] ∧ isGiven text = true ∧ ifGiven text = some action ∧
        ∀ label, Write.labelled label text = [label ++ action] := by
  cases given : isGiven text with
  | false => exact .inl ⟨rfl, by simp [ifGiven, given], fun label => by simp [Write.labelled, given]⟩
  | true =>
      cases text with
      | none => cases given
      | some action =>
          have nonempty : action.toList ≠ [] := by simpa [isGiven] using given
          exact .inr ⟨action, nonempty, rfl, by rw [ifGiven, if_pos given], fun label => by
            rw [Write.labelled, if_pos given, Option.getD_some]⟩

namespace Reference

variable {reference bare : Reference} {settings : List Setting} {action : String}

/-- The actions of a reference as they come back from its line: each stands bare, and a delete action
closes what it opens if an update action follows. -/
structure HasBareActions (reference : Reference) : Prop where
  deletes : ∀ action ∈ ifGiven reference.onDelete, '\n' ∉ action.toList ∧ StandsBare action.toList
  updates : ∀ action ∈ ifGiven reference.onUpdate, '\n' ∉ action.toList ∧ StandsBare action.toList
  closed : isGiven reference.onUpdate = true →
    ∀ action ∈ ifGiven reference.onDelete, Nesting.passAll? {} action.toList = some {}

/-- A text that a field gets by the settings is put there by one of them. -/
theorem exists_of_foldl_afterSetting (field : Reference → Option String) (without : field bare = none)
    (given : field (settings.foldl afterSetting bare) = some action) :
    ∃ setting ∈ settings, ∃ before : Reference, field before ≠ some action ∧
      field (before.afterSetting setting) = some action := by
  induction settings using List.reverseRecOn with
  | nil =>
      rw [List.foldl_nil, without] at given
      cases given
  | append_singleton settings setting ih =>
      rw [List.foldl_append, List.foldl_cons, List.foldl_nil] at given
      by_cases already : field (settings.foldl afterSetting bare) = some action
      · obtain ⟨found, member, puts⟩ := ih already
        exact ⟨found, List.mem_append_left _ member, puts⟩
      · exact ⟨setting, List.mem_append_right _ List.mem_cons_self, _, already, given⟩

theorem exists_of_onDelete (without : bare.onDelete = none)
    (given : (settings.foldl afterSetting bare).onDelete = some action) :
    ∃ setting ∈ settings, setting.isDelete = true ∧ setting.value = some action := by
  obtain ⟨setting, member, before, other, puts⟩ := exists_of_foldl_afterSetting (·.onDelete) without given
  rw [afterSetting] at puts
  split at puts
  · rename_i deletes
    exact ⟨setting, member, deletes, puts⟩
  · split at puts <;> exact absurd puts other

theorem exists_of_onUpdate (without : bare.onUpdate = none)
    (given : (settings.foldl afterSetting bare).onUpdate = some action) :
    ∃ setting ∈ settings, setting.isDelete = false ∧ setting.isUpdate = true ∧
      setting.value = some action := by
  obtain ⟨setting, member, before, other, puts⟩ := exists_of_foldl_afterSetting (·.onUpdate) without given
  rw [afterSetting] at puts
  split at puts
  · exact absurd puts other
  · rename_i noDelete
    split at puts
    · rename_i updates
      exact ⟨setting, member, Bool.eq_false_iff.mpr noDelete, updates, puts⟩
    · exact absurd puts other

theorem key_ne_delete {setting : Setting} (other : setting.isDelete = false) :
    setting.key ≠ "delete" := by
  intro same
  have named : (Setting.mk "delete" setting.raw).isDelete = true := by
    have each : (Setting.mk "delete" none).isDelete = true := by decide +kernel
    exact each
  rw [← same] at named
  exact absurd (named.symm.trans other) (by decide)

theorem afterSetting_delete (bare : Reference) (stands : StandsBare action.toList) :
    bare.afterSetting ⟨"delete", some action⟩ = { bare with onDelete := some action } := by
  have named : (Setting.mk "delete" none).isDelete = true := by decide +kernel
  have deletes : (Setting.mk "delete" (some action)).isDelete = true := named
  rw [afterSetting, if_pos deletes, Setting.value_of_standsBare "delete" stands]

theorem afterSetting_update (bare : Reference) (stands : StandsBare action.toList) :
    bare.afterSetting ⟨"update", some action⟩ = { bare with onUpdate := some action } := by
  have named : (Setting.mk "update" none).isDelete = false ∧
      (Setting.mk "update" none).isUpdate = true := by decide +kernel
  have updates : (Setting.mk "update" (some action)).isDelete = false ∧
      (Setting.mk "update" (some action)).isUpdate = true := named
  rw [afterSetting, if_neg (by rw [updates.1]; decide), if_pos updates.2,
    Setting.value_of_standsBare "update" stands]

/-- What is left of a delete action that stands by itself. -/
theorem foldl_delete_iff (noDelete : bare.onDelete = none) (noUpdate : bare.onUpdate = none)
    (nonempty : action.toList ≠ []) :
    (((Setting.readAll (Setting.written "delete" action).toList).foldl afterSetting bare).onDelete =
          .some action ∧
        ((Setting.readAll (Setting.written "delete" action).toList).foldl afterSetting bare).onUpdate =
          none) ↔ StandsBare action.toList := by
  have isKey : IsKey "delete" := by decide
  constructor
  · rintro ⟨deleted, -⟩
    obtain ⟨setting, member, -, given⟩ := exists_of_onDelete noDelete deleted
    exact Setting.standsBare_of_mem_readAll isKey member given
  · intro stands
    rw [Setting.readAll_bare isKey stands nonempty, List.foldl_cons, List.foldl_nil,
      afterSetting_delete bare stands]
    exact ⟨rfl, noUpdate⟩

theorem foldl_update_iff (noDelete : bare.onDelete = none) (noUpdate : bare.onUpdate = none)
    (nonempty : action.toList ≠ []) :
    (((Setting.readAll (Setting.written "update" action).toList).foldl afterSetting bare).onDelete =
          none ∧
        ((Setting.readAll (Setting.written "update" action).toList).foldl afterSetting bare).onUpdate =
          .some action) ↔ StandsBare action.toList := by
  have isKey : IsKey "update" := by decide
  constructor
  · rintro ⟨-, updated⟩
    obtain ⟨setting, member, -, -, given⟩ := exists_of_onUpdate noUpdate updated
    exact Setting.standsBare_of_mem_readAll isKey member given
  · intro stands
    rw [Setting.readAll_bare isKey stands nonempty, List.foldl_cons, List.foldl_nil,
      afterSetting_update bare stands]
    exact ⟨noDelete, rfl⟩

/-- Of two actions the first must also close what it opens. -/
theorem foldl_both_iff {delete update : String} (noDelete : bare.onDelete = none)
    (noUpdate : bare.onUpdate = none) (deleteNonempty : delete.toList ≠ [])
    (updateNonempty : update.toList ≠ []) :
    (((Setting.readAll ((Setting.written "delete" delete).toList ++ ',' :: ' ' ::
          (Setting.written "update" update).toList)).foldl afterSetting bare).onDelete = some delete ∧
        ((Setting.readAll ((Setting.written "delete" delete).toList ++ ',' :: ' ' ::
          (Setting.written "update" update).toList)).foldl afterSetting bare).onUpdate = some update) ↔
      StandsBare delete.toList ∧ Nesting.passAll? {} delete.toList = some {} ∧
        StandsBare update.toList := by
  have isDelete : IsKey "delete" := by decide
  have isUpdate : IsKey "update" := by decide
  constructor
  · rintro ⟨deleted, updated⟩
    obtain ⟨setting, member, deletes, given⟩ := exists_of_onDelete noDelete deleted
    obtain ⟨other, otherMember, noDelete, updates, otherGiven⟩ := exists_of_onUpdate noUpdate updated
    have apart : setting ≠ other := fun same => by
      rw [same, noDelete] at deletes
      cases deletes
    exact Setting.standsBare_of_mem_readAll_two isDelete isUpdate member otherMember given otherGiven
      (Setting.length_key_of_isDelete deletes) (Setting.length_key_of_isUpdate updates) (by decide)
      apart (key_ne_delete noDelete)
  · rintro ⟨stands, closed, otherStands⟩
    rw [Setting.readAll_bare_two isDelete isUpdate stands closed otherStands deleteNonempty updateNonempty,
      List.foldl_cons, List.foldl_cons, List.foldl_nil, afterSetting_delete bare stands,
      afterSetting_update _ otherStands]
    exact ⟨rfl, rfl⟩

/-- The settings that are written of a reference give its actions just where these stand bare. -/
theorem foldl_actions_iff (oneLine : ∀ text ∈ reference.actionTexts, '\n' ∉ text.toList)
    (noDelete : bare.onDelete = none) (noUpdate : bare.onUpdate = none) :
    (((Setting.readAll (join ", " reference.actionTexts).toList).foldl afterSetting bare).onDelete =
          ifGiven reference.onDelete ∧
        ((Setting.readAll (join ", " reference.actionTexts).toList).foldl afterSetting bare).onUpdate =
          ifGiven reference.onUpdate) ↔ reference.HasBareActions := by
  have behind : ∀ {label action : String}, '\n' ∉ (label ++ action).toList → '\n' ∉ action.toList := by
    intro label action absent
    rw [String.toList_append, List.mem_append, not_or] at absent
    exact absent.2
  unfold actionTexts at oneLine ⊢
  rcases ifGiven_cases reference.onDelete with
      ⟨-, deleteNone, deleteText⟩ | ⟨delete, deleteNonempty, -, deleteGiven, deleteText⟩ <;>
    rcases ifGiven_cases reference.onUpdate with
      ⟨updateNot, updateNone, updateText⟩ | ⟨update, updateNonempty, updateIs, updateGiven, updateText⟩
  · rw [deleteText, updateText, deleteNone, updateNone]
    have nothing : Setting.readAll (join ", " ([] ++ [])).toList = [] := rfl
    rw [nothing, List.foldl_nil, noDelete, noUpdate]
    exact ⟨fun _ => ⟨by simp [deleteNone], by simp [updateNone], by simp [deleteNone]⟩,
      fun _ => ⟨rfl, rfl⟩⟩
  · rw [deleteText, updateText, List.nil_append] at oneLine ⊢
    have actionOneLine := behind (oneLine _ (List.mem_singleton_self _))
    rw [toList_join_one, deleteNone, updateGiven]
    refine (foldl_update_iff noDelete noUpdate updateNonempty).trans ⟨fun stands => ?_, fun bareActions => ?_⟩
    · exact ⟨by simp [deleteNone], by simp [updateGiven, actionOneLine, stands], by simp [deleteNone]⟩
    · exact (bareActions.updates update updateGiven).2
  · rw [deleteText, updateText, List.append_nil] at oneLine ⊢
    have actionOneLine := behind (oneLine _ (List.mem_singleton_self _))
    rw [toList_join_one, deleteGiven, updateNone]
    refine (foldl_delete_iff noDelete noUpdate deleteNonempty).trans ⟨fun stands => ?_, fun bareActions => ?_⟩
    · exact ⟨by simp [deleteGiven, actionOneLine, stands], by simp [updateNone], by simp [updateNot]⟩
    · exact (bareActions.deletes delete deleteGiven).2
  · rw [deleteText, updateText, List.singleton_append] at oneLine ⊢
    have deleteOneLine := behind (oneLine _ List.mem_cons_self)
    have updateOneLine := behind (oneLine _ (List.mem_cons_of_mem _ List.mem_cons_self))
    rw [toList_join_two, deleteGiven, updateGiven]
    refine (foldl_both_iff noDelete noUpdate deleteNonempty updateNonempty).trans
      ⟨fun ⟨stands, closed, otherStands⟩ => ?_, fun bareActions => ?_⟩
    · exact ⟨by simp [deleteGiven, deleteOneLine, stands], by simp [updateGiven, updateOneLine, otherStands],
        by simp [deleteGiven, closed]⟩
    · exact ⟨(bareActions.deletes delete deleteGiven).2, bareActions.closed updateIs delete deleteGiven,
        (bareActions.updates update updateGiven).2⟩

theorem mem_referenceLine {text : String} (written : text ∈ reference.actionTexts) {c : Char}
    (member : c ∈ text.toList) : c ∈ (Write.referenceLine reference).toList := by
  have inside := mem_join written member
  have nonempty : reference.actionTexts ≠ [] := List.ne_nil_of_mem written
  have content : settingsContent reference.actionTexts =
      .some (join ", " reference.actionTexts).toList := by simp [settingsContent, nonempty]
  rw [toList_referenceLine, content, bracketedText]
  simp [inside]

theorem HasBareActions.oneLine (bareActions : reference.HasBareActions) :
    ∀ text ∈ reference.actionTexts, '\n' ∉ text.toList := by
  have each : ∀ {label : String} {action : Option String}, '\n' ∉ label.toList →
      (∀ text ∈ ifGiven action, '\n' ∉ text.toList ∧ StandsBare text.toList) →
        ∀ text ∈ Write.labelled label action, '\n' ∉ text.toList := by
    intro label action labelOneLine stands text member
    rcases ifGiven_cases action with ⟨-, -, nothing⟩ | ⟨written, -, -, given, single⟩
    · rw [nothing] at member
      cases member
    · rw [single, List.mem_singleton] at member
      rw [member, String.toList_append, List.mem_append, not_or]
      exact ⟨labelOneLine, (stands written given).1⟩
  rw [actionTexts, List.forall_mem_append]
  exact ⟨each (by decide) bareActions.deletes, each (by decide) bareActions.updates⟩

theorem resolve_of_found {written : ReferenceLine} {catalog : Catalog}
    (source : written.source.isMissing catalog = false)
    (target : written.target.isMissing catalog = false) :
    ∃ table, written.resolve catalog = .ok table := by
  have found : ∀ {endpoint : Endpoint}, endpoint.isMissing catalog = false →
      ∃ table, catalog.find? endpoint.table endpoint.schema = some table ∧
        table.hasColumn endpoint.column = true := by
    intro endpoint there
    rw [Endpoint.isMissing, Option.isNone_eq_false_iff, Option.isSome_iff_exists] at there
    obtain ⟨column, among⟩ := there
    obtain ⟨table, tableFound, columnFound⟩ := Option.bind_eq_some_iff.mp among
    exact ⟨table, tableFound, by rw [Table.hasColumn, columnFound]; rfl⟩
  obtain ⟨table, tableFound, column⟩ := found source
  exact ⟨table, ReferenceLine.resolve_eq_ok_iff.mpr ⟨tableFound, column, found target⟩⟩

/-- What a line that is written of a reference gives where both ends are found. -/
theorem IsWordy.readReference_iff (wordy : reference.IsWordy) {policy : Policy} {state : ReadState}
    {line : SourceLine} (text : line.text = reference.lineText)
    (source : reference.source.isMissing state.catalog = false)
    (target : reference.target.isMissing state.catalog = false) :
    ('\n' ∉ (Write.referenceLine reference).toList ∧
        ∃ again, (state.readReference policy line).references = state.references ++ [again] ∧
          again.onDelete = ifGiven reference.onDelete ∧
          again.onUpdate = ifGiven reference.onUpdate) ↔ reference.HasBareActions := by
  obtain ⟨written, read, sourceRead, targetRead, given⟩ := wordy.exists_read
  rw [← text] at read
  rw [← sourceRead] at source
  rw [← targetRead] at target
  obtain ⟨table, resolved⟩ := resolve_of_found source target
  have references : (state.readReference policy line).references =
      state.references ++ [written.reference state.referencesNumbered] := by
    rw [ReadState.readReference_resolved read resolved]
    rfl
  rw [references, given]
  constructor
  · rintro ⟨oneLine, again, same, deleted, updated⟩
    have each : ∀ text ∈ reference.actionTexts, '\n' ∉ text.toList :=
      fun text written member => oneLine (mem_referenceLine written member)
    rw [← List.singleton_inj.mp (List.append_cancel_left same)] at deleted updated
    exact (foldl_actions_iff each rfl rfl).mp ⟨deleted, updated⟩
  · intro bareActions
    exact ⟨wordy.oneLine_referenceLine bareActions.oneLine, _, rfl,
      (foldl_actions_iff bareActions.oneLine rfl rfl).mpr bareActions⟩

theorem IsRead.isWordy (read : reference.IsRead)
    (given : isGiven reference.onDelete = true ∨ isGiven reference.onUpdate = true) :
    reference.IsWordy := by
  refine ⟨read.source (Bool.eq_false_iff.mpr fun inline => ?_), read.target, read.named⟩
  obtain ⟨noDelete, noUpdate⟩ := read.actionless inline
  rw [noDelete, noUpdate] at given
  rcases given with given | given <;> cases given

end Reference

/-- When a value that is written in a settings list is read back from there, on one line. A default value
that is not in quotes of its own: unless it is a number that ends in a line feed. A property under a name:
unless the name or the bare value ends in one. The actions of a reference that was read, from its line and
wherever both its ends are found: just if they stand bare. -/
theorem Write.readsBack_iff (value : String) :
    (Text.isQuoted value.toList = false →
      (('\n' ∉ (defaultValue value).toList ∧
          ∃ setting, Setting.readAll ("default: " ++ defaultValue value).toList = [setting] ∧
            setting.key = "default" ∧ setting.value = some value) ↔
        ¬(Lexeme.isNumber value.toList = true ∧ '\n' ∈ value.toList))) ∧
    (∀ key : String, Lexeme.isIdentifier key.toList = true →
      ∃ entry, property? (key, .text value) = some entry ∧
        (('\n' ∉ entry.toList ∧
            ∃ setting, Setting.readAll entry.toList = [setting] ∧
              setting.key = key ∧ setting.value = some value) ↔
          '\n' ∉ key.toList ∧ ¬(Lexeme.isBareValue value.toList = true ∧ '\n' ∈ value.toList))) ∧
    (∀ (policy : Policy) (script : String), ∀ reference ∈ (Reading.ofScript policy script).references,
      isGiven reference.onDelete = true ∨ isGiven reference.onUpdate = true →
        ∀ (asked : Policy) (state : ReadState) (number : Nat),
          reference.source.isMissing state.catalog = false →
          reference.target.isMissing state.catalog = false →
            ∃ line, SourceLine.ofRaw? number (referenceLine reference).toList = some line ∧
              (('\n' ∉ (referenceLine reference).toList ∧
                  ∃ again,
                    (state.readReference asked line).references = state.references ++ [again] ∧
                      again.onDelete = ifGiven reference.onDelete ∧
                      again.onUpdate = ifGiven reference.onUpdate) ↔ reference.HasBareActions)) := by
  refine ⟨readAll_defaultValue_iff, fun key named => readAll_property_iff named value, ?_⟩
  intro policy script reference member given asked state number source target
  have wordy := (Reading.isRead_of_mem_references member).isWordy given
  have content := SourceLine.map_text_ofRaw? number (referenceLine reference).toList
  rw [reference.content?_referenceLine, Option.map_eq_some_iff] at content
  obtain ⟨line, read, text⟩ := content
  exact ⟨line, read, wordy.readReference_iff text source target⟩

/-- A function call as a default and under a key, and a reference with two actions. -/
theorem Write.readsBack_twoActions :
    let script := "Table a \x7b\n  id integer\n\x7d\nRef: a.id > a.id [delete: cascade, update: 'set null']"
    let state := ReadState.ofLines {} .none (SourceLine.ofScript script)
    (Text.isQuoted "now()".toList = false ∧
      ∃ setting, Setting.readAll ("default: " ++ defaultValue "now()").toList = [setting] ∧
        setting.key = "default" ∧ setting.value = some "now()") ∧
    (Lexeme.isIdentifier "since".toList = true ∧
      ∃ entry, property? ("since", .text "now()") = some entry ∧
        ∃ setting, Setting.readAll entry.toList = [setting] ∧
          setting.key = "since" ∧ setting.value = some "now()") ∧
    ∃ reference ∈ (Reading.ofScript {} script).references,
      reference.onDelete = some "cascade" ∧ reference.onUpdate = some "set null" ∧
        ∃ line, SourceLine.ofRaw? 5 (referenceLine reference).toList = some line ∧
          '\n' ∉ (referenceLine reference).toList ∧
            ∃ again, (state.readReference {} line).references = state.references ++ [again] ∧
              again.onDelete = some "cascade" ∧ again.onUpdate = some "set null" := by
  intro script state
  obtain ⟨defaults, properties, actions⟩ := Write.readsBack_iff "now()"
  have unquoted : Text.isQuoted "now()".toList = false := by decide
  have key : Lexeme.isIdentifier "since".toList = true := by decide
  have oneLine : '\n' ∉ "now()".toList := by decide
  have keyOneLine : '\n' ∉ "since".toList := by decide
  refine ⟨⟨unquoted, ((defaults unquoted).mpr fun number => oneLine number.2).2⟩, ⟨key, ?_⟩, ?_⟩
  · obtain ⟨entry, written, back⟩ := properties "since" key
    exact ⟨entry, written, (back.mpr ⟨keyOneLine, fun bare => oneLine bare.2⟩).2⟩
  let reference : Reference :=
    { id := "ref_0"
      source := ⟨none, "a", "id"⟩
      target := ⟨none, "a", "id"⟩
      cardinality := .oneToMany
      onDelete := some "cascade"
      onUpdate := some "set null" }
  have member : reference ∈ (Reading.ofScript {} script).references := by decide +kernel
  have found : (⟨none, "a", "id"⟩ : Endpoint).isMissing state.catalog = false := by decide +kernel
  obtain ⟨line, written, back⟩ :=
    actions {} script reference member (.inl (by decide)) {} state 5 found found
  have bareActions : reference.HasBareActions := ⟨by decide +kernel, by decide +kernel, by decide +kernel⟩
  exact ⟨reference, member, rfl, rfl, line, written, back.mpr bareActions⟩

/-- A number and a bare word with a line feed at the end, and an action with a comma, come back shorter. -/
theorem Write.readsBack_shorter :
    (Text.isQuoted "5\n".toList = false ∧ '\n' ∈ (defaultValue "5\n").toList ∧
      (Setting.readAll ("default: " ++ defaultValue "5\n").toList).map Setting.value = [some "5"]) ∧
    (property? ("key", .text "word\n") = some "key: word\n" ∧
      (Setting.readAll "key: word\n".toList).map Setting.value = [some "word"]) ∧
    let table := "Table a \x7b\n  id integer\n\x7d\n"
    ∃ reference ∈ (Reading.ofScript {} (table ++ "Ref: a.id > a.id [delete: 'a, b']")).references,
      reference.onDelete = some "a, b" ∧
        (Reading.ofScript {} (table ++ referenceLine reference)).references.map Reference.onDelete =
          [some "a"] := by
  decide +kernel

end TableScript
