import TableScript.Proofs.Read.Legible.Basic
import TableScript.Proofs.RoundTrip.Table
import TableScript.Proofs.Write.Setting

namespace TableScript

open Text

namespace Entries

variable {α : Type} {entries before : List (String × α)}

theorem put_of_not_mem {key : String} (fresh : key ∉ entries.map Prod.fst) (value : α) :
    put key value entries = entries ++ [(key, value)] := by
  induction entries with
  | nil => rfl
  | cons entry rest ih =>
      rw [List.map_cons, List.mem_cons, not_or] at fresh
      obtain ⟨different, later⟩ := fresh
      rw [put, if_neg fun same => different same.symm, ih later, List.cons_append]

theorem foldl_put (entries before : List (String × α))
    (distinct : ((before ++ entries).map Prod.fst).Nodup) :
    entries.foldl (fun found entry => put entry.1 entry.2 found) before = before ++ entries := by
  induction entries generalizing before with
  | nil => rw [List.foldl_nil, List.append_nil]
  | cons entry rest ih =>
      have fresh : entry.1 ∉ before.map Prod.fst := by
        intro known
        rw [List.map_append, List.nodup_append] at distinct
        exact distinct.2.2 entry.1 known entry.1 (by simp) rfl
      have moved : before ++ entry :: rest = before ++ [entry] ++ rest := by simp
      rw [moved] at distinct ⊢
      rw [List.foldl_cons, put_of_not_mem fresh]
      exact ih (before ++ [entry]) distinct

end Entries

/-- Properties go into their owner one after the other and in their order. -/
theorem Properties.IsSteady.foldl_eq {Owner : Type} {properties : Properties}
    {known : List String} (steady : properties.IsSteady known)
    (afterSetting : Owner → Setting → Owner) (withProperties : Properties → Owner)
    (other : ∀ found setting, Setting.name setting ∉ known →
      afterSetting (withProperties found) setting =
        withProperties (Entries.put setting.key setting.property found)) :
    (properties.map Setting.ofProperty).foldl afterSetting (withProperties []) =
      withProperties properties := by
  obtain ⟨distinct, -, unknown, valued⟩ := steady
  have each : ∀ found, (properties.map Setting.ofProperty).foldl afterSetting (withProperties found) =
      withProperties
        (properties.foldl (fun found entry => Entries.put entry.1 entry.2 found) found) := by
    clear distinct
    induction properties with
    | nil => intro found; rfl
    | cons entry rest ih =>
        intro found
        obtain ⟨meaningless, others⟩ := List.forall_mem_cons.mp unknown
        obtain ⟨value, values⟩ := List.forall_mem_cons.mp valued
        rw [List.map_cons, List.foldl_cons, List.foldl_cons, other found _ meaningless,
          Setting.property_ofProperty value]
        exact ih others values _
  rw [each, Entries.foldl_put properties [] (by simpa using distinct), List.nil_append]

theorem Setting.inline?_of_name {setting : Setting} (other : setting.name ≠ "ref") :
    setting.inline? = none :=
  if_neg other

theorem Reference.inline?_setting {reference : Reference} (wordy : reference.target.IsWordy) :
    reference.setting.inline? = some ⟨reference.cardinality, reference.target⟩ := by
  have named : reference.setting.name = "ref" := Setting.name_settingName (by decide) _
  have value : reference.setting.value = some reference.inlineText :=
    Setting.value_of_isRawOf "ref" (isRawOf_inlineText wordy)
  rw [Setting.inline?, if_pos named, value, Option.getD_some, toList_inlineText]
  exact InlineReference.read?_written
    ⟨reference.cardinality, reference.target⟩ wordy

namespace Column

variable {column : Column} {layout : Layout} {references : List Reference}

theorem foldl_primaryKey (column : Column) (present : Bool) :
    (if present then [Setting.mk "pk" none] else []).foldl afterSetting column =
      { column with primaryKey := present || column.primaryKey } := by
  have named : (Setting.mk "pk" none).name = "pk" := Setting.name_settingName (by decide) _
  cases present with
  | false => rfl
  | true => simp [afterSetting, named]

theorem foldl_notNull (column : Column) (present : Bool) :
    (if present then [Setting.mk "not null" none] else []).foldl afterSetting column =
      { column with notNull := present || column.notNull } := by
  have named : (Setting.mk "not null" none).name = "not null" :=
    Setting.name_settingName (by decide) _
  cases present with
  | false => rfl
  | true => simp [afterSetting, named]

theorem foldl_unique (column : Column) (present : Bool) :
    (if present then [Setting.mk "unique" none] else []).foldl afterSetting column =
      { column with unique := present || column.unique } := by
  have named : (Setting.mk "unique" none).name = "unique" := Setting.name_settingName (by decide) _
  cases present with
  | false => rfl
  | true => simp [afterSetting, named]

theorem foldl_default (column : Column) {default : Option String}
    (steady : ∀ value ∈ default, IsSteadyDefault value) :
    (default.toList.map fun value =>
        Setting.mk "default" (some (Write.defaultValue value))).foldl afterSetting column =
      { column with
        default := (default.map fun value => valueRead (Write.defaultValue value)) <|>
          column.default } := by
  cases default with
  | none => rfl
  | some value =>
      have named : (Setting.mk "default" (some (Write.defaultValue value))).name = "default" :=
        Setting.name_settingName (by decide) _
      have given := Setting.value_of_isRawOf "default" (steady value rfl).isRawOf
      simp [afterSetting, named, given]

theorem foldl_note (column : Column) (note : Option String) :
    (note.toList.map fun text =>
        Setting.mk "note" (some (Write.quoted text))).foldl afterSetting column =
      { column with note := note <|> column.note } := by
  cases note with
  | none => rfl
  | some text =>
      have named : (Setting.mk "note" (some (Write.quoted text))).name = "note" :=
        Setting.name_settingName (by decide) _
      have given := Setting.value_of_isRawOf "note" (isRawOf_quoted text)
      simp [afterSetting, named, given]

theorem foldl_references (column : Column)
    (targets : ∀ reference ∈ references, reference.target.IsWordy) :
    (references.map Reference.setting).foldl afterSetting column =
      { column with foreignKey := !references.isEmpty || column.foreignKey } := by
  induction references generalizing column with
  | nil => rfl
  | cons reference rest ih =>
      obtain ⟨wordy, others⟩ := List.forall_mem_cons.mp targets
      have named : reference.setting.name = "ref" := Setting.name_settingName (by decide) _
      have first : column.afterSetting reference.setting = { column with foreignKey := true } := by
        simp [afterSetting, named, Reference.inline?_setting wordy]
      rw [List.map_cons, List.foldl_cons, first, ih _ others]
      simp

theorem foldl_properties (column : Column) {properties : Properties}
    (steady : properties.IsSteady settingNames) (bare : column.properties = []) :
    (properties.map Setting.ofProperty).foldl afterSetting column =
      { column with properties } := by
  have started : column = { column with properties := [] } := by rw [← bare]
  rw [started]
  exact steady.foldl_eq afterSetting (fun properties => { column with properties })
    fun found setting other => afterSetting_other _ other

theorem IsSteady.settingsRead_eq (steady : column.IsSteady layout)
    (targets : ∀ reference ∈ references, reference.target.IsWordy) :
    column.settingsRead layout references = (column.kept layout).settingsMeant references :=
  readAll_of_isWrittenAs (steady.forall₂_columnSettings targets)

/-- The column comes back as it was written, under its number and marked if it carries references. -/
theorem IsSteady.reread_eq (steady : column.IsSteady layout)
    (targets : ∀ reference ∈ references, reference.target.IsWordy) (number : Nat) :
    column.reread layout references number =
      { column.kept layout with
        id := "col_" ++ toString number
        foreignKey := !references.isEmpty
        default := column.default.map fun value => valueRead (Write.defaultValue value)
        quotedName := !column.isBare } := by
  have orElse_none : ∀ text : Option String, (text <|> none) = text := fun text => by cases text <;> rfl
  have default : ∀ value ∈ (column.kept layout).default, IsSteadyDefault value := steady.default
  have properties : (column.kept layout).properties.IsSteady settingNames := steady.properties
  rw [reread, steady.settingsRead_eq targets]
  simp only [settingsMeant, List.foldl_append, foldl_primaryKey, foldl_notNull, foldl_unique,
    foldl_default _ default, foldl_note, foldl_references _ targets]
  rw [foldl_properties _ properties rfl]
  simp [orElse_none, kept]

/-- Nothing of the column is changed. -/
theorem IsExpressible.reread_eq (expressible : column.IsExpressible)
    (targets : ∀ reference ∈ references, reference.target.IsWordy)
    (comments : layout.comments = true) (properties : layout.properties = true) (number : Nat) :
    column.reread layout references number =
      { column with
        id := "col_" ++ toString number
        foreignKey := !references.isEmpty
        quotedName := !column.isBare } := by
  have kept := expressible.kept_eq comments properties
  have default : (column.default.map fun value => valueRead (Write.defaultValue value)) =
      column.default := by
    cases given : column.default with
    | none => rfl
    | some value =>
        have plain := expressible.default value given
        exact congrArg some (isRawOf_defaultValue plain).valueRead_eq
  rw [(expressible.steady layout).reread_eq targets, kept, default]

/-- The references of the column are its only settings of that name. -/
theorem IsSteady.exists_settingsMeant (steady : column.IsSteady layout)
    (references : List Reference) :
    ∃ front back, (column.kept layout).settingsMeant references =
        front ++ references.map Reference.setting ++ back ∧
      ∀ setting ∈ front ++ back, setting.name ≠ "ref" := by
  have flag : ∀ {name : String} {present : Bool}, name ∈ settingNames → name ≠ "ref" →
      ∀ setting ∈ (if present then [Setting.mk name none] else []), setting.name ≠ "ref" := by
    intro name present known other
    cases present with
    | false => simp
    | true => simpa [Setting.name_settingName known] using other
  have value : ∀ {name : String} {values : List String} {raw : String → String},
      name ∈ settingNames → name ≠ "ref" →
      ∀ setting ∈ values.map fun text => Setting.mk name (some (raw text)),
        setting.name ≠ "ref" := by
    intro name values raw known other
    simpa [Setting.name_settingName known] using fun _ _ => other
  have property : ∀ setting ∈ (layout.kept column.properties).map Setting.ofProperty,
      setting.name ≠ "ref" := by
    rw [List.forall_mem_map]
    intro entry member reference
    exact steady.properties.unknown entry member (by rw [reference]; decide)
  refine ⟨_, _, rfl, ?_⟩
  simp only [List.forall_mem_append]
  refine ⟨⟨⟨⟨⟨?_, ?_⟩, ?_⟩, ?_⟩, ?_⟩, property⟩
  · exact flag (by decide) (by decide)
  · exact flag (by decide) (by decide)
  · exact flag (by decide) (by decide)
  · exact value (by decide) (by decide)
  · exact value (by decide) (by decide)

theorem IsSteady.rereadsFaultless (steady : column.IsSteady layout)
    (targets : ∀ reference ∈ references, reference.target.IsWordy) :
    column.RereadsFaultless layout references := by
  obtain ⟨front, back, split, others⟩ := steady.exists_settingsMeant references
  rw [RereadsFaultless, steady.settingsRead_eq targets, split]
  intro setting member named
  simp only [List.mem_append] at member others
  rcases member with (inFront | inline) | inBack
  · exact absurd named (others setting (.inl inFront))
  · obtain ⟨reference, among, rfl⟩ := List.mem_map.mp inline
    rw [Reference.inline?_setting (targets reference among)]
    rfl
  · exact absurd named (others setting (.inr inBack))

end Column

namespace InlineDraft

def ofReference (reference : Reference) : InlineDraft :=
  ⟨reference.source, reference.cardinality, reference.target⟩

end InlineDraft

variable {table : Table} {layout : Layout}

/-- The settings of a column give the references that it carries. -/
theorem Table.columnDrafts_eq {column : Column} {referencesOf : Column → List Reference}
    (steady : column.IsSteady layout)
    (targets : ∀ reference ∈ referencesOf column, reference.target.IsWordy)
    (sources : ∀ reference ∈ referencesOf column,
      reference.source = ⟨table.schema, table.name, column.name⟩) :
    table.columnDrafts layout referencesOf column =
      (referencesOf column).map InlineDraft.ofReference := by
  obtain ⟨front, back, split, others⟩ := steady.exists_settingsMeant (referencesOf column)
  have noInline : ∀ {settings : List Setting}, (∀ setting ∈ settings, setting ∈ front ++ back) →
      settings.filterMap Setting.inline? = [] := by
    intro settings among
    rw [List.filterMap_eq_nil_iff]
    exact fun setting member => Setting.inline?_of_name (others setting (among setting member))
  have inline : ((referencesOf column).map Reference.setting).filterMap Setting.inline? =
      (referencesOf column).map fun reference => ⟨reference.cardinality, reference.target⟩ := by
    rw [List.filterMap_map]
    exact List.filterMap_eq_map_iff_forall_eq_some.mpr fun reference member =>
      Reference.inline?_setting (targets reference member)
  rw [columnDrafts, inlineDrafts, steady.settingsRead_eq targets, split,
    List.filterMap_append, List.filterMap_append, inline,
    noInline fun setting member => List.mem_append_left back member,
    noInline fun setting member => List.mem_append_right front member, List.nil_append, List.append_nil,
    List.map_map]
  refine List.map_congr_left fun reference member => ?_
  rw [Function.comp_apply, InlineDraft.ofReference, sources reference member]

namespace Table

/-- The header of a table is read as the table without its columns and its note. -/
theorem headerRead_eq (writable : table.Writable)
    (steady : (layout.kept table.properties).IsSteady Table.settingNames) (number : Nat) :
    (table.headerRead layout).table number =
      { table with
        id := "table_" ++ toString number
        columns := []
        note := none
        properties := layout.kept table.properties } := by
  have settings : (table.headerRead layout).settingList =
      (layout.kept table.properties).map Setting.ofProperty := by
    rw [TableHeader.settingList, headerRead, getD_settingsContent, Write.properties_eq]
    exact readAll_of_isWrittenAs steady.forall₂_property
  have bare : (table.headerRead layout).bareTable number =
      { table with
        id := "table_" ++ toString number, columns := [], note := none, properties := [] } := by
    rw [TableHeader.bareTable, nameParts_headerRead writable]
    cases schema : table.schema <;> simp
  rw [TableHeader.table, settings, bare]
  exact steady.foldl_eq afterSetting
    (fun properties => { table with
      id := "table_" ++ toString number, columns := [], note := none, properties })
    fun found setting other => afterSetting_other _ other

theorem IsExpressible.headerRead_eq (expressible : table.IsExpressible)
    (properties : layout.properties = true) (number : Nat) :
    (table.headerRead layout).table number =
      { table with id := "table_" ++ toString number, columns := [], note := none } := by
  have kept : layout.kept table.properties = table.properties := if_pos properties
  rw [table.headerRead_eq expressible.writable (by rw [kept]; exact expressible.properties.steady),
    kept]

end Table

end TableScript
