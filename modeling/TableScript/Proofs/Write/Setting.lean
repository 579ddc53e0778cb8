import Mathlib.Data.List.Forall2
import TableScript.Proofs.Lexeme.Literal
import TableScript.Proofs.Model.Expressible

namespace TableScript

open Text

/-- What is written is read as the setting, on one line and among others. -/
structure Setting.IsWrittenAs (setting : Setting) (text : String) : Prop where
  entry : IsEntry text.toList
  oneLine : '\n' ∉ text.toList
  read : Setting.read text.toList = setting

theorem readAll_of_isWrittenAs {settings : List Setting} {texts : List String}
    (written : List.Forall₂ Setting.IsWrittenAs settings texts) :
    Setting.readAll (join ", " texts).toList = settings := by
  have entries : ∀ text ∈ texts, IsEntry text.toList := by
    induction written with
    | nil => simp
    | cons first _ ih => exact List.forall_mem_cons.mpr ⟨first.entry, ih⟩
  rw [Setting.readAll_join entries]
  clear entries
  induction written with
  | nil => rfl
  | cons first _ ih => rw [List.map_cons, ih, first.read]

theorem oneLine_of_isWrittenAs {settings : List Setting} {texts : List String}
    (written : List.Forall₂ Setting.IsWrittenAs settings texts) :
    ∀ text ∈ texts, '\n' ∉ text.toList := by
  induction written with
  | nil => simp
  | cons first _ ih => exact List.forall_mem_cons.mpr ⟨first.oneLine, ih⟩

/-- A key that stands by itself or in front of a colon. -/
structure IsKey (key : String) : Prop where
  entry : IsEntry key.toList
  noColon : ':' ∉ key.toList
  oneLine : '\n' ∉ key.toList

instance (key : String) : Decidable (IsKey key) :=
  decidable_of_iff (IsEntry key.toList ∧ ':' ∉ key.toList ∧ '\n' ∉ key.toList)
    ⟨fun ⟨entry, noColon, oneLine⟩ => ⟨entry, noColon, oneLine⟩,
      fun isKey => ⟨isKey.entry, isKey.noColon, isKey.oneLine⟩⟩

theorem IsKey.isWrittenAs_flag {key : String} (isKey : IsKey key) :
    Setting.IsWrittenAs ⟨key, none⟩ key :=
  ⟨isKey.entry, isKey.oneLine, Setting.read_flag isKey.noColon isKey.entry.trimmed⟩

theorem IsKey.isWrittenAs {key value : String} (isKey : IsKey key) (entry : IsEntry value.toList)
    (oneLine : '\n' ∉ value.toList) :
    Setting.IsWrittenAs ⟨key, some value⟩ (Setting.written key value) where
  entry := Setting.isEntry_written isKey.entry entry
  oneLine := by simp [Setting.toList_written, isKey.oneLine, oneLine]
  read := Setting.read_written isKey.noColon isKey.entry.trimmed entry.nonempty entry.trimmed

theorem IsPlainName.isKey {name : String} (plain : IsPlainName name) : IsKey name := by
  have words : ∀ c ∈ name.toList, isWord c = true := fun c member =>
    Lexeme.isWord_of_isIdentifierPart (plain.isIdentifierPart c member)
  have nonempty : name.toList ≠ [] := fun empty => plain.ne_empty (String.toList_eq_nil_iff.mp empty)
  refine ⟨isPlainClass_word.isEntry nonempty words, fun colon => ?_, plain.2⟩
  exact absurd (words ':' colon) (by decide)

/-- A value as it is written: an entry on one line, with the value behind its quotes. -/
structure IsRawOf (raw value : String) : Prop where
  entry : IsEntry raw.toList
  oneLine : '\n' ∉ raw.toList
  stripped : stripQuotes raw.toList = value.toList

theorem isRawOf_quoted (value : String) : IsRawOf (Write.quoted value) value := by
  refine ⟨?_, ?_, ?_⟩
  · rw [Write.quoted, String.toList_ofList]
    exact isEntry_quote value.toList
  · rw [Write.quoted, String.toList_ofList]
    exact lineBreak_not_mem_quote (.inl rfl) value.toList
  · rw [Write.quoted, String.toList_ofList, stripQuotes_quote]

theorem IsPlainClass.isRawOf {inClass : Char → Bool} (plain : IsPlainClass inClass) {value : String}
    (nonempty : value.toList ≠ []) (oneLine : '\n' ∉ value.toList)
    (inside : ∀ c ∈ value.toList, inClass c = true) : IsRawOf value value :=
  ⟨plain.isEntry nonempty inside, oneLine, plain.stripQuotes_eq inside⟩

/-- What a value is read as when it stands in a script like this. -/
def valueRead (raw : String) : String :=
  String.ofList (stripQuotes raw.toList)

theorem IsRawOf.valueRead_eq {raw value : String} (isRaw : IsRawOf raw value) :
    valueRead raw = value := by
  rw [valueRead, isRaw.stripped, String.ofList_toList]

theorem isRawOf_defaultValue {value : String} (plain : IsPlainDefault value) :
    IsRawOf (Write.defaultValue value) value := by
  obtain ⟨oneLine, unquoted⟩ := plain
  unfold Write.defaultValue
  rw [unquoted, Bool.or_false]
  split
  · rename_i number
    obtain ⟨nonempty, numerals⟩ := Lexeme.isNumeral_of_isNumber number oneLine
    exact isPlainClass_numeral.isRawOf nonempty oneLine numerals
  · exact isRawOf_quoted value

/-- A default value that is written again as it was, once it was written and read. It may come in quotes
of its own if these are the ones that it would be given. -/
structure IsSteadyDefault (value : String) : Prop where
  entry : IsEntry (Write.defaultValue value).toList
  oneLine : '\n' ∉ (Write.defaultValue value).toList
  rewritten : Write.defaultValue (valueRead (Write.defaultValue value)) = Write.defaultValue value

instance (value : String) : Decidable (IsSteadyDefault value) :=
  decidable_of_iff (IsEntry (Write.defaultValue value).toList ∧
      '\n' ∉ (Write.defaultValue value).toList ∧
      Write.defaultValue (valueRead (Write.defaultValue value)) = Write.defaultValue value)
    ⟨fun ⟨entry, oneLine, rewritten⟩ => ⟨entry, oneLine, rewritten⟩,
      fun steady => ⟨steady.entry, steady.oneLine, steady.rewritten⟩⟩

theorem IsSteadyDefault.isRawOf {value : String} (steady : IsSteadyDefault value) :
    IsRawOf (Write.defaultValue value) (valueRead (Write.defaultValue value)) :=
  ⟨steady.entry, steady.oneLine, by rw [valueRead, String.toList_ofList]⟩

theorem IsPlainDefault.steady {value : String} (plain : IsPlainDefault value) :
    IsSteadyDefault value where
  entry := (isRawOf_defaultValue plain).entry
  oneLine := (isRawOf_defaultValue plain).oneLine
  rewritten := by rw [(isRawOf_defaultValue plain).valueRead_eq]

def Write.propertyText (value : String) : String :=
  if Lexeme.isBareValue value.toList then value else quoted value

theorem isRawOf_propertyText {value : String} (oneLine : '\n' ∉ (Write.propertyText value).toList) :
    IsRawOf (Write.propertyText value) value := by
  unfold Write.propertyText at oneLine ⊢
  split
  · rename_i bare
    rw [if_pos bare] at oneLine
    obtain ⟨nonempty, characters⟩ := Lexeme.isBareCharacter_of_isBareValue bare oneLine
    exact isPlainClass_bareCharacter.isRawOf nonempty oneLine characters
  · exact isRawOf_quoted value

theorem oneLine_propertyText {value : String} (oneLine : '\n' ∉ value.toList) :
    '\n' ∉ (Write.propertyText value).toList := by
  unfold Write.propertyText
  split
  · exact oneLine
  · exact (isRawOf_quoted value).oneLine

/-- A flag that is set, or a text that is written on one line. -/
def PropertyValue.IsSteady : PropertyValue → Prop
  | .flag present => present = true
  | .text value => '\n' ∉ (Write.propertyText value).toList

instance : (value : PropertyValue) → Decidable value.IsSteady
  | .flag present => inferInstanceAs (Decidable (present = true))
  | .text value => inferInstanceAs (Decidable ('\n' ∉ (Write.propertyText value).toList))

theorem PropertyValue.IsExpressible.steady {value : PropertyValue}
    (expressible : value.IsExpressible) : value.IsSteady := by
  cases value with
  | flag present => exact expressible
  | text value => exact oneLine_propertyText expressible

namespace Setting

theorem value_of_isRawOf (key : String) {raw value : String} (isRaw : IsRawOf raw value) :
    (Setting.mk key (some raw)).value = some value := by
  simp [Setting.value, isRaw.stripped]

theorem isWrittenAs_of_isRawOf {key raw value : String} (isKey : IsKey key)
    (isRaw : IsRawOf raw value) : IsWrittenAs ⟨key, some raw⟩ (written key raw) :=
  isKey.isWrittenAs isRaw.entry isRaw.oneLine

def ofProperty (entry : String × PropertyValue) : Setting :=
  ⟨entry.1, match entry.2 with
    | .flag _ => none
    | .text value => some (Write.propertyText value)⟩

theorem property_ofProperty {entry : String × PropertyValue} (steady : entry.2.IsSteady) :
    (ofProperty entry).property = entry.2 := by
  obtain ⟨key, value⟩ := entry
  cases value with
  | flag present =>
      cases steady
      rfl
  | text value =>
      have read : (ofProperty (key, .text value)).value = some value :=
        value_of_isRawOf key (isRawOf_propertyText steady)
      rw [property, read]

theorem isWrittenAs_ofProperty {entry : String × PropertyValue} (isKey : IsKey entry.1)
    (steady : entry.2.IsSteady) :
    ∃ text, Write.property? entry = some text ∧ (ofProperty entry).IsWrittenAs text := by
  obtain ⟨key, value⟩ := entry
  cases value with
  | flag present =>
      cases steady
      exact ⟨key, rfl, isKey.isWrittenAs_flag⟩
  | text value =>
      exact ⟨written key (Write.propertyText value), rfl,
        isWrittenAs_of_isRawOf isKey (isRawOf_propertyText steady)⟩

theorem name_ofProperty {entry : String × PropertyValue} (named : IsPlainName entry.1) :
    (ofProperty entry).name = String.ofList (lower entry.1.toList) :=
  name_of_parts (ofProperty entry) named.isIdentifierPart

end Setting

/-- Properties that are read as they are written, none of them as a setting with a meaning. -/
structure Properties.IsSteady (properties : Properties) (known : List String) : Prop where
  distinct : (properties.map Prod.fst).Nodup
  keyed : ∀ entry ∈ properties, IsKey entry.1
  unknown : ∀ entry ∈ properties, (Setting.ofProperty entry).name ∉ known
  valued : ∀ entry ∈ properties, entry.2.IsSteady

theorem Properties.IsExpressible.steady {properties : Properties} {known : List String}
    (expressible : properties.IsExpressible known) : properties.IsSteady known where
  distinct := expressible.distinct
  keyed := fun entry member => (expressible.named entry member).isKey
  unknown := fun entry member => by
    rw [Setting.name_ofProperty (expressible.named entry member)]
    exact expressible.unknown entry member
  valued := fun entry member => (expressible.valued entry member).steady

theorem Properties.IsSteady.forall₂_property {properties : Properties} {known : List String}
    (steady : properties.IsSteady known) :
    List.Forall₂ Setting.IsWrittenAs (properties.map Setting.ofProperty)
      (properties.filterMap Write.property?) := by
  obtain ⟨-, keyed, -, valued⟩ := steady
  induction properties with
  | nil => exact .nil
  | cons entry rest ih =>
      obtain ⟨isKey, keys⟩ := List.forall_mem_cons.mp keyed
      obtain ⟨value, values⟩ := List.forall_mem_cons.mp valued
      obtain ⟨text, given, written⟩ := Setting.isWrittenAs_ofProperty isKey value
      rw [List.map_cons, List.filterMap_cons_some given]
      exact .cons written (ih keys values)

/-- The target of a reference as the setting of a column has it. -/
def Reference.inlineText (reference : Reference) : String :=
  reference.cardinality.symbol ++ " " ++ reference.target.written

namespace Reference

variable {reference : Reference}

theorem toList_inlineText (reference : Reference) :
    reference.inlineText.toList =
      reference.cardinality.symbol.toList ++ ' ' :: reference.target.written.toList := by
  simp [inlineText]

theorem isEntry_symbol (cardinality : Cardinality) : IsEntry cardinality.symbol.toList := by
  cases cardinality
  all_goals decide

theorem isRawOf_inlineText (wordy : reference.target.IsWordy) :
    IsRawOf reference.inlineText reference.inlineText := by
  have target : IsEntry reference.target.written.toList :=
    isPlainClass_bareCharacter.isEntry reference.target.written_ne_nil wordy.isBareCharacter
  have targetOneLine : '\n' ∉ reference.target.written.toList := fun lineFeed =>
    absurd (wordy.isBareCharacter '\n' lineFeed) (by decide)
  refine ⟨?_, ?_, ?_⟩
  · rw [toList_inlineText]
    have blank : Nesting.passAll? {} [' '] = some {} := rfl
    exact (isEntry_symbol reference.cardinality).append blank target
  · have symbolOneLine : '\n' ∉ reference.cardinality.symbol.toList := by
      cases reference.cardinality <;> decide
    simp [toList_inlineText, symbolOneLine, targetOneLine]
  · refine stripQuotes_of_head ?_
    rw [toList_inlineText]
    cases reference.cardinality
    all_goals
      intro c member
      cases member
      decide

def setting (reference : Reference) : Setting :=
  ⟨"ref", some reference.inlineText⟩

end Reference

theorem isKey_settingName {name : String} (known : name ∈ Column.settingNames) : IsKey name := by
  have each : (Column.settingNames.all fun name => decide (IsKey name)) = true := by decide
  exact of_decide_eq_true (List.all_eq_true.mp each name known)

theorem Setting.name_settingName {name : String} (known : name ∈ Column.settingNames)
    (raw : Option String) : (Setting.mk name raw).name = name := by
  have each : (Column.settingNames.all fun name => (Setting.mk name none).name == name) = true := by
    decide +kernel
  exact beq_iff_eq.mp (List.all_eq_true.mp each name known)

theorem noteWritten_eq {layout : Layout} {note : Option String} (comments : layout.comments = true)
    (given : note ≠ some "") : noteWritten layout note = note := by
  cases note with
  | none => rfl
  | some text =>
      have notEmpty : text ≠ "" := fun empty => given (by rw [empty])
      simp [noteWritten, notEmpty, comments]

theorem noteWritten_noteWritten (layout : Layout) (note : Option String) :
    noteWritten layout (noteWritten layout note) = noteWritten layout note := by
  rw [noteWritten, noteWritten, Option.filter_filter]
  simp

/-- The properties that are written: none where they are left out. -/
def Layout.kept (layout : Layout) (properties : Properties) : Properties :=
  if layout.properties then properties else []

theorem Layout.kept_kept (layout : Layout) (properties : Properties) :
    layout.kept (layout.kept properties) = layout.kept properties := by
  unfold kept
  split <;> simp

theorem Write.properties_eq (layout : Layout) (properties : Properties) :
    Write.properties layout properties = (layout.kept properties).filterMap property? := by
  unfold Write.properties Layout.kept
  split <;> rfl

/-- What is written of a column: its note and its properties as far as the layout has them. -/
def Column.kept (column : Column) (layout : Layout) : Column :=
  { column with
    note := noteWritten layout column.note
    properties := layout.kept column.properties }

theorem Properties.IsSteady.kept {properties : Properties} {known : List String}
    (steady : properties.IsSteady known) (layout : Layout) :
    (layout.kept properties).IsSteady known := by
  unfold Layout.kept
  split
  · exact steady
  · exact ⟨List.nodup_nil, by simp, by simp, by simp⟩

/-- A column that is written again as it was, once it was written and read. -/
structure Column.IsSteady (column : Column) (layout : Layout) : Prop where
  default : ∀ value ∈ column.default, IsSteadyDefault value
  properties : (layout.kept column.properties).IsSteady Column.settingNames

/-- A table of which that holds, like its columns. -/
structure Table.IsSteady (table : Table) (layout : Layout) : Prop where
  columns : ∀ column ∈ table.columns, column.IsSteady layout
  properties : (layout.kept table.properties).IsSteady Table.settingNames

theorem Column.IsExpressible.steady {column : Column} (expressible : column.IsExpressible)
    (layout : Layout) : column.IsSteady layout :=
  ⟨fun value given => (expressible.default value given).steady,
    expressible.properties.steady.kept layout⟩

theorem Table.IsExpressible.steady {table : Table} (expressible : table.IsExpressible)
    (layout : Layout) : table.IsSteady layout :=
  ⟨fun column member => (expressible.columns column member).steady layout,
    expressible.properties.steady.kept layout⟩

theorem Column.IsExpressible.kept_eq {column : Column} {layout : Layout}
    (expressible : column.IsExpressible) (comments : layout.comments = true)
    (properties : layout.properties = true) : column.kept layout = column := by
  rw [kept, noteWritten_eq comments expressible.note, Layout.kept, if_pos properties]

namespace Column

def settingsMeant (column : Column) (references : List Reference) : List Setting :=
  (if column.primaryKey then [⟨"pk", none⟩] else []) ++
    (if column.notNull then [⟨"not null", none⟩] else []) ++
    (if column.unique then [⟨"unique", none⟩] else []) ++
    (column.default.toList.map fun value => ⟨"default", some (Write.defaultValue value)⟩) ++
    (column.note.toList.map fun note => ⟨"note", some (Write.quoted note)⟩) ++
    references.map Reference.setting ++ column.properties.map Setting.ofProperty

variable {column : Column} {layout : Layout} {references : List Reference}

theorem forall₂_flag {name : String} (known : name ∈ Column.settingNames) (present : Bool) :
    List.Forall₂ Setting.IsWrittenAs (if present then [⟨name, none⟩] else [])
      (if present then [name] else []) := by
  cases present with
  | false => exact .nil
  | true => exact .cons (isKey_settingName known).isWrittenAs_flag .nil

theorem forall₂_value (name : String) (known : name ∈ Column.settingNames) {α : Type}
    (raw : α → String) {values : List α} (raws : ∀ x ∈ values, ∃ value, IsRawOf (raw x) value) :
    List.Forall₂ Setting.IsWrittenAs (values.map fun x => ⟨name, some (raw x)⟩)
      (values.map fun x => Setting.written name (raw x)) := by
  rw [List.forall₂_map_left_iff, List.forall₂_map_right_iff, List.forall₂_same]
  intro x member
  obtain ⟨value, isRaw⟩ := raws x member
  exact Setting.isWrittenAs_of_isRawOf (isKey_settingName known) isRaw

theorem IsSteady.forall₂_columnSettings (steady : column.IsSteady layout)
    (targets : ∀ reference ∈ references, reference.target.IsWordy) :
    List.Forall₂ Setting.IsWrittenAs ((column.kept layout).settingsMeant references)
      (Write.columnSettings layout column references) := by
  have default := forall₂_value "default" (by decide) Write.defaultValue
    fun value member =>
      ⟨_, (steady.default value (Option.mem_toList.mp member)).isRawOf⟩
  have note := forall₂_value "note" (by decide) Write.quoted
    fun (value : String) (_ : value ∈ (column.kept layout).note.toList) =>
      ⟨value, isRawOf_quoted value⟩
  have inline := forall₂_value "ref" (by decide) Reference.inlineText
    fun reference member =>
      ⟨reference.inlineText, Reference.isRawOf_inlineText (targets reference member)⟩
  have others := steady.properties.forall₂_property
  have noteText : (Write.note? layout column.note).toList.map (fun note => "note: " ++ note) =
      (column.kept layout).note.toList.map fun note =>
        Setting.written "note" (Write.quoted note) := by
    rw [Write.note?_eq, kept]
    cases noteWritten layout column.note <;> rfl
  unfold settingsMeant Write.columnSettings
  rw [noteText, Write.properties_eq]
  refine List.rel_append (List.rel_append (List.rel_append (List.rel_append (List.rel_append
    (List.rel_append ?_ ?_) ?_) default) note) inline) others
  · exact forall₂_flag (by decide) column.primaryKey
  · exact forall₂_flag (by decide) column.notNull
  · exact forall₂_flag (by decide) column.unique

end Column

end TableScript
