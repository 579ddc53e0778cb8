import TableScript.Model.Schema
import TableScript.Proofs.Grammar.ReferenceLine
import TableScript.Proofs.Setting
import TableScript.Proofs.Write.Table

/-! Schemas of which nothing is lost when they are written: their names can be written, their values
stand on one line, their properties are not taken for settings with a meaning, and their references are
in the order in which a script has them. -/

namespace TableScript

/-- The settings of a column that have a meaning. -/
def Column.settingNames : List String :=
  ["pk", "primary key", "not null", "unique", "default", "note", "ref"]

/-- The settings of a table that have a meaning. -/
def Table.settingNames : List String :=
  ["note"]

/-- A flag that is set, or a text on one line. -/
def PropertyValue.IsExpressible : PropertyValue → Prop
  | .flag present => present = true
  | .text value => '\n' ∉ value.toList

structure Properties.IsExpressible (properties : Properties) (known : List String) : Prop where
  distinct : (properties.map Prod.fst).Nodup
  named : ∀ entry ∈ properties, IsPlainName entry.1
  unknown : ∀ entry ∈ properties, String.ofList (Text.lower entry.1.toList) ∉ known
  valued : ∀ entry ∈ properties, entry.2.IsExpressible

/-- A default value that does not come in quotes of its own. -/
def IsPlainDefault (value : String) : Prop :=
  '\n' ∉ value.toList ∧ Text.isQuoted value.toList = false

structure Column.IsExpressible (column : Column) : Prop extends column.Writable where
  default : ∀ value ∈ column.default, IsPlainDefault value
  note : column.note ≠ some ""
  properties : column.properties.IsExpressible Column.settingNames

structure Table.IsExpressible (table : Table) : Prop where
  named : IsPlainName table.name
  qualified : ∀ schema ∈ table.schema, IsPlainName schema
  columns : ∀ column ∈ table.columns, column.IsExpressible
  distinct : (table.columns.map Column.name).Nodup
  note : table.note ≠ some ""
  properties : table.properties.IsExpressible Table.settingNames

theorem Table.IsExpressible.writable {table : Table} (expressible : table.IsExpressible) :
    table.Writable :=
  ⟨expressible.named, expressible.qualified,
    fun column member => (expressible.columns column member).toWritable⟩

/-- What is written of an action without quotes and read as it is. -/
structure IsPlainAction (action : String) : Prop where
  entry : IsEntry action.toList
  oneLine : '\n' ∉ action.toList
  unquoted : Text.isQuoted action.toList = false

/-- A reference that a column carries: nothing but its symbol and its target. -/
structure Reference.IsPlainInline (reference : Reference) : Prop where
  target : reference.target.IsWordy
  unnamed : reference.name = none
  noDelete : reference.onDelete = none
  noUpdate : reference.onUpdate = none

/-- A reference on a line of its own between columns that are declared. -/
structure Reference.IsPlainStandalone (reference : Reference) (tables : List Table) : Prop where
  source : reference.source.IsDeclared tables ∧ IsWordText reference.source.column.toList
  target : reference.target.IsDeclared tables ∧ IsWordText reference.target.column.toList
  named : ∀ name ∈ reference.name, IsWordText name.toList
  deletes : ∀ action ∈ reference.onDelete, IsPlainAction action
  updates : ∀ action ∈ reference.onUpdate, IsPlainAction action

namespace Schema

def declaredInline (schema : Schema) (table : Table) (column : Column) : List Reference :=
  schema.references.filter fun reference =>
    reference.inline && reference.source == ⟨table.schema, table.name, column.name⟩

/-- All inline references, one column after the other. -/
def inlineInOrder (schema : Schema) : List Reference :=
  schema.tables.flatMap fun table => table.columns.flatMap (schema.declaredInline table)

structure IsExpressible (schema : Schema) : Prop where
  tables : ∀ table ∈ schema.tables, table.IsExpressible
  distinct : (schema.tables.map Table.name).Nodup
  /-- The inline references come first, in the order of their columns. -/
  ordered : schema.references =
    schema.inlineInOrder ++ schema.references.filter fun reference => !reference.inline
  inline : ∀ reference ∈ schema.references, reference.inline = true → reference.IsPlainInline
  standalone : ∀ reference ∈ schema.references, reference.inline = false →
    reference.IsPlainStandalone schema.tables

end Schema

/-- The texts that are written of the metadata stand on one line each. -/
structure Metadata.IsOneLine (metadata : Metadata) : Prop where
  version : '\n' ∉ metadata.version.toList
  created : '\n' ∉ metadata.created.toList
  modified : '\n' ∉ metadata.modified.toList
  author : ∀ author ∈ metadata.author, '\n' ∉ author.toList

/-! Whether a schema is expressible can be computed. -/

instance (name : String) : Decidable (IsPlainName name) :=
  inferInstanceAs (Decidable (_ ∧ _))

instance (text : List Char) : Decidable (IsWordText text) :=
  decidable_of_iff (text ≠ [] ∧ text.all Text.isWord = true) (by simp [IsWordText])

instance (endpoint : Endpoint) : Decidable endpoint.IsWordy :=
  decidable_of_iff ((∀ schema ∈ endpoint.schema, IsWordText schema.toList) ∧
      IsWordText endpoint.table.toList ∧ IsWordText endpoint.column.toList)
    ⟨fun ⟨schema, table, column⟩ => ⟨schema, table, column⟩,
      fun wordy => ⟨wordy.schema, wordy.table, wordy.column⟩⟩

instance (endpoint : Endpoint) (tables : List Table) : Decidable (endpoint.IsDeclared tables) :=
  inferInstanceAs (Decidable (∃ table ∈ tables, table.name = endpoint.table ∧
    (∀ schema ∈ endpoint.schema, table.schema = some schema) ∧
    table.hasColumn endpoint.column = true))

instance : (value : PropertyValue) → Decidable value.IsExpressible
  | .flag present => inferInstanceAs (Decidable (present = true))
  | .text value => inferInstanceAs (Decidable ('\n' ∉ value.toList))

instance (properties : Properties) (known : List String) :
    Decidable (properties.IsExpressible known) :=
  decidable_of_iff ((properties.map Prod.fst).Nodup ∧ ∀ entry ∈ properties, IsPlainName entry.1 ∧
      String.ofList (Text.lower entry.1.toList) ∉ known ∧ entry.2.IsExpressible)
    ⟨fun ⟨distinct, each⟩ => ⟨distinct, fun entry member => (each entry member).1,
        fun entry member => (each entry member).2.1, fun entry member => (each entry member).2.2⟩,
      fun form => ⟨form.distinct, fun entry member =>
        ⟨form.named entry member, form.unknown entry member, form.valued entry member⟩⟩⟩

instance (column : Column) : Decidable column.Writable :=
  decidable_of_iff (column.name ≠ "" ∧ '\n' ∉ column.name.toList ∧
      ¬('\'' ∈ column.name.toList ∧ '"' ∈ column.name.toList) ∧
      '\n' ∉ column.type.toList ∧ Lexeme.isColumnType column.type.toList = true)
    ⟨fun ⟨named, nameOneLine, quotable, oneLine, typed⟩ =>
        ⟨named, nameOneLine, quotable, (Lexeme.isColumnType_iff oneLine).mp typed, oneLine⟩,
      fun form => ⟨form.named, form.nameOneLine, form.quotable, form.typeOneLine,
        (Lexeme.isColumnType_iff form.typeOneLine).mpr form.typed⟩⟩

instance (value : String) : Decidable (IsPlainDefault value) :=
  inferInstanceAs (Decidable (_ ∧ _))

instance (column : Column) : Decidable column.IsExpressible :=
  decidable_of_iff (column.Writable ∧ (∀ value ∈ column.default, IsPlainDefault value) ∧
      column.note ≠ some "" ∧ column.properties.IsExpressible Column.settingNames)
    ⟨fun ⟨writable, default, note, properties⟩ => ⟨writable, default, note, properties⟩,
      fun form => ⟨form.toWritable, form.default, form.note, form.properties⟩⟩

instance (table : Table) : Decidable table.IsExpressible :=
  decidable_of_iff (IsPlainName table.name ∧ (∀ schema ∈ table.schema, IsPlainName schema) ∧
      (∀ column ∈ table.columns, column.IsExpressible) ∧ (table.columns.map Column.name).Nodup ∧
      table.note ≠ some "" ∧ table.properties.IsExpressible Table.settingNames)
    ⟨fun ⟨named, qualified, columns, distinct, note, properties⟩ =>
        ⟨named, qualified, columns, distinct, note, properties⟩,
      fun form => ⟨form.named, form.qualified, form.columns, form.distinct, form.note,
        form.properties⟩⟩

instance (action : String) : Decidable (IsPlainAction action) :=
  decidable_of_iff (IsEntry action.toList ∧ '\n' ∉ action.toList ∧
      Text.isQuoted action.toList = false)
    ⟨fun ⟨entry, oneLine, unquoted⟩ => ⟨entry, oneLine, unquoted⟩,
      fun plain => ⟨plain.entry, plain.oneLine, plain.unquoted⟩⟩

namespace Reference

variable (reference : Reference)

instance : Decidable reference.IsPlainInline :=
  decidable_of_iff (reference.target.IsWordy ∧ reference.name = none ∧ reference.onDelete = none ∧
      reference.onUpdate = none)
    ⟨fun ⟨target, unnamed, noDelete, noUpdate⟩ => ⟨target, unnamed, noDelete, noUpdate⟩,
      fun plain => ⟨plain.target, plain.unnamed, plain.noDelete, plain.noUpdate⟩⟩

instance (tables : List Table) : Decidable (reference.IsPlainStandalone tables) :=
  decidable_of_iff
    ((reference.source.IsDeclared tables ∧ IsWordText reference.source.column.toList) ∧
      (reference.target.IsDeclared tables ∧ IsWordText reference.target.column.toList) ∧
      (∀ name ∈ reference.name, IsWordText name.toList) ∧
      (∀ action ∈ reference.onDelete, IsPlainAction action) ∧
      ∀ action ∈ reference.onUpdate, IsPlainAction action)
    ⟨fun ⟨source, target, named, deletes, updates⟩ => ⟨source, target, named, deletes, updates⟩,
      fun plain => ⟨plain.source, plain.target, plain.named, plain.deletes, plain.updates⟩⟩

end Reference

instance (schema : Schema) : Decidable schema.IsExpressible :=
  decidable_of_iff ((∀ table ∈ schema.tables, table.IsExpressible) ∧
      (schema.tables.map Table.name).Nodup ∧
      (schema.references = schema.inlineInOrder ++
        schema.references.filter fun reference => !reference.inline) ∧
      (∀ reference ∈ schema.references, reference.inline = true → reference.IsPlainInline) ∧
      ∀ reference ∈ schema.references, reference.inline = false →
        reference.IsPlainStandalone schema.tables)
    ⟨fun ⟨tables, distinct, ordered, inline, standalone⟩ =>
        ⟨tables, distinct, ordered, inline, standalone⟩,
      fun form => ⟨form.tables, form.distinct, form.ordered, form.inline, form.standalone⟩⟩

instance (metadata : Metadata) : Decidable metadata.IsOneLine :=
  decidable_of_iff ('\n' ∉ metadata.version.toList ∧ '\n' ∉ metadata.created.toList ∧
      '\n' ∉ metadata.modified.toList ∧ ∀ author ∈ metadata.author, '\n' ∉ author.toList)
    ⟨fun ⟨version, created, modified, author⟩ => ⟨version, created, modified, author⟩,
      fun form => ⟨form.version, form.created, form.modified, form.author⟩⟩

end TableScript
