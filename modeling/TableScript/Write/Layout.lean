import TableScript.Entries
import TableScript.Position

namespace TableScript

structure Layout where
  /-- Notes and comment lines are written. -/
  comments : Bool := true
  /-- The header and the statistics at the end are written, if comments are. -/
  metadata : Bool := true
  /-- How far the bodies of tables are indented. -/
  indentSize : Nat := 2
  /-- Settings that are not understood are written. -/
  properties : Bool := true
  blankLines : Bool := true
  /-- The longest run of spaces that memory holds; it is not chosen, but depends on where one writes. -/
  memory : Nat := Text.usualMemory
deriving Repr, DecidableEq

inductive LayoutOption where
  | comments
  | metadata
  | indentSize
  | properties
  | blankLines
deriving Repr, DecidableEq

namespace LayoutOption

def name : LayoutOption → String
  | .comments => "include_comments"
  | .metadata => "include_metadata"
  | .indentSize => "indent_size"
  | .properties => "preserve_custom_properties"
  | .blankLines => "format_output"

/-- The second name of each option, the one that editors use. -/
def editorName : LayoutOption → String
  | .comments => "includeComments"
  | .metadata => "includeMetadata"
  | .indentSize => "indentSize"
  | .properties => "preserveCustomProperties"
  | .blankLines => "formatOutput"

def isNamed (option : LayoutOption) (name : String) : Bool :=
  option.name == name || option.editorName == name

end LayoutOption

inductive LayoutError where
  | notBoolean (option : LayoutOption)
  | notInteger (option : LayoutOption)
  | negative (option : LayoutOption)
deriving Repr, DecidableEq

def LayoutError.message : LayoutError → String
  | .notBoolean option => option.name ++ " must be a boolean"
  | .notInteger option => option.name ++ " must be an integer"
  | .negative option => option.name ++ " must not be negative"

namespace Layout

def checkIndent (layout : Layout) : Except Text.RunError Unit :=
  Text.checkRun layout.memory layout.indentSize

def indent (layout : Layout) : String :=
  Text.spaces layout.indentSize

def booleanOf (option : LayoutOption) (usual : Bool) :
    Option OptionValue → Except LayoutError Bool
  | none => .ok usual
  | some (.bool value) => .ok value
  | some _ => .error (.notBoolean option)

def sizeOf (option : LayoutOption) (usual : Nat) : Option OptionValue → Except LayoutError Nat
  | none => .ok usual
  | some (.integer (.ofNat value)) => .ok value
  | some (.integer (.negSucc _)) => .error (.negative option)
  | some _ => .error (.notInteger option)

/-- The layout that named options ask for. Names that are not known are passed over. A name given
twice stays where it stood first with its last value; of the two names of one option the one that
stands later counts. -/
def ofOptions (pairs : List (String × OptionValue)) : Except LayoutError Layout := do
  let entries := Entries.ofPairs pairs
  let asked (option : LayoutOption) : Option OptionValue :=
    ((entries.filter fun entry => option.isNamed entry.1).getLast?).map Prod.snd
  let usual : Layout := {}
  let comments ← booleanOf .comments usual.comments (asked .comments)
  let metadata ← booleanOf .metadata usual.metadata (asked .metadata)
  let properties ← booleanOf .properties usual.properties (asked .properties)
  let blankLines ← booleanOf .blankLines usual.blankLines (asked .blankLines)
  let indentSize ← sizeOf .indentSize usual.indentSize (asked .indentSize)
  pure { comments, metadata, indentSize, properties, blankLines }

end Layout

end TableScript
