import TableScript.Position
import TableScript.Text.Cut
import TableScript.Text.Shown

namespace TableScript

inductive Json where
  | null
  | bool (value : Bool)
  | integer (value : Int)
  | tenths (value : Nat)
  | string (value : String)
  | list (items : List Json)
  | object (fields : List (String × Json))

namespace Json

def optional : Option String → Json
  | some value => .string value
  | none => .null

def escapeChar (c : Char) : List Char :=
  if c = '"' || c = '\\' then ['\\', c]
  else if c = '\n' then ['\\', 'n']
  else if c = '\r' then ['\\', 'r']
  else if c = '\t' then ['\\', 't']
  else if c = '\x0c' then ['\\', 'f']
  else if c = '\x08' then ['\\', 'b']
  else if c.toNat < 0x20 then '\\' :: 'u' :: Text.hexDigits 4 c.toNat
  else [c]

def quoted (text : String) : String :=
  String.ofList ('"' :: text.toList.flatMap escapeChar ++ ['"'])

/-- The line break before what stands at `level`; nothing where all is on one line. -/
def breakAt (indent : Option Nat) (level : Nat) : String :=
  match indent with
  | none => ""
  | some size => "\n" ++ Text.spaces (size * level)

def separator (indent : Option Nat) (level : Nat) : String :=
  match indent with
  | none => ", "
  | some _ => "," ++ breakAt indent level

def enclose (indent : Option Nat) (level : Nat) (opening closing : String) :
    List String → String
  | [] => opening ++ closing
  | members =>
      opening ++ breakAt indent (level + 1) ++
        Text.join (separator indent (level + 1)) members ++ breakAt indent level ++ closing

mutual

def renderAt (indent : Option Nat) (level : Nat) : Json → String
  | .null => "null"
  | .bool true => "true"
  | .bool false => "false"
  | .integer value => toString value
  | .tenths value => toString (value / 10) ++ "." ++ toString (value % 10)
  | .string value => quoted value
  | .list items => enclose indent level "[" "]" (renderItems indent (level + 1) items)
  | .object fields => enclose indent level "\x7b" "\x7d" (renderFields indent (level + 1) fields)

def renderItems (indent : Option Nat) (level : Nat) : List Json → List String
  | [] => []
  | item :: items => renderAt indent level item :: renderItems indent level items

def renderFields (indent : Option Nat) (level : Nat) : List (String × Json) → List String
  | [] => []
  | (key, value) :: fields =>
      (quoted key ++ ": " ++ renderAt indent level value) :: renderFields indent level fields

end

/-- The text of a value: on one line, or indented by that many spaces per level. -/
def render (indent : Option Nat) (value : Json) : String :=
  renderAt indent 0 value

/-- The text of a value, with an indentation that may be out of bounds: below zero counts as zero,
and one that no run of spaces has is an error. -/
def renderWithin (indent : Option Int) (value : Json) (memory : Nat := Text.usualMemory) :
    Except Text.RunError String :=
  match indent with
  | none => .ok (value.render none)
  | some size =>
      (Text.checkRun memory size.toNat).map fun _ => value.render (some size.toNat)

end Json

end TableScript
