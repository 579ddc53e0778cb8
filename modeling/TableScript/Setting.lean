import TableScript.Text.Character
import TableScript.Text.Cut
import TableScript.Text.LetterCase
import TableScript.Text.Quote

/-! Settings: the list that stands in brackets, each entry a key or a key and a value. Entries are
cut at commas; commas in quotes and in parentheses do not count. A key ends at the first colon. -/

namespace TableScript

structure Nesting where
  quotes : Text.QuoteScan := .outside
  depth : Nat := 0
deriving Repr, DecidableEq

namespace Nesting

def isTop (nesting : Nesting) : Bool :=
  nesting.quotes == .outside && nesting.depth == 0

/-- A closing parenthesis that closes nothing is ignored. -/
def next (nesting : Nesting) (c : Char) : Nesting :=
  match nesting.quotes with
  | .outside =>
      if c = '(' then { nesting with depth := nesting.depth + 1 }
      else if c = ')' then { nesting with depth := nesting.depth - 1 }
      else { nesting with quotes := nesting.quotes.next c }
  | .inside _ _ => { nesting with quotes := nesting.quotes.next c }

/-- The pieces of the text between the commas that do not stand inside anything. -/
def pieces (nesting : Nesting) : List Char → List (List Char)
  | [] => [[]]
  | c :: rest =>
      if c = ',' && nesting.isTop then [] :: pieces nesting rest
      else
        match pieces (nesting.next c) rest with
        | [] => [[c]]
        | piece :: more => (c :: piece) :: more

end Nesting

/-- The entries of a settings list, without the blanks around them and without empty ones. -/
def splitSettings (content : List Char) : List (List Char) :=
  ((Nesting.pieces {} content).map Text.trim).filter fun piece => !piece.isEmpty

structure Setting where
  key : String
  /-- The value as it is written, quotes included; a flag has none. -/
  raw : Option String
deriving Repr, DecidableEq

namespace Setting

def read (text : List Char) : Setting :=
  match Text.cutAtFirst ':' text with
  | none => ⟨String.ofList (Text.trim text), none⟩
  | some (key, value) =>
      let written := Text.trim value
      ⟨String.ofList (Text.trim key),
        if written.isEmpty then none else some (String.ofList written)⟩

def readAll (content : List Char) : List Setting :=
  (splitSettings content).map read

def value (setting : Setting) : Option String :=
  setting.raw.map fun raw => String.ofList (Text.stripQuotes raw.toList)

/-- The key in lower case with single spaces: what the setting is recognised by. -/
def name (setting : Setting) : String :=
  String.ofList (Text.collapseBlanks false (Text.lower setting.key.toList))

def isQuoted (setting : Setting) : Bool :=
  match setting.raw with
  | some raw => Text.isQuoted raw.toList
  | none => false

def isFlag (setting : Setting) : Bool :=
  setting.raw.isNone

end Setting

end TableScript
