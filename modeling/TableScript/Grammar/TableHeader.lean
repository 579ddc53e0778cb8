import TableScript.Grammar.Keyword

namespace TableScript

structure TableHeader where
  /-- The name with its schema, if one is written. -/
  name : List Char
  nameOffset : Nat
  settings : Option (List Char)
  opensBody : Bool
deriving Repr, DecidableEq

namespace TableHeader

def isNameCharacter (c : Char) : Bool :=
  !Text.isBlank c && c != '[' && c != '{'

/-- The end of a header: perhaps a brace, otherwise blanks only. The answer is whether there is a
brace. -/
def readEnd? (text : List Char) : Option Bool :=
  match Text.trimStart text with
  | [] => some false
  | '{' :: rest => if Text.allBlank rest then some true else none
  | _ => none

def read? (text : List Char) : Option TableHeader := do
  let behindKeyword ← Keyword.table.after? text
  let nameText := Text.trimStart behindKeyword
  let name := nameText.takeWhile isNameCharacter
  let behindName := Text.trimStart (nameText.dropWhile isNameCharacter)
  if nameText.length = behindKeyword.length || name.isEmpty then none
  else
    let nameOffset := text.length - nameText.length
    match behindName with
    | '[' :: _ =>
        let (settings, behindSettings) ← bracketed? behindName
        let opensBody ← readEnd? behindSettings
        pure ⟨name, nameOffset, some settings, opensBody⟩
    | _ =>
        let opensBody ← readEnd? behindName
        pure ⟨name, nameOffset, none, opensBody⟩

/-- The name cut at its last dot: the schema, unless it is missing or empty, and the table name. -/
def nameParts (header : TableHeader) : Option (List Char) × List Char :=
  match Text.cutAtLast '.' header.name with
  | some (schema, name) => (if schema.isEmpty then none else some schema, name)
  | none => (none, header.name)

end TableHeader

end TableScript
