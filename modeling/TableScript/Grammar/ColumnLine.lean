import TableScript.Lexeme
import TableScript.Grammar.Keyword

namespace TableScript

structure ColumnName where
  text : List Char
  quoted : Bool
deriving Repr, DecidableEq

namespace ColumnName

def startsBareName (c : Char) : Bool :=
  !Text.isBlank c && !"[]\x7b\x7d\"'".toList.contains c

def continuesBareName (c : Char) : Bool :=
  !Text.isBlank c && !"[]\"'".toList.contains c

/-- The column name at the start of the text and what follows it. A quoted name reaches to the next
mark of its kind and is not empty; a bare name reaches to the first blank, bracket or mark. -/
def read? (text : List Char) : Option (ColumnName × List Char) :=
  match text with
  | [] => none
  | c :: rest =>
      if c = '"' || c = '\'' then
        match rest.takeWhile (· != c), rest.dropWhile (· != c) with
        | name@(_ :: _), _ :: behind => some (⟨name, true⟩, behind)
        | _, _ => none
      else if startsBareName c then
        some (⟨c :: rest.takeWhile continuesBareName, false⟩, rest.dropWhile continuesBareName)
      else none

end ColumnName

structure ColumnLine where
  name : ColumnName
  type : List Char
  settings : Option (List Char)
  /-- Everything behind, with the blanks around it. -/
  rest : List Char
  restOffset : Nat
deriving Repr, DecidableEq

namespace ColumnLine

def resembles (text : List Char) : Bool :=
  match ColumnName.read? text with
  | some (_, behind) =>
      match Lexeme.afterRun? Text.isBlank behind with
      | some (_ :: _) => true
      | _ => false
  | none => false

def read? (text : List Char) : Option ColumnLine := do
  let (name, behindName) ← ColumnName.read? text
  let typeText ← Lexeme.afterRun? Text.isBlank behindName
  let behindType ← Lexeme.afterType? typeText
  let type := typeText.take (typeText.length - behindType.length)
  match bracketed? (Text.trimStart behindType) with
  | some (settings, rest) =>
      pure ⟨name, type, some settings, rest, text.length - rest.length⟩
  | none =>
      let rest := Text.trimStart behindType
      pure ⟨name, type, none, rest, text.length - rest.length⟩

end ColumnLine

end TableScript
