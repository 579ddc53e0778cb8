import TableScript.Lexeme
import TableScript.Grammar.Keyword
import TableScript.Model.Reference

namespace TableScript

/-- The word at the start of the text, which is not empty, and what follows it. -/
def word? (text : List Char) : Option (List Char × List Char) :=
  (Lexeme.afterRun? Text.isWord text).map fun rest => (text.takeWhile Text.isWord, rest)

def dottedWord? (text : List Char) : Option (List Char × List Char) :=
  match text with
  | '.' :: rest => word? rest
  | _ => none

/-- The endpoint at the start of the text and what follows it: as many as three words with dots
between them, and no fewer than two. -/
def Endpoint.read? (text : List Char) : Option (Endpoint × List Char) := do
  let (first, behindFirst) ← word? text
  let (second, behindSecond) ← dottedWord? behindFirst
  match dottedWord? behindSecond with
  | some (third, behindThird) =>
      pure (⟨some (String.ofList first), String.ofList second, String.ofList third⟩, behindThird)
  | none => pure (⟨none, String.ofList first, String.ofList second⟩, behindSecond)

def Cardinality.read? : List Char → Option (Cardinality × List Char)
  | '<' :: '>' :: rest => some (ofSymbol ['<', '>'], rest)
  | '<' :: rest => some (ofSymbol ['<'], rest)
  | '>' :: rest => some (ofSymbol ['>'], rest)
  | '-' :: rest => some (ofSymbol ['-'], rest)
  | _ => none

structure ReferenceLine where
  name : Option (List Char)
  source : Endpoint
  sourceOffset : Nat
  cardinality : Cardinality
  target : Endpoint
  targetOffset : Nat
  settings : Option (List Char)
deriving Repr, DecidableEq

namespace ReferenceLine

/-- The name of the reference behind the keyword, if there is one, and what follows. -/
def readName (text : List Char) : Option (List Char) × List Char :=
  match Lexeme.afterRun? Text.isBlank text with
  | some rest =>
      match word? rest with
      | some (name, behind) => (some name, Text.trimStart behind)
      | none => (none, rest)
  | none => (none, text)

/-- Settings in brackets up to the end of the line, or nothing but blanks. -/
def readSettings? (text : List Char) : Option (Option (List Char)) :=
  match bracketed? text with
  | some (settings, rest) => if Text.allBlank rest then some (some settings) else none
  | none => if Text.allBlank text then some none else none

def read? (text : List Char) : Option ReferenceLine := do
  let behindKeyword ← Keyword.ref.after? text
  let (name, behindName) := readName behindKeyword
  let behindColon ← Text.after? [':'] behindName
  let sourceText := Text.trimStart behindColon
  let (source, behindSource) ← Endpoint.read? sourceText
  let (cardinality, behindSymbol) ← Cardinality.read? (Text.trimStart behindSource)
  let targetText := Text.trimStart behindSymbol
  let (target, behindTarget) ← Endpoint.read? targetText
  let settings ← readSettings? (Text.trimStart behindTarget)
  pure ⟨name, source, text.length - sourceText.length, cardinality, target,
    text.length - targetText.length, settings⟩

end ReferenceLine

/-- The value of a column's reference setting: the symbol and the target. -/
structure InlineReference where
  cardinality : Cardinality
  target : Endpoint
deriving Repr, DecidableEq

def InlineReference.read? (text : List Char) : Option InlineReference := do
  let (cardinality, behindSymbol) ← Cardinality.read? text
  let (target, rest) ← Endpoint.read? (Text.trimStart behindSymbol)
  if Lexeme.atEnd rest then pure ⟨cardinality, target⟩ else none

end TableScript
