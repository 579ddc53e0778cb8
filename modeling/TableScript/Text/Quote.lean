/-! Quoted text. Three marks quote; a quoted span ends at the next mark of its own kind that no backslash
escapes. `QuoteScan` follows a text character by character and knows whether it is inside a span; whoever
looks for commas or braces asks it which ones count. -/

namespace TableScript.Text

def escapeChar (c : Char) : List Char :=
  if c = '\\' then ['\\', '\\']
  else if c = '\'' then ['\\', '\'']
  else if c = '\n' then ['\\', 'n']
  else if c = '\r' then ['\\', 'r']
  else [c]

def escape (text : List Char) : List Char :=
  text.flatMap escapeChar

/-- The character that a backslash followed by `c` stands for. -/
def escapedChar? (c : Char) : Option Char :=
  if c = 'n' then some '\n'
  else if c = 'r' then some '\r'
  else if c = 't' then some '\t'
  else if c = '\\' || c = '\'' || c = '"' then some c
  else none

/-- A text with its escapes resolved. One that is not known stays, together with its backslash. -/
def unescape : List Char → List Char
  | [] => []
  | [c] => [c]
  | c :: d :: rest =>
      if c = '\\' then
        match escapedChar? d with
        | some meant => meant :: unescape rest
        | none => c :: d :: unescape rest
      else c :: unescape (d :: rest)

theorem unescape_cons_of_ne {c : Char} (plain : c ≠ '\\') (rest : List Char) :
    unescape (c :: rest) = c :: unescape rest := by
  cases rest with
  | nil => rfl
  | cons d rest => simp [unescape, plain]

theorem unescape_escape (text : List Char) : unescape (escape text) = text := by
  induction text with
  | nil => rfl
  | cons c rest ih =>
      rw [escape, List.flatMap_cons]
      change unescape (escapeChar c ++ escape rest) = c :: rest
      rw [escapeChar]
      split
      · simp_all [unescape, escapedChar?]
      · split
        · simp_all [unescape, escapedChar?]
        · split
          · simp_all [unescape, escapedChar?]
          · split
            · simp_all [unescape, escapedChar?]
            · rename_i plain _ _ _
              rw [List.singleton_append, unescape_cons_of_ne plain, ih]

def isQuoteMark (c : Char) : Bool :=
  c == '\'' || c == '"' || c == '\x60'

/-- The first and the last character are one and the same quote mark. -/
def isQuoted : List Char → Bool
  | [] => false
  | mark :: rest => isQuoteMark mark && rest.getLast? == some mark

/-- A quoted text without its outer marks and with its escapes resolved; any other text as it is. -/
def stripQuotes (text : List Char) : List Char :=
  if isQuoted text then unescape text.tail.dropLast else text

def quote (text : List Char) : List Char :=
  '\'' :: escape text ++ ['\'']

inductive QuoteScan where
  | outside
  /-- Inside a span that `mark` opened; `escaped` after a backslash. -/
  | inside (mark : Char) (escaped : Bool)
deriving Repr, DecidableEq

namespace QuoteScan

def next : QuoteScan → Char → QuoteScan
  | .outside, c => if isQuoteMark c then .inside c false else .outside
  | .inside mark true, _ => .inside mark false
  | .inside mark false, c =>
      if c = '\\' then .inside mark true
      else if c = mark then .outside
      else .inside mark false

def run (scan : QuoteScan) (text : List Char) : QuoteScan :=
  text.foldl next scan

end QuoteScan

def braceWeight (c : Char) : Int :=
  if c = '{' then 1 else if c = '}' then -1 else 0

/-- Opening braces less closing braces, those inside quotes left out. -/
def braceBalance (scan : QuoteScan) : List Char → Int
  | [] => 0
  | c :: rest =>
      (if scan = .outside then braceWeight c else 0) + braceBalance (scan.next c) rest

end TableScript.Text
