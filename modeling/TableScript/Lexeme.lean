import TableScript.Text.Character
import TableScript.Text.Quote

/-! The small forms that names, values and types take. A text has a form when it ends after it, where
one line feed at the very end is let pass. -/

namespace TableScript.Lexeme

open Text

/-- Nothing follows, or one last line feed. -/
def atEnd (text : List Char) : Bool :=
  text == [] || text == ['\n']

def isAsciiLetter (c : Char) : Bool :=
  ('a' ≤ c && c ≤ 'z') || ('A' ≤ c && c ≤ 'Z')

def isIdentifierStart (c : Char) : Bool :=
  isAsciiLetter c || c == '_'

def isIdentifierPart (c : Char) : Bool :=
  isIdentifierStart c || ('0' ≤ c && c ≤ '9')

/-- The names that need no quotes: an ASCII letter or underscore, then ASCII letters, digits and
underscores. -/
def isIdentifier (text : List Char) : Bool :=
  match text with
  | [] => false
  | c :: rest => isIdentifierStart c && atEnd (rest.dropWhile isIdentifierPart)

/-- What follows a run of at least one character of the class. -/
def afterRun? (inClass : Char → Bool) (text : List Char) : Option (List Char) :=
  match text with
  | [] => none
  | c :: rest => if inClass c then some (rest.dropWhile inClass) else none

def afterSign (text : List Char) : List Char :=
  match text with
  | c :: rest => if c = '-' || c = '+' then rest else text
  | [] => []

def afterFraction (text : List Char) : List Char :=
  match text with
  | c :: rest => if c = '.' then (afterRun? isDigit rest).getD text else text
  | [] => []

def afterExponent (text : List Char) : List Char :=
  match text with
  | c :: rest =>
      if c = 'e' || c = 'E' then (afterRun? isDigit (afterSign rest)).getD text else text
  | [] => []

/-- Numbers: a sign, digits, decimals and an exponent, of which only the digits must be there. -/
def isNumber (text : List Char) : Bool :=
  match afterRun? isDigit (afterSign text) with
  | some rest => atEnd (afterExponent (afterFraction rest))
  | none => false

def isCall (text : List Char) : Bool :=
  match afterRun? isWord text with
  | some ('(' :: ')' :: rest) => atEnd rest
  | _ => false

def isBareCharacter (c : Char) : Bool :=
  isWord c || c == '.' || c == '+' || c == '-'

def isBareValue (text : List Char) : Bool :=
  match afterRun? isBareCharacter text with
  | some rest => atEnd rest
  | none => false

def isTypePart (c : Char) : Bool :=
  isWord c || c == '.'

/-- What follows the arguments of a type, if it has any: they reach to the first closing
parenthesis. -/
def afterArguments (text : List Char) : List Char :=
  match text with
  | '(' :: rest =>
      match rest.dropWhile (· != ')') with
      | _ :: behind => behind
      | [] => text
  | _ => text

def afterArrayMark (text : List Char) : List Char :=
  match text with
  | '[' :: ']' :: rest => rest
  | _ => text

/-- What follows a column type at the start of the text: a dotted name, then perhaps arguments in
parentheses, then perhaps a pair of brackets. -/
def afterType? (text : List Char) : Option (List Char) :=
  match text with
  | [] => none
  | c :: rest =>
      if isIdentifierStart c then
        some (afterArrayMark (afterArguments (rest.dropWhile isTypePart)))
      else none

def isColumnType (text : List Char) : Bool :=
  match afterType? text with
  | some rest => atEnd rest
  | none => false

end TableScript.Lexeme
