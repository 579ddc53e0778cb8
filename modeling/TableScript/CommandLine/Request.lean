import TableScript.CommandLine.Option
import TableScript.Read.Policy

namespace TableScript.CommandLine

inductive Command where
  | check
  | format
  | roundTrip
  | statistics
  | sql
deriving Repr, DecidableEq

namespace Command

def label : Command → String
  | .check => "check"
  | .format => "format"
  | .roundTrip => "roundtrip"
  | .statistics => "stats"
  | .sql => "sql"

def ofLabel? (label : String) : Option Command :=
  [check, format, roundTrip, statistics, sql].find? (·.label == label)

end Command

/-- What the options of all commands may choose, with the usual choices. An option that is given
without a value is a choice too. -/
structure Choices where
  color : Bool := true
  targetCheck : Option TargetCheck := some .ignore
  json : Bool := false
  indent : OptionValue := .integer 2
  comments : Bool := true
  metadata : Bool := true
  compact : Bool := false
  dialect : String := "postgres"
  /-- The file to write; the answer is printed where there is none. -/
  output : Option String := none
deriving Repr, DecidableEq

structure Request where
  command : Command
  file : String
  choices : Choices
deriving Repr, DecidableEq

/-- Digits of any script, perhaps with single underscores between them. -/
def digitsValue? (value : Nat) (afterDigit : Bool) : List Char → Option Nat
  | [] => if afterDigit then some value else none
  | c :: rest =>
      match Text.digitValue? c with
      | some digit => digitsValue? (10 * value + digit) true rest
      | none => if c = '_' && afterDigit then digitsValue? value false rest else none

/-- Blanks that may stand around a number: all but those that separate fields and records. -/
def isMargin (c : Char) : Bool :=
  Text.isBlank c && !(0x1C ≤ c.toNat && c.toNat ≤ 0x1F)

/-- No number has more digits, zeros in front included. -/
def greatestDigitCount : Nat := 4300

def integer? (text : String) : Option Int :=
  let written := text.toList
  if greatestDigitCount < written.countP Text.isDigit then none
  else
    match (((written.dropWhile isMargin).reverse.dropWhile isMargin).reverse) with
    | '-' :: rest => (digitsValue? 0 false rest).map fun value => -(value : Int)
    | '+' :: rest => (digitsValue? 0 false rest).map fun value => (value : Int)
    | rest => (digitsValue? 0 false rest).map fun value => (value : Int)

def outputForm : OptionForm Choices :=
  ⟨["--output", "-o"], .take fun value =>
    some fun choices => { choices with output := value.filter (· != "") }⟩

def Command.forms (command : Command) : List (OptionForm Choices) :=
  .help :: match command with
    | .check => [
        ⟨["--inline-refs"], .take fun
          | some label => (TargetCheck.ofLabel label).toOption.map fun check choices =>
              { choices with targetCheck := some check }
          | none => some fun choices => { choices with targetCheck := none }⟩,
        ⟨["--json"], .mark fun choices => { choices with json := true }⟩]
    | .format => [
        ⟨["--indent"], .take fun
          | some number => (integer? number).map fun indent choices =>
              { choices with indent := .integer indent }
          | none => some fun choices => { choices with indent := .other }⟩,
        ⟨["--no-comments"], .mark fun choices => { choices with comments := false }⟩,
        ⟨["--no-metadata"], .mark fun choices => { choices with metadata := false }⟩,
        ⟨["--compact"], .mark fun choices => { choices with compact := true }⟩,
        outputForm]
    | .roundTrip | .statistics => []
    | .sql => [
        ⟨["--dialect", "-d"], .take fun value =>
          some fun choices => { choices with dialect := value.getD "" }⟩,
        outputForm]

def programForms : List (OptionForm Choices) := [
  .help,
  ⟨["--version"], .inform⟩,
  ⟨["--verbose", "-v"], .mark id⟩,
  ⟨["--no-color"], .mark fun choices => { choices with color := false }⟩]

structure Gathered where
  choices : Choices
  file : Option String := none
  surplus : Bool := false
deriving Repr, DecidableEq

/-- Goes through the arguments of a command. The first plain one is the file. Each step takes at
least one argument, so `room` need not be more than their number. -/
def gather (forms : List (OptionForm Choices)) :
    (room : Nat) → Gathered → Arguments Choices → Except Stop Gathered
  | 0, gathered, _ => .ok gathered
  | _, gathered, [] => .ok gathered
  | room + 1, gathered, .option (.known name effect joined) :: rest => do
      let (choices, rest) ← takeOption forms gathered.choices name effect joined rest
      gather forms room { gathered with choices } rest
  | room + 1, gathered, .option .unknown :: rest =>
      gather forms room { gathered with surplus := true } rest
  | room + 1, gathered, .plain text :: rest =>
      match gathered.file, rest with
      | none, .dashes :: rest => gather forms room { gathered with file := some text } rest
      | none, rest => gather forms room { gathered with file := some text } rest
      | some _, rest => gather forms room { gathered with surplus := true } rest
  | room + 1, gathered, .dashes :: rest =>
      match gathered.file, rest with
      | none, .plain text :: rest => gather forms room { gathered with file := some text } rest
      | _, rest => gather forms room { gathered with surplus := true } rest

def Command.request (command : Command) (choices : Choices) (arguments : List String) :
    Except Stop Request := do
  let classified ← classifyAll command.forms arguments
  let gathered ← gather command.forms classified.length { choices } classified
  match gathered.file, gathered.surplus with
  | some file, false => pure ⟨command, file, gathered.choices⟩
  | _, _ => .error .misuse

/-- Goes through the options in front of the command; the first plain argument is the command, and
all arguments behind it are for the command. An option that is not known is misuse, but the others
are still heard first. -/
def programRequest (surplus : Bool) (choices : Choices) :
    (arguments : List String) → Arguments Choices → Except Stop Request
  | argument :: arguments, here :: others =>
      match here with
      | .option (.known name effect joined) => do
          let (choices, _) ← takeOption programForms choices name effect joined others
          programRequest surplus choices arguments others
      | .option .unknown => programRequest true choices arguments others
      | .plain _ =>
          match Command.ofLabel? argument with
          | some command => do
              let request ← command.request choices arguments
              if surplus then .error .misuse else pure request
          | none => .error .misuse
      | .dashes => .error .misuse
  | _, _ => .error .misuse

def Request.ofArguments (arguments : List String) : Except Stop Request := do
  programRequest false {} arguments (← classifyAll programForms arguments)

end TableScript.CommandLine
