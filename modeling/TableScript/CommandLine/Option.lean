import TableScript.CommandLine.Plain
import TableScript.Lexeme
import TableScript.Text.Character
import TableScript.Text.Cut
import TableScript.Write.Layout

/-! Options on a command line. An option is written out, cut short so far that it is still the only one, or,
with a single dash, joined with its value or with further options. A value stands behind an equals sign or is
the next argument. Two dashes are no value: an option that they are joined to is given without one. -/

namespace TableScript.CommandLine

/-- Why the program ends without an answer. -/
inductive Stop where
  | information
  | misuse
  /-- The file cannot even be looked for, and why. -/
  | unreachable (reason : String)
  | noWindow (error : Plain.NoWindow)
  /-- A layout is asked for that does not even have the right kind of values. -/
  | noLayout (error : LayoutError)
deriving Repr, DecidableEq

def Stop.code : Stop → Nat
  | .information => 0
  | .misuse => 2
  | .unreachable _ | .noWindow _ | .noLayout _ => 1

inductive OptionEffect (Choices : Type) where
  | inform
  | mark (change : Choices → Choices)
  /-- Takes a value, which may be refused. There is none where two dashes are in its place. -/
  | take (change : Option String → Option (Choices → Choices))

structure OptionForm (Choices : Type) where
  names : List String
  effect : OptionEffect Choices

/-- The option that every command has. -/
def OptionForm.help {Choices : Type} : OptionForm Choices :=
  ⟨["-h", "--help"], .inform⟩

/-- An option as it is written: one that is known, with the name that was found and the value joined
to it, or one that is not known. -/
inductive WrittenOption (Choices : Type) where
  | known (name : String) (effect : OptionEffect Choices) (joined : Option String)
  | unknown

inductive Argument (Choices : Type) where
  | plain (text : String)
  | option (written : WrittenOption Choices)
  | dashes

variable {Choices : Type}

def namedEffects (forms : List (OptionForm Choices)) : List (String × OptionEffect Choices) :=
  forms.flatMap fun form => form.names.map fun name => (name, form.effect)

def effect? (forms : List (OptionForm Choices)) (name : List Char) :
    Option (OptionEffect Choices) :=
  ((namedEffects forms).find? fun named => named.1.toList == name).map Prod.snd

def startsWith (name beginning : List Char) : Bool :=
  (Text.after? beginning name).isSome

def isDigits (text : List Char) : Bool :=
  match Lexeme.afterRun? Text.isDigit text with
  | some rest => Lexeme.atEnd rest
  | none => false

def isNegativeNumber (text : List Char) : Bool :=
  match text with
  | '-' :: rest =>
      isDigits rest ||
        match rest.dropWhile Text.isDigit with
        | '.' :: decimals => isDigits decimals
        | _ => false
  | _ => false

/-- The options that a text with two dashes in front may be short for. -/
def longCandidates (forms : List (OptionForm Choices)) (text : List Char) :
    List (WrittenOption Choices) :=
  let (beginning, joined) :=
    match Text.cutAtFirst '=' text with
    | some (name, value) => (name, some (String.ofList value))
    | none => (text, none)
  ((namedEffects forms).filter fun named => startsWith named.1.toList beginning).map
    fun (name, effect) => .known name effect joined

/-- The options that a text with one dash in front may mean: its first letter with the rest joined,
or a name that it begins. -/
def shortCandidates (forms : List (OptionForm Choices)) (text : List Char) :
    List (WrittenOption Choices) :=
  (namedEffects forms).filterMap fun (name, effect) =>
    if name.toList = text.take 2 then
      some (.known name effect (some (String.ofList (text.drop 2))))
    else if startsWith name.toList text then some (.known name effect none)
    else none

/-- What an argument in front of two dashes is. A text that may mean several options is misuse. -/
def classify (forms : List (OptionForm Choices)) (argument : String) :
    Except Stop (Argument Choices) :=
  let text := argument.toList
  match text with
  | [] | ['-'] => .ok (.plain argument)
  | first :: second :: _ =>
      if first ≠ '-' then .ok (.plain argument)
      else
        match effect? forms text with
        | some effect => .ok (.option (.known argument effect none))
        | none =>
            let exact :=
              (Text.cutAtFirst '=' text).bind fun (name, value) =>
                (effect? forms name).map fun effect =>
                  WrittenOption.known (String.ofList name) effect (some (String.ofList value))
            match exact with
            | some written => .ok (.option written)
            | none =>
                let candidates :=
                  if second = '-' then longCandidates forms text else shortCandidates forms text
                match candidates with
                | [written] => .ok (.option written)
                | [] =>
                    if isNegativeNumber text || text.contains ' ' then .ok (.plain argument)
                    else .ok (.option .unknown)
                | _ => .error .misuse
  | _ => .ok (.plain argument)

/-- What the arguments are. Behind two dashes everything is plain. -/
def classifyAll (forms : List (OptionForm Choices)) :
    List String → Except Stop (List (Argument Choices))
  | [] => .ok []
  | argument :: rest =>
      if argument = "--" then .ok (.dashes :: rest.map .plain)
      else do
        let here ← classify forms argument
        let others ← classifyAll forms rest
        pure (here :: others)

abbrev Arguments (Choices : Type) := List (Argument Choices)

/-- A change to the choices, or the wish for information. -/
abbrev Action (Choices : Type) := Choices → Except Stop Choices

def joinedValue? (text : String) : Option String :=
  if text = "--" then none else some text

/-- What a known option asks for, and the arguments behind it. Options without a value may share one
dash: the text joined to one is then the next. `room` bounds how many there can be. -/
def optionActions (forms : List (OptionForm Choices)) :
    (room : Nat) → (name : String) → OptionEffect Choices → (joined : Option String) →
      Arguments Choices → Except Stop (List (Action Choices) × Arguments Choices)
  | room, name, effect, joined, following =>
      match effect with
      | .take change =>
          let taking (value : Option String) : Action Choices := fun choices =>
            match change value with
            | some change => .ok (change choices)
            | none => .error .misuse
          match joined, following with
          | some value, _ => .ok ([taking (joinedValue? value)], following)
          | none, .plain value :: rest => .ok ([taking (some value)], rest)
          | none, _ => .error .misuse
      | .inform | .mark _ =>
          let action : Action Choices := fun choices =>
            match effect with
            | .mark change => .ok (change choices)
            | _ => .error .information
          match joined with
          | none => .ok ([action], following)
          | some text =>
              match room, text.toList, startsWith name.toList ['-', '-'] with
              | room + 1, letter :: more, false =>
                  let next := ['-', letter]
                  match effect? forms next with
                  | some nextEffect => do
                      let joined := if more.isEmpty then none else some (String.ofList more)
                      let (actions, rest) ←
                        optionActions forms room (String.ofList next) nextEffect joined following
                      pure (action :: actions, rest)
                  | none => .error .misuse
              | _, _, _ => .error .misuse

def takeOption (forms : List (OptionForm Choices)) (choices : Choices) (name : String)
    (effect : OptionEffect Choices) (joined : Option String) (following : Arguments Choices) :
    Except Stop (Choices × Arguments Choices) := do
  let room := (joined.getD "").length
  let (actions, rest) ← optionActions forms room name effect joined following
  let choices ← actions.foldlM (fun choices action => action choices) choices
  pure (choices, rest)

end TableScript.CommandLine
