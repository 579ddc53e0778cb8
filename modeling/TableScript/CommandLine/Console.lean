import TableScript.CommandLine.Plain
import TableScript.Text.Cut

namespace TableScript.CommandLine

inductive Color where
  | red
  | green
  | yellow
  | cyan
deriving Repr, DecidableEq

def Color.code : Color → String
  | .red => "\x1b[31m"
  | .green => "\x1b[32m"
  | .yellow => "\x1b[33m"
  | .cyan => "\x1b[36m"

structure Console where
  colored : Bool
  output : List String := []
  messages : List String := []
deriving Repr, DecidableEq

structure Screen where
  output : String
  messages : String
deriving Repr, DecidableEq

namespace Console

def paint (console : Console) (color : Color) (text : String) : String :=
  if console.colored then color.code ++ text ++ "\x1b[0m" else text

def print (console : Console) (text : String) : Console :=
  { console with output := console.output ++ [text] }

def printMessage (console : Console) (text : String) : Console :=
  { console with messages := console.messages ++ [text] }

def success (console : Console) (text : String) : Console :=
  console.print (console.paint .green ("\u2713 " ++ text))

def error (console : Console) (text : String) : Console :=
  console.printMessage (console.paint .red ("\u2717 " ++ text))

def warning (console : Console) (text : String) : Console :=
  console.printMessage (console.paint .yellow ("\u26a0 " ++ text))

def information (console : Console) (text : String) : Console :=
  console.print (console.paint .cyan text)

/-- What is seen of the texts, each with a line break behind it. Where colours are used they are seen
as they are. -/
def shown (console : Console) (texts : List String) : Except Plain.NoWindow String := do
  let seen ← if console.colored then pure texts else texts.mapM Plain.ofText
  pure (Text.join "" (seen.map (· ++ "\n")))

def screen (console : Console) : Except Plain.NoWindow Screen := do
  pure ⟨← console.shown console.output, ← console.shown console.messages⟩

end Console

end TableScript.CommandLine
