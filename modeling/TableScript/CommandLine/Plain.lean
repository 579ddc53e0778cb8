import TableScript.Lexeme
import TableScript.Text.Control

/-! What a console without colours makes of a text. Commands to the terminal and sequences that set
colours or move the cursor are taken out, wherever the text has them from. Both may stand between a
pair of marks for what is not printed. A command that sets the title of the window cannot be
carried out, since there is no window. -/

namespace TableScript.CommandLine.Plain

open Text

/-- A text asks for the title of a window, and there is none. -/
structure NoWindow where
deriving Repr, DecidableEq

def behindOpeningMark (text : List Char) : List Char :=
  (after? ['\x01'] text).getD text

def behindClosingMark (text : List Char) : List Char :=
  (after? ['\x02'] text).getD text

/-- The content of the command at the start of the text, and what follows it: an escape, a bracket
and everything up to a bell. -/
def command? (text : List Char) : Option (List Char × List Char) :=
  ((after? [Control.escape, ']'] (behindOpeningMark text)).bind (cutAtFirst '\x07')).map
    fun (content, behind) => (content, behindClosingMark behind)

/-- What follows the sequence at the start of the text: an escape, a bracket, numbers with semicolons
between them and a letter. -/
def afterSequence? (text : List Char) : Option (List Char) :=
  (after? [Control.escape, '['] (behindOpeningMark text)).bind fun rest =>
    match rest.dropWhile fun c => isDigit c || c == ';' with
    | c :: behind => if Lexeme.isAsciiLetter c then some (behindClosingMark behind) else none
    | [] => none

theorem length_behindOpeningMark (text : List Char) :
    (behindOpeningMark text).length ≤ text.length := by
  rw [behindOpeningMark]
  cases found : after? ['\x01'] text with
  | none => simp
  | some rest =>
      have := Control.length_after? found
      simp only [Option.getD_some]
      omega

theorem length_behindClosingMark (text : List Char) :
    (behindClosingMark text).length ≤ text.length := by
  rw [behindClosingMark]
  cases found : after? ['\x02'] text with
  | none => simp
  | some rest =>
      have := Control.length_after? found
      simp only [Option.getD_some]
      omega

theorem length_command? {text content behind : List Char}
    (found : command? text = some (content, behind)) : behind.length < text.length := by
  obtain ⟨⟨inner, rest⟩, cut, same⟩ := Option.map_eq_some_iff.mp found
  obtain ⟨opened, opening, closing⟩ := Option.bind_eq_some_iff.mp cut
  cases same
  have := length_behindOpeningMark text
  have := Control.length_after? opening
  have := Control.length_cutAtFirst closing
  have := length_behindClosingMark rest
  omega

theorem length_afterSequence? {text behind : List Char} (found : afterSequence? text = some behind) :
    behind.length < text.length := by
  obtain ⟨rest, opening, closing⟩ := Option.bind_eq_some_iff.mp found
  have shorter := (List.dropWhile_sublist (l := rest) fun c => isDigit c || c == ';').length_le
  split at closing
  · rename_i letter more heading
    rw [heading, List.length_cons] at shorter
    split at closing
    · cases closing
      have := length_behindOpeningMark text
      have := Control.length_after? opening
      have := length_behindClosingMark more
      omega
    · cases closing
  · cases closing

structure Command where
  start : Nat
  stop : Nat
  content : List Char
deriving Repr, DecidableEq

/-- The number of the command is one of those that set the title, and one text follows it. -/
def Command.setsTitle (command : Command) : Bool :=
  match command.content.splitOn ';' with
  | [number, _] => [[], ['0'], ['2'], ['0', '2']].contains number
  | _ => false

def commands (position : Nat) (text : List Char) : List Command :=
  match text with
  | [] => []
  | c :: rest =>
      match _found : command? (c :: rest) with
      | some (content, behind) =>
          let stop := position + ((c :: rest).length - behind.length)
          ⟨position, stop, content⟩ :: commands stop behind
      | none => commands (position + 1) rest
termination_by text.length
decreasing_by
  · exact length_command? _found
  · simp

/-- Takes the commands out one after the other, each at the place where it stood when none had been
taken out. -/
def withoutCommands (text : List Char) : List Char :=
  (commands 0 text).foldl
    (fun remaining command => remaining.take command.start ++ remaining.drop command.stop) text

/-- The text without sequences, behind `kept`, which has the last character first. -/
def withoutSequences (kept text : List Char) : List Char :=
  match text with
  | [] => kept.reverse
  | c :: rest =>
      match _found : afterSequence? (c :: rest) with
      | some behind => withoutSequences kept behind
      | none => withoutSequences (c :: kept) rest
termination_by text.length
decreasing_by
  · exact length_afterSequence? _found
  · simp

/-- What is printed of the text. Both kinds of things to take out begin with an escape. -/
def ofText (text : String) : Except NoWindow String :=
  let characters := text.toList
  if !characters.contains Control.escape then .ok text
  else if (commands 0 characters).any Command.setsTitle then .error {}
  else .ok (String.ofList (withoutSequences [] (withoutCommands characters)))

end TableScript.CommandLine.Plain
