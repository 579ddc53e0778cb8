import TableScript.CommandLine.Response
import Std.Time.Format

namespace TableScript.CommandLine

def presentTime : IO Timestamp := do
  let time := Std.Time.DateTime.ofTimestamp (← Std.Time.Timestamp.now)
    Std.Time.TimeZone.ZoneRules.UTC
  pure (time.format "uuuu-MM-dd'T'HH:mm:ss.SSSSSSxxx")

def findSource (path : String) : IO Source := do
  if holdsNull path then
    return .missing
  try
    pure (.bytes (← IO.FS.readBinFile path).toList)
  catch _ =>
    pure .missing

/-- Writes a document; the answer is why it could not be written. -/
def writeDocument (document : Document) : IO (Option String) := do
  try
    IO.FS.writeFile document.path document.text
    pure none
  catch error =>
    pure (some (toString error))

def present (response : Response) : IO UInt32 := do
  let response ←
    match response.document with
    | some document => pure (response.written (← writeDocument document))
    | none => pure response
  match response.console.screen with
  | .ok screen =>
      (← IO.getStdout).putStr screen.output
      (← IO.getStderr).putStr screen.messages
      pure (UInt32.ofNat response.code)
  | .error error => pure (UInt32.ofNat (Stop.noWindow error).code)

def runProgram (arguments : List String) : IO UInt32 := do
  match Request.ofArguments arguments with
  | .error stop => pure (UInt32.ofNat stop.code)
  | .ok request =>
      match respond .identity (← presentTime) request (.ok (← findSource request.file)) with
      | .error stop => pure (UInt32.ofNat stop.code)
      | .ok response => present response

end TableScript.CommandLine

def main (arguments : List String) : IO UInt32 :=
  TableScript.CommandLine.runProgram arguments
