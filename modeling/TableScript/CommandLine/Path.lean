import TableScript.Text.Cut
import TableScript.Text.Shown

namespace TableScript.CommandLine

/-- A path. Empty names and single dots lead nowhere and are left out. -/
structure Path where
  /-- How many slashes stand in front. Two mean something of their own, more are as one. -/
  slashes : Nat
  names : List String
deriving Repr, DecidableEq

namespace Path

def read (written : String) : Path where
  slashes :=
    match (written.toList.takeWhile (· == '/')).length with
    | 0 => 0
    | 2 => 2
    | _ => 1
  names := ((written.toList.splitOn '/').map String.ofList).filter fun name =>
    name ≠ "" && name ≠ "."

def shown (path : Path) : String :=
  let written := String.ofList (List.replicate path.slashes '/') ++ Text.join "/" path.names
  if written = "" then "." else written

def greatestLength : Nat := 4095

def greatestNameLength : Nat := 255

end Path

inductive PathFault where
  | notFound
  | notAFolder
  | aFolder
  | noSpace
  | nameTooLong
deriving Repr, DecidableEq

def PathFault.message (fault : PathFault) (path : Path) : String :=
  let shown := Text.shown path.shown
  match fault with
  | .notFound => "[Errno 2] No such file or directory: " ++ shown
  | .notAFolder => "[Errno 20] Not a directory: " ++ shown
  | .aFolder => "[Errno 21] Is a directory: " ++ shown
  | .noSpace => "[Errno 28] No space left on device"
  | .nameTooLong => "[Errno 36] File name too long: " ++ shown

def holdsNull (written : String) : Bool :=
  written.toList.contains '\x00'

end TableScript.CommandLine
