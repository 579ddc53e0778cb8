import TableScript.CommandLine.Path
import TableScript.CommandLine.Response

/-! A folder in memory, in which the program can be run. Its files are known by their paths; a folder
inside it exists as long as a file in it does. Of what is around it only the least is known: there
are folders above, there is a top, and at the top there are the folders of every system. Files that
are written there are not kept. -/

namespace TableScript.CommandLine

structure StoredFile where
  path : List String
  content : List UInt8
deriving DecidableEq

abbrev Folder := List StoredFile

/-- From where the names of a place are counted. -/
inductive Base where
  | folder
  | above
  | top
deriving Repr, DecidableEq

structure Place where
  base : Base
  names : List String
deriving Repr, DecidableEq

/-- Where a name leads from a place. Two dots lead up. -/
def Place.enter (place : Place) (name : String) : Place :=
  if name ≠ ".." then { place with names := place.names ++ [name] }
  else if place.names.isEmpty then { place with base := if place.base = .top then .top else .above }
  else { place with names := place.names.dropLast }

def topFolders : List String :=
  ["bin", "boot", "dev", "etc", "home", "lib", "media", "mnt", "opt", "proc", "root", "run", "sbin",
    "srv", "sys", "tmp", "usr", "var"]

namespace Folder

def file? (folder : Folder) (place : Place) : Option StoredFile :=
  if place.base = .folder then folder.find? (·.path == place.names) else none

def isFolder (folder : Folder) (place : Place) : Bool :=
  place.names.isEmpty ||
    match place.base with
    | .folder => folder.any fun file =>
        place.names.isPrefixOf file.path && place.names ≠ file.path
    | .above => false
    | .top =>
        match place.names with
        | [name] => topFolders.contains name
        | _ => false

/-- Where names lead from a place. All names but the last must be those of folders. -/
def follow (folder : Folder) (place : Place) : List String → Except PathFault Place
  | [] => .ok place
  | name :: names =>
      if !folder.isFolder place then
        .error (if (folder.file? place).isSome then .notAFolder else .notFound)
      else if Path.greatestNameLength < name.utf8ByteSize then .error .nameTooLong
      else folder.follow (place.enter name) names

def locate (folder : Folder) (path : Path) : Except PathFault Place :=
  if Path.greatestLength < path.shown.utf8ByteSize then .error .nameTooLong
  else folder.follow ⟨if path.slashes = 0 then .folder else .top, []⟩ path.names

/-- What is found at a path. Only a name that is too long keeps one from looking. -/
def source (folder : Folder) (written : String) : Except Stop Source :=
  let path := Path.read written
  if holdsNull written then .ok .missing
  else
    match folder.locate path with
    | .error .nameTooLong => .error (.unreachable (PathFault.nameTooLong.message path))
    | .error _ => .ok .missing
    | .ok place =>
        match folder.file? place with
        | some file => .ok (.bytes file.content)
        | none => .ok .missing

def locateNew (folder : Folder) (path : Path) : Except PathFault Place := do
  let place ← folder.locate path
  if folder.isFolder place then .error .aFolder
  else if place = ⟨.top, ["dev", "full"]⟩ then .error .noSpace
  else pure place

def put (folder : Folder) (place : Place) (content : List UInt8) : Folder :=
  if place.base = .folder then
    folder.filter (·.path ≠ place.names) ++ [⟨place.names, content⟩]
  else folder

def finish (folder : Folder) (response : Response) : Response × Folder :=
  match response.document with
  | none => (response, folder)
  | some document =>
      let path := Path.read document.path
      match folder.locateNew path with
      | .error fault => (response.written (some (fault.message path)), folder)
      | .ok place => (response.written none, folder.put place document.text.toUTF8.toList)

/-- Runs the program in the folder. The answer is the exit code, what is seen on the screen, and the
folder as it is then. -/
def run (folder : Folder) (normalize : Ddl.Normalizer) (now : Timestamp)
    (arguments : List String) (host : Host := {}) : Except Stop (Nat × Screen × Folder) := do
  let request ← Request.ofArguments arguments
  let response ← respond normalize now request (folder.source request.file) host
  let (response, folder) := folder.finish response
  let screen ← response.console.screen.mapError .noWindow
  pure (response.code, screen, folder)

/-- The files that are new in a folder or differ from what they were before, by name, with their
texts. -/
def changes (before after : Folder) : List (String × String) :=
  let changed := after.filter fun file => before.file? ⟨.folder, file.path⟩ ≠ some file
  let shown := changed.map fun file =>
    (Text.join "/" file.path, String.ofList ((Text.Utf8.decode file.content).toOption.getD []))
  shown.mergeSort fun first second => decide (first.1 ≤ second.1)

end Folder

end TableScript.CommandLine
