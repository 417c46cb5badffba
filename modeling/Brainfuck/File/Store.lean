import Brainfuck.File.Path
import Brainfuck.File.Problem
import Brainfuck.Stream

namespace Brainfuck.File

/-!
# File stores

A store holds directories and files by location, the list of names that leads
to them from the root, and has a working directory.  Paths are followed one
component at a time: two dots lead to the parent of the directory that was
reached, and nothing lies below a file.  A damaged file can be opened, but what
reads of it yield is prepared, failures included.
-/

/-- What is at a location. -/
inductive Node where
  | directory
  | file (content : List UInt8)
  | damaged (answers : List Chunk)
  deriving Repr, DecidableEq

/-- Names that lead from the root to a directory or file. -/
abbrev Location :=
  List String

/-- Directories and files by location, and a working directory. -/
structure Store where
  entries : List (Location × Node)
  workingDirectory : Location
  deriving Repr, DecidableEq

/-- The longest name of a directory entry, in bytes. -/
def maxNameBytes : Nat :=
  255

/-- Paths of this many bytes are too long. -/
def pathByteLimit : Nat :=
  4096

namespace Store

/-- What is at a location; the root is a directory. -/
def nodeAt?
    (store : Store)
    (location : Location) :
    Option Node :=
  if location = [] then some .directory else store.entries.lookup location

/-- The store with a node at a location, in place of what was there. -/
def insert
    (store : Store)
    (location : Location)
    (node : Node) :
    Store :=
  { store with
    entries := store.entries.filter (fun entry => entry.1 != location) ++ [(location, node)] }

/-- The store in which a location and all that lies below it is as in an older store. -/
def restoreTree
    (store : Store)
    (older : Store)
    (location : Location) :
    Store :=
  { store with
    entries :=
      store.entries.filter (fun entry => !location.isPrefixOf entry.1) ++
        older.entries.filter fun entry => location.isPrefixOf entry.1 }

/-- The store with a directory at a location, and at all locations above it. -/
def makeDirectories
    (store : Store)
    (location : Location) :
    Store :=
  (List.range location.length).foldl
    (fun made depth =>
      let above := location.take (depth + 1)
      if (made.nodeAt? above).isSome then made else made.insert above .directory)
    store

/-- The store with a file at a location, and directories above it. -/
def makeFile
    (store : Store)
    (location : Location)
    (content : List UInt8) :
    Store :=
  (store.makeDirectories location.dropLast).insert location (.file content)

/-- The store that holds nothing but its working directory. -/
def empty (workingDirectory : Location) : Store :=
  makeDirectories ⟨[], workingDirectory⟩ workingDirectory

/-- Follows the components of a path from a location. -/
def follow
    (store : Store)
    (location : Location) :
    List String → Except Problem Location
  | [] => .ok location
  | name :: rest =>
      match store.nodeAt? location with
      | none => .error .notFound
      | some (.file _) => .error .notDirectory
      | some (.damaged _) => .error .notDirectory
      | some .directory =>
          if name = ".." then
            follow store location.dropLast rest
          else if maxNameBytes < name.utf8ByteSize then
            .error .nameTooLong
          else
            follow store (location ++ [name]) rest

/-- Where the components of a path start. -/
def origin
    (store : Store)
    (path : Path) :
    Location :=
  if path.rootSlashes = 0 then store.workingDirectory else []

/-- The location that a path leads to; something need not be there. -/
def locate
    (store : Store)
    (path : Path) :
    Except Problem Location :=
  if pathByteLimit ≤ path.toText.utf8ByteSize then .error .nameTooLong
  else store.follow (store.origin path) path.parts

/-- The stream through which the file at a path is read. -/
def stream
    (store : Store)
    (path : Path) :
    Except Problem Stream := do
  let location ← store.locate path
  match store.nodeAt? location with
  | some (.file content) => .ok (.bytes content)
  | some (.damaged answers) => .ok (.chunks answers)
  | some .directory => .error .isDirectory
  | none => .error .notFound

/-- The content of the file at a path. -/
def read
    (store : Store)
    (path : Path) :
    Except Problem (List UInt8) := do
  let stream ← store.stream path
  stream.content.mapError Problem.failed

/-- The store with new content in the file at a path, which is made if need be. -/
def write
    (store : Store)
    (path : Path)
    (content : List UInt8) :
    Except Problem Store := do
  let location ← store.locate path
  match store.nodeAt? location with
  | some .directory => .error .isDirectory
  | _ => .ok (store.insert location (.file content))

/-- The content of the file that a text names as it stands. -/
def fileNamed?
    (store : Store)
    (text : String) :
    Option (List UInt8) :=
  if namesEntry text then (store.read (.ofText text)).toOption else none

/-- The files by location. -/
def files (store : Store) : List (Location × List UInt8) :=
  store.entries.filterMap fun entry =>
    match entry.2 with
    | .file content => some (entry.1, content)
    | _ => none

/-- The names that lead from the working directory to a location below it. -/
def relative?
    (store : Store)
    (location : Location) :
    Option Location :=
  if store.workingDirectory.isPrefixOf location then
    some (location.drop store.workingDirectory.length)
  else none

/-- The files that an older store does not hold with the same content. -/
def changesSince
    (store : Store)
    (older : Store) :
    List (Location × List UInt8) :=
  store.files.filter fun file => !older.files.contains file

end Store

end Brainfuck.File
