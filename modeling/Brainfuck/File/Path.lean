namespace Brainfuck.File

/-!
# Paths

A path is a list of components behind a root of no, one or two slashes.  Empty
components and single dots are dropped when a path is read; components of two
dots stay, because what they mean depends on the files.
-/

/-- A path without empty components and single dots. -/
structure Path where
  rootSlashes : Nat
  parts : List String
  deriving Repr, DecidableEq, Inhabited

/-- The stretches of a text between its slashes. -/
def splitAtSlashes : List Char → List (List Char)
  | [] => [[]]
  | '/' :: rest => [] :: splitAtSlashes rest
  | character :: rest =>
      match splitAtSlashes rest with
      | [] => [[character]]
      | first :: others => (character :: first) :: others

/-- Stretches of a text with a slash between each two. -/
def joinBySlashes : List (List Char) → List Char
  | [] => []
  | [last] => last
  | first :: rest => first ++ '/' :: joinBySlashes rest

/-- Whether a stretch between slashes is a component that counts. -/
def isComponent (stretch : List Char) : Bool :=
  stretch != [] && stretch != ['.']

/-- The slashes of the root: exactly two are kept, any other number counts as one. -/
def rootOf (text : List Char) : Nat :=
  match (text.takeWhile fun character => character = '/').length with
  | 0 => 0
  | 2 => 2
  | _ => 1

namespace Path

/-- The path that a text spells. -/
def ofText (text : String) : Path where
  rootSlashes := rootOf text.toList
  parts := ((splitAtSlashes text.toList).filter isComponent).map String.ofList

/-- A path as text; the path without components and root is a single dot. -/
def toText (path : Path) : String :=
  if path.rootSlashes = 0 ∧ path.parts = [] then "."
  else
    String.ofList
      (List.replicate path.rootSlashes '/' ++ joinBySlashes (path.parts.map String.toList))

/-- The last component, or nothing. -/
def name (path : Path) : String :=
  path.parts.getLastD ""

/-- The path of an entry of a directory. -/
def child
    (path : Path)
    (entry : String) :
    Path :=
  { path with parts := path.parts ++ [entry] }

end Path

/-- Whether a text spells a path whose last stretch names an entry. -/
def namesEntry (text : String) : Bool :=
  (splitAtSlashes text.toList).getLast?.any isComponent

end Brainfuck.File
