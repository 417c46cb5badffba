namespace Brainfuck

/-!
# Excerpts

A diagnostic shows the neighbourhood of one address of a program: a line with
the commands around it, dots where commands are cut off, and below it a line
with a caret under the address.
-/

namespace Excerpt

/-- The marker for commands that are cut off. -/
def ellipsis : List Char :=
  ['.', '.', '.']

/--
The characters from `start` up to `stop`, not included.  A negative `stop`
counts from the end of the text, and a bound beyond the text is the end.
-/
def slice
    (text : List Char)
    (start : Nat)
    (stop : Int) :
    List Char :=
  (text.take (if stop < 0 then (text.length + stop).toNat else stop.toNat)).drop start

/-- The first address that is shown. -/
def first
    (address : Int)
    (context : Int) :
    Nat :=
  (address - context).toNat

/-- The address behind the last one that is shown. -/
def stop
    (text : List Char)
    (address : Int)
    (context : Int) :
    Int :=
  min text.length (address + context + 1)

/-- The dots before the excerpt. -/
def leading
    (address : Int)
    (context : Int) :
    List Char :=
  if 0 < first address context then ellipsis else []

/-- The dots after the excerpt. -/
def trailing
    (text : List Char)
    (address : Int)
    (context : Int) :
    List Char :=
  if stop text address context < text.length then ellipsis else []

/-- The line with the commands around the address. -/
def commands
    (text : List Char)
    (address : Int)
    (context : Int) :
    List Char :=
  leading address context ++ slice text (first address context) (stop text address context) ++
    trailing text address context

/-- The line that points at the address. -/
def caret
    (address : Int)
    (context : Int) :
    List Char :=
  List.replicate ((leading address context).length + address - first address context).toNat ' ' ++
    ['^']

end Excerpt

/-- How many commands a diagnostic shows on each side of the address. -/
def excerptContext : Int :=
  16

/-- The two lines of a diagnostic, each indented by two spaces. -/
def excerpt
    (source : String)
    (address : Int)
    (context : Int) :
    String :=
  let text := source.toList
  String.ofList
    (' ' :: ' ' :: Excerpt.commands text address context ++
      '\n' :: ' ' :: ' ' :: Excerpt.caret address context)

end Brainfuck
