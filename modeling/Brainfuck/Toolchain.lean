import Brainfuck.SystemError

namespace Brainfuck

/-!
# The toolchain

What the outside offers for building C programs: a compiler that the
environment prefers, the programs that a search of the path finds, and the
answers to commands.  The toolchain records every call that is made on it, in
order.
-/

/-- How a command ended. -/
inductive Response where
  | exited (status : Int) (complaint : String)
  | refused (cause : SystemError)
  deriving Repr, DecidableEq

/--
A call on the toolchain.  The call of a compiler carries the content of the
file that it compiles, as it is at that moment.
-/
inductive Call where
  | search (name : String)
  | compile (command : List String) (content : Option (List UInt8))
  | execute (binary : String)
  deriving Repr, DecidableEq

/-- Whether a text holds a null character. -/
def holdsNull (text : String) : Bool :=
  text.toList.contains '\x00'

/--
The programs on the path, the answers to come, and the calls made.  Where a
command starts a process, it is made of words without null characters, and no
program on the path has one in its name; a prepared toolchain may only record the
words.
-/
structure Toolchain where
  preferred : Option String
  found : List (String × String)
  responses : List Response
  calls : Array Call
  startsProcesses : Bool
  found_plain : startsProcesses = true → ∀ entry ∈ found, holdsNull entry.2 = false
  deriving Repr, DecidableEq

namespace Toolchain

/-- The toolchain of a host without any program. -/
def none : Toolchain where
  preferred := .none
  found := []
  responses := []
  calls := #[]
  startsProcesses := true
  found_plain _ _ member := absurd member List.not_mem_nil

/-- Looks a program up. -/
def search
    (toolchain : Toolchain)
    (name : String) :
    Option String × Toolchain :=
  (toolchain.found.lookup name, { toolchain with calls := toolchain.calls.push (.search name) })

/-- Whether words may be part of a command. -/
def accepts
    (toolchain : Toolchain)
    (words : List String) :
    Bool :=
  !toolchain.startsProcesses || words.all fun word => !holdsNull word

/-- The response to the next command; without a prepared one it succeeds. -/
def nextResponse (toolchain : Toolchain) : Response :=
  toolchain.responses.headD (.exited 0 "")

/-- Runs a command. -/
def run
    (toolchain : Toolchain)
    (call : Call) :
    Response × Toolchain :=
  (toolchain.nextResponse,
    { toolchain with
      responses := toolchain.responses.tail
      calls := toolchain.calls.push call })

end Toolchain

end Brainfuck
