import Brainfuck.Text.Quoted

namespace Brainfuck

/-!
# System errors

What an operating system reports when a stream or a command fails: nothing at
all, a bare text, or an error number with its text and perhaps the file that
it concerns.
-/

/-- The report of a failed system call. -/
inductive SystemError where
  | blank
  | described (description : String)
  | numbered (number : Int) (description : String)
  | onFile (number : Int) (description : String) (file : String)
  deriving Repr, DecidableEq, Inhabited

namespace SystemError

/-- The error number, if the report has one. -/
def number? : SystemError → Option Int
  | .blank => none
  | .described _ => none
  | .numbered number _ => some number
  | .onFile number _ _ => some number

/-- The report as one line of text. -/
def message : SystemError → String
  | .blank => ""
  | .described description => description
  | .numbered number description => s!"[Errno {number}] {description}"
  | .onFile number description file => s!"[Errno {number}] {description}: {Text.quoted file}"

/-- The text that comes with the error number, or else the whole report. -/
def reason (error : SystemError) : String :=
  match error with
  | .numbered _ description => if description = "" then error.message else description
  | .onFile _ description _ => if description = "" then error.message else description
  | _ => error.message

end SystemError

end Brainfuck
