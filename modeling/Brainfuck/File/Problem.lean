import Brainfuck.SystemError

namespace Brainfuck.File

/-!
# Problems with files

The reasons for which a file cannot be opened, or not be read to its end.
-/

/-- Why a file cannot be used. -/
inductive Problem where
  | notFound
  | isDirectory
  | notDirectory
  | nameTooLong
  | failed (cause : SystemError)
  deriving Repr, DecidableEq, Inhabited

namespace Problem

/-- The problem in words. -/
def description : Problem → String
  | .notFound => "No such file or directory"
  | .isDirectory => "Is a directory"
  | .notDirectory => "Not a directory"
  | .nameTooLong => "File name too long"
  | .failed cause => cause.reason

end Problem

end Brainfuck.File
