import Brainfuck.Excerpt
import Brainfuck.File.Problem
import Brainfuck.Memory
import Brainfuck.SystemError
import Brainfuck.Text.Integer
import Brainfuck.Text.Quoted

namespace Brainfuck

/-!
# Failures

Everything that can go wrong, by cause, with the wording in one place.  The
failures that the command line reports by itself are told apart from the rest,
and among them those of the C toolchain.
-/

/-- Which half of a pair of brackets is missing. -/
inductive Imbalance where
  | missingOpen
  | missingClose
  deriving Repr, DecidableEq, Inhabited

namespace Imbalance

/-- The name of an imbalance. -/
def name : Imbalance → String
  | .missingOpen => "MissingOpen"
  | .missingClose => "MissingClose"

/-- Advice on an imbalance. -/
def hint : Imbalance → String
  | .missingClose => "Every \"[\" needs a matching \"]\" later in the program."
  | .missingOpen => "A \"]\" appears without a \"[\" before it."

end Imbalance

/-- Advice on a pointer that leaves the tape. -/
def boundsHint : String :=
  "Increase the tape size (-n) or check for a runaway \"<\" / \">\" loop."

/-- The advice on a topic, if there is any. -/
def hintOn
    (topic : String)
    (imbalance : Option Imbalance) :
    Option String :=
  if topic = "loops" then imbalance.map Imbalance.hint
  else if topic = "bounds" then some boundsHint
  else none

/-- The report on brackets that do not pair up; `address` is that of the culprit. -/
structure LoopFault where
  imbalance : Imbalance
  opens : Int
  closes : Int
  address : Int
  source : String
  deriving Repr, DecidableEq

/-- The report on a command that would move the pointer off the tape. -/
structure BoundsFault where
  address : Int
  pointer : Int
  tapeSize : Int
  source : String
  deriving Repr, DecidableEq

/-- The excerpt of a report on its own lines; an empty program has none. -/
def excerptLines
    (source : String)
    (address : Int) :
    String :=
  if source = "" then "" else "\n" ++ excerpt source address excerptContext

/-- The advice of a report on its own line. -/
def hintLine (hint : String) : String :=
  "\nHint: " ++ hint

/-- The report on brackets in words. -/
def LoopFault.message (fault : LoopFault) : String :=
  s!"UnbalancedLoops ({fault.imbalance.name}): {fault.opens} '[' vs {fault.closes} ']' " ++
    s!"(address {fault.address})" ++ excerptLines fault.source fault.address ++
    hintLine fault.imbalance.hint

/-- The report on the pointer in words. -/
def BoundsFault.message (fault : BoundsFault) : String :=
  s!"TapeBoundsExceeded: data pointer moved to {fault.pointer}, outside " ++
    s!"[0, {fault.tapeSize}) (address {fault.address})" ++
    excerptLines fault.source fault.address ++ hintLine boundsHint

/-- What is said of a number that has no numeral. -/
def numeralLimitMessage : String :=
  s!"Exceeds the limit ({Text.maxNumeralDigits} digits) for integer string conversion; " ++
    "use sys.set_int_max_str_digits() to increase the limit"

/-- A message that ends in a number, or else what is said of a number without a numeral. -/
def numberMessage
    (opening : String)
    (number : Int) :
    String :=
  if Text.hasNumeral number.natAbs then opening ++ toString number else numeralLimitMessage

/-- Which kind of output refused a number that is no byte. -/
inductive ByteCarrier where
  | buffer
  | stream
  deriving Repr, DecidableEq, Inhabited

/-- Why an operation failed. -/
inductive Failure where
  | unbalancedLoops (fault : LoopFault)
  | tapeBounds (fault : BoundsFault)
  | tapeTooLarge (cells : Nat)
  | bufferTooLarge (capacity : Nat)
  | unreadableFile (path : String) (problem : File.Problem)
  | unwritableFile (path : String) (problem : File.Problem)
  | inputFailed (cause : SystemError)
  | outputFailed (cause : SystemError)
  | compilerNotFound (compiler : String)
  | compilerNotStarted (compiler : String) (cause : SystemError)
  | compilerRejected (compiler : String) (status : Int) (complaint : String)
  | programNotStarted (binary : String) (cause : SystemError)
  | tapeSizeTooSmall (cells : Int)
  | batchTooSmall (steps : Int)
  | notOpcode (number : Int)
  | notImbalance (name : String)
  | notAscii (byte : UInt8) (position : Nat)
  | noTarget (address : Int)
  | outsideArray (index : Int) (size : Nat)
  | indexTooWide
  | wordTooWide
  | notByte (carrier : ByteCarrier)
  | numeralTooLong
  | nullInPath
  | nullInCommand
  | negativeReadSize
  | readSizeTooWide
  | readTooLong
  | streamFailed (cause : SystemError)
  | outOfMemory
  | noTape
  | numberMissing
  | pathMissing
  deriving Repr, DecidableEq

namespace Failure

/-- Whether a failure is one of the C toolchain. -/
def isToolchain : Failure → Bool
  | .compilerNotFound _ => true
  | .compilerNotStarted _ _ => true
  | .compilerRejected _ _ _ => true
  | .programNotStarted _ _ => true
  | _ => false

/-- Whether the command line reports a failure itself. -/
def isReported : Failure → Bool
  | .unbalancedLoops _ => true
  | .tapeBounds _ => true
  | .tapeTooLarge cells => isSize cells
  | .bufferTooLarge _ => true
  | .unreadableFile _ _ => true
  | .unwritableFile _ _ => true
  | .inputFailed _ => true
  | .outputFailed _ => true
  | failure => failure.isToolchain

/-- A failure in words. -/
def message : Failure → String
  | .unbalancedLoops fault => fault.message
  | .tapeBounds fault => fault.message
  | .tapeTooLarge cells =>
      if isSize cells then s!"AllocationFailure: cannot allocate a {cells} cell tape"
      else "Maximum allowed dimension exceeded"
  | .bufferTooLarge capacity =>
      s!"AllocationFailure: cannot grow program buffer to {capacity} opcodes"
  | .unreadableFile path problem => s!"IoFailure: cannot read {path}: {problem.description}"
  | .unwritableFile path problem => s!"IoFailure: cannot write {path}: {problem.description}"
  | .inputFailed cause => s!"IoFailure: cannot read input: {cause.message}"
  | .outputFailed cause => s!"IoFailure: cannot write output: {cause.message}"
  | .compilerNotFound compiler =>
      s!"ToolchainError: C compiler {Text.quoted compiler} not found on PATH " ++
        "(set $CC or pass --cc)"
  | .compilerNotStarted compiler cause =>
      s!"ToolchainError: cannot run {compiler}: {cause.message}"
  | .compilerRejected compiler status complaint =>
      s!"ToolchainError: {compiler} exited with status {status}\n" ++ complaint
  | .programNotStarted binary cause =>
      s!"ToolchainError: cannot execute {binary}: {cause.message}"
  | .tapeSizeTooSmall cells => numberMessage "tape_size must be at least 1, got " cells
  | .batchTooSmall steps => numberMessage "batch_steps must be at least 1, got " steps
  | .notOpcode number => s!"{number} is not a valid Opcode"
  | .notImbalance name => s!"{Text.quoted name} is not a valid LoopImbalance"
  | .notAscii byte position =>
      "'ascii' codec can't decode byte 0x" ++ String.ofList (Text.hexadecimal 2 byte.toNat) ++
        s!" in position {position}: ordinal not in range(128)"
  | .noTarget address => s!"{address}"
  | .outsideArray index size =>
      s!"index {index} is out of bounds for axis 0 with size {size}"
  | .indexTooWide => "cannot fit 'int' into an index-sized integer"
  | .wordTooWide => "number outside the 32-bit range"
  | .notByte .buffer => "byte must be in range(0, 256)"
  | .notByte .stream => "bytes must be in range(0, 256)"
  | .numeralTooLong => numeralLimitMessage
  | .nullInPath => "embedded null byte"
  | .nullInCommand => "embedded null byte"
  | .negativeReadSize => "read length must be non-negative or -1"
  | .readSizeTooWide => "cannot fit 'int' into an index-sized integer"
  | .readTooLong => "byte string is too large"
  | .streamFailed cause => cause.message
  | .outOfMemory => "out of memory"
  | .noTape => "no tape"
  | .numberMissing => "a number is missing"
  | .pathMissing => "a path is missing"

end Failure

/-- The result of a computation that may fail. -/
abbrev Outcome (α : Type) :=
  Except Failure α

/-- The imbalance of a name; any other name is a failure. -/
def Imbalance.ofName (name : String) : Outcome Imbalance :=
  match [Imbalance.missingOpen, .missingClose].find? fun imbalance => imbalance.name = name with
  | some imbalance => .ok imbalance
  | none => .error (.notImbalance name)

end Brainfuck
