import Brainfuck.Build
import Brainfuck.Proofs.Session.Action

namespace Brainfuck

/-!
# Calls on the toolchain

Each stage of a build makes at most one call, whose response settles what comes of
it: a compiler is looked up, a command that the toolchain accepts calls it, and a
binary is run.
-/

/-- The response to the command of a number, counted from those still to come. -/
def Toolchain.response
    (toolchain : Toolchain)
    (number : Nat) :
    Response :=
  toolchain.responses.getD number (.exited 0 "")

/-- The result of an action that gives an answer and leaves a session. -/
def Session.answering
    {α : Type}
    (left : Session) :
    Outcome α → EStateM.Result Failure Session α
  | .ok value => .ok value left
  | .error failure => .error failure left

namespace Build

/--
Which compiler is used: the one that the options name, or else the one that the
environment prefers, or else the usual one; an empty name is none.
-/
inductive UsesCompiler
    (options : TranspileOptions)
    (preferred : Option String) :
    String → Prop where
  | option
      {name : String}
      (given : options.compiler = some name)
      (nonempty : name ≠ "") :
      UsesCompiler options preferred name
  | environment
      {name : String}
      (silent : options.compiler = none ∨ options.compiler = some "")
      (given : preferred = some name)
      (nonempty : name ≠ "") :
      UsesCompiler options preferred name
  | lastResort
      (silent : options.compiler = none ∨ options.compiler = some "")
      (unset : preferred = none ∨ preferred = some "") :
      UsesCompiler options preferred "cc"

variable
  {source binary name : String}
  {flags : List String}
  {content : List UInt8}
  {session : Session}

theorem usesCompiler_resolvedCompiler
    (options : TranspileOptions)
    (preferred : Option String) :
    UsesCompiler options preferred (options.resolvedCompiler preferred) := by
  have fallback (silent : options.compiler = none ∨ options.compiler = some "") :
      UsesCompiler options preferred (defaultCompiler preferred) := by
    cases given : preferred with
    | none =>
        exact .lastResort silent (.inl rfl)
    | some name =>
        by_cases empty : name = ""
        · subst empty
          exact .lastResort silent (.inr rfl)
        · have named : defaultCompiler (some name) = name := if_neg empty
          rw [named]
          exact .environment silent rfl empty
  unfold TranspileOptions.resolvedCompiler
  cases given : options.compiler with
  | none =>
      exact fallback (.inl given)
  | some name =>
      by_cases empty : name = ""
      · subst empty
        exact fallback (.inr given)
      · have named : namedOr (some name) (defaultCompiler preferred) = name := if_neg empty
        rw [named]
        exact .option given empty

theorem UsesCompiler.ne_empty
    {options : TranspileOptions}
    {preferred : Option String}
    (uses : UsesCompiler options preferred name) :
    name ≠ "" := by
  cases uses with
  | option _ nonempty | environment _ _ nonempty =>
      exact nonempty
  | lastResort =>
      decide

theorem UsesCompiler.eq_resolvedCompiler
    {options : TranspileOptions}
    {preferred : Option String}
    (uses : UsesCompiler options preferred name) :
    name = options.resolvedCompiler preferred := by
  unfold TranspileOptions.resolvedCompiler
  cases uses with
  | option given nonempty =>
      rw [given]
      exact (if_neg nonempty).symm
  | environment silent given nonempty =>
      have named : defaultCompiler preferred = name := by
        rw [given]
        exact if_neg nonempty
      rcases silent with silent | silent <;> rw [silent, named] <;> rfl
  | lastResort silent unset =>
      rcases silent with silent | silent <;> rcases unset with unset | unset <;>
        rw [silent, unset] <;> rfl

/-- The session behind a call on its toolchain. -/
def behindCall
    (session : Session)
    (call : Call)
    (responses : List Response) :
    Session :=
  { session with
    toolchain := { session.toolchain with calls := session.toolchain.calls.push call, responses } }

theorem findCompiler_eq_lookup
    (nonempty : name ≠ "")
    (session : Session) :
    findCompiler (some name) session =
      (behindCall session (.search name) session.toolchain.responses).answering
        (match session.toolchain.found.lookup name with
        | some found => .ok found
        | none => .error (.compilerNotFound name)) := by
  have named : namedOr (some name) (defaultCompiler session.toolchain.preferred) = name :=
    if_neg nonempty
  unfold findCompiler
  rw [Session.get_bind, named]
  unfold Toolchain.search
  cases session.toolchain.found.lookup name <;> rfl

theorem runCommand_eq_response
    (call : Call)
    (session : Session) :
    runCommand call session =
      .ok (session.toolchain.response 0)
        (behindCall session call session.toolchain.responses.tail) := by
  have first : session.toolchain.nextResponse = session.toolchain.response 0 := by
    unfold Toolchain.nextResponse Toolchain.response
    cases session.toolchain.responses <;> rfl
  rw [← first]
  rfl

theorem holdsNull_eq_false_iff (text : String) :
    holdsNull text = false ↔ '\x00' ∉ text.toList := by
  unfold holdsNull
  rw [Bool.eq_false_iff, ne_eq, List.contains_iff_mem]

/-- Only the flags can keep the call of a compiler from being a command. -/
theorem accepts_command
    {toolchain : Toolchain}
    {found : String}
    (present : toolchain.found.lookup name = some found)
    (plainBinary : '\x00' ∉ binary.toList)
    (plainSource : '\x00' ∉ source.toList)
    (flags : List String) :
    toolchain.accepts (found :: flags ++ ["-o", binary, source]) = toolchain.accepts flags := by
  unfold Toolchain.accepts
  cases starts : toolchain.startsProcesses with
  | false =>
      rw [Bool.not_false, Bool.true_or, Bool.true_or]
  | true =>
      obtain ⟨earlier, later, entries, _⟩ := List.lookup_eq_some_iff.mp present
      have member : (name, found) ∈ toolchain.found := by
        rw [entries]
        exact List.mem_append_right earlier List.mem_cons_self
      have plainFound := toolchain.found_plain starts _ member
      have plainOption : holdsNull "-o" = false := rfl
      simp only [List.cons_append, List.all_cons, List.all_append, List.all_nil, plainFound,
        plainOption, (holdsNull_eq_false_iff binary).mpr plainBinary,
        (holdsNull_eq_false_iff source).mpr plainSource, Bool.not_false, Bool.not_true,
        Bool.true_and, Bool.and_true, Bool.false_or]

/-- The session behind a compiler that was looked up and whose command was noted. -/
def behindNotice
    (session : Session)
    (name : String)
    (command : List String) :
    Session :=
  let searched := behindCall session (.search name) session.toolchain.responses
  { searched with
    journal := searched.journal.push (.notice (.commandStarted (" ".intercalate command))) }

/-- The session behind a compiler that was looked up and called. -/
def behindCompiler
    (session : Session)
    (name : String)
    (command : List String)
    (content : List UInt8) :
    Session :=
  behindCall (behindNotice session name command) (.compile command (some content))
    session.toolchain.responses.tail

/-- A compiler that is found is called. -/
theorem compile_of_present
    {found : String}
    (binary : String)
    (flags : List String)
    (nonempty : name ≠ "")
    (present : session.toolchain.found.lookup name = some found) :
    compile source binary (some name) flags session =
      callCompiler found (found :: flags ++ ["-o", binary, source]) source binary
        (behindNotice session name (found :: flags ++ ["-o", binary, source])) := by
  have searches := findCompiler_eq_lookup nonempty session
  rw [present] at searches
  have notes (command : List String) :
      Session.note (.commandStarted (" ".intercalate command))
          (behindCall session (.search name) session.toolchain.responses) =
        .ok () (behindNotice session name command) :=
    rfl
  unfold compile
  rw [Session.bind_of_ok searches, Session.bind_of_ok (notes _)]

/-- A command that is not accepted is not run. -/
theorem compile_of_unaccepted
    {found : String}
    (nonempty : name ≠ "")
    (present : session.toolchain.found.lookup name = some found)
    (unaccepted :
      session.toolchain.accepts (found :: flags ++ ["-o", binary, source]) = false) :
    compile source binary (some name) flags session =
      (behindNotice session name (found :: flags ++ ["-o", binary, source])).answering
        (.error .nullInCommand) := by
  let command := found :: flags ++ ["-o", binary, source]
  have refused :
      checkCommand command (behindNotice session name command) =
        .error .nullInCommand (behindNotice session name command) := by
    have same : (behindNotice session name command).toolchain.accepts command = false :=
      unaccepted
    unfold checkCommand
    rw [Session.get_bind, same]
    rfl
  rw [compile_of_present binary flags nonempty present, callCompiler,
    Session.bind_of_error refused]
  rfl

/-- A command that is accepted is run once, with the content of the file. -/
theorem compile_of_accepted
    {found : String}
    (binary : String)
    (flags : List String)
    (nonempty : name ≠ "")
    (present : session.toolchain.found.lookup name = some found)
    (accepted :
      session.toolchain.accepts (found :: flags ++ ["-o", binary, source]) = true)
    (holds : session.files.fileNamed? source = some content) :
    compile source binary (some name) flags session =
      (behindCompiler session name (found :: flags ++ ["-o", binary, source])
        content).answering
        (match session.toolchain.response 0 with
        | .refused cause => .error (.compilerNotStarted found cause)
        | .exited status complaint =>
            if status = 0 then .ok (.ofText binary)
            else .error (.compilerRejected found status complaint)) := by
  let command := found :: flags ++ ["-o", binary, source]
  let noted := behindNotice session name command
  have checked : checkCommand command noted = .ok () noted := by
    have same : noted.toolchain.accepts command = true := accepted
    unfold checkCommand
    rw [Session.get_bind, same]
    rfl
  have calls := runCommand_eq_response (.compile command (noted.files.fileNamed? source)) noted
  have sameFile : noted.files.fileNamed? source = some content := holds
  have sameResponse : noted.toolchain.response 0 = session.toolchain.response 0 := rfl
  rw [compile_of_present binary flags nonempty present, callCompiler,
    Session.bind_of_ok checked, Session.get_bind, Session.bind_of_ok calls, sameFile, sameResponse]
  cases session.toolchain.response 0 with
  | refused cause =>
      rfl
  | exited status complaint =>
      dsimp only
      split <;> rfl

/-- A compiler that is not found is not called. -/
theorem compile_of_absent
    (nonempty : name ≠ "")
    (absent : session.toolchain.found.lookup name = none) :
    compile source binary (some name) flags session =
      (behindCall session (.search name) session.toolchain.responses).answering
        (.error (.compilerNotFound name)) := by
  have searches := findCompiler_eq_lookup nonempty session
  rw [absent] at searches
  unfold compile
  rw [Session.bind_of_error searches]
  rfl

/-- The session behind a binary that was run. -/
def behindExecution
    (session : Session)
    (binary : String) :
    Session :=
  behindCall
    { session with journal := session.journal.push (.notice (.commandStarted binary)) }
    (.execute binary) session.toolchain.responses.tail

/-- A binary is run once, and its status is the answer. -/
theorem execute_eq_response
    (binary : String)
    (session : Session) :
    execute binary session =
      (behindExecution session binary).answering
        (match session.toolchain.response 0 with
        | .refused cause => .error (.programNotStarted binary cause)
        | .exited status _ => .ok status) := by
  let noted : Session :=
    { session with journal := session.journal.push (.notice (.commandStarted binary)) }
  have notes : Session.note (.commandStarted binary) session = .ok () noted := rfl
  have calls := runCommand_eq_response (.execute binary) noted
  have same : noted.toolchain.response 0 = session.toolchain.response 0 := rfl
  unfold execute
  rw [Session.bind_of_ok notes, Session.bind_of_ok calls, same]
  cases session.toolchain.response 0 <;> rfl

theorem response_tail (toolchain : Toolchain) :
    { toolchain with responses := toolchain.responses.tail }.response 0 =
      toolchain.response 1 := by
  unfold Toolchain.response
  cases toolchain.responses <;> rfl

end Build

end Brainfuck
