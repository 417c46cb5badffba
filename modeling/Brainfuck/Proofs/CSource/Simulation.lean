import Brainfuck.Console.Output
import Brainfuck.CSource.Execution
import Brainfuck.Proofs.CSource.Text
import Brainfuck.Proofs.Loop.WellNested
import Brainfuck.Proofs.Machine.Batch

namespace Brainfuck.CSource

/-!
# The machine follows C source

A machine whose program is the one that C source was generated from does what
the source does.  A plain statement is one step.  A block is found by its braces
where the machine jumps by its table; both brackets of a loop lead to the same
place, so that a machine behind the body of a loop stands as good as in front of
the loop.
-/

namespace State

/-- The machine with the tape and the cursor of a C program. -/
def machine
    (state : State)
    (pc : Nat)
    (steps : Nat) :
    Machine where
  tape := state.cells
  pointer := state.cursor
  pc := pc
  steps := steps

/-- The input and the output of a C program. -/
def channel (state : State) : Channel where
  input := .memory state.input
  output := .memory state.output

end State

/-- A block of well nested commands ends at the brace behind it. -/
theorem splitBlock?_wellNested
    {body : List Opcode}
    (nested : WellNested body)
    (depth : Nat)
    (rest : List Statement) :
    splitBlock? depth (body.map Statement.ofOpcode ++ rest) =
      (splitBlock? depth rest).map fun (block, behind) =>
        (body.map Statement.ofOpcode ++ block, behind) := by
  induction nested generalizing depth rest with
  | nil =>
      simp
  | @plain opcode behind notOpening notClosing _ inductionHypothesis =>
      cases opcode with
      | loopOpen =>
          exact absurd rfl notOpening
      | loopClose =>
          exact absurd rfl notClosing
      | moveRight | moveLeft | increment | decrement | output | input =>
          simp [Statement.ofOpcode, splitBlock?, inductionHypothesis, Function.comp_def]
  | loop _ _ innerHypothesis laterHypothesis =>
      simp [Statement.ofOpcode, splitBlock?, innerHypothesis, laterHypothesis,
        Function.comp_def]

variable
  {program : Program}
  {table : JumpTable}
  {opcode : Opcode}
  {pc : Nat}

theorem isPast_machine
    (inside : pc < program.size)
    (state : State)
    (steps : Nat) :
    (state.machine pc steps).isPast program = false := by
  have behind : ¬ (program.size : Int) ≤ pc := by omega
  exact decide_eq_false behind

theorem step_machine
    (found : program.opcodeAt? pc = some opcode)
    (table : JumpTable)
    (state : State)
    (steps : Nat) :
    (state.machine pc steps).step Channel.console program table state.channel =
      Machine.execute Channel.console program table opcode (state.machine pc steps)
        state.channel := by
  have inside := Program.lt_size_of_opcodeAt? found
  have standing : 0 ≤ (state.machine pc steps).pc := Int.natCast_nonneg pc
  have there : program.opcodeAt? (state.machine pc steps).pc = some opcode := found
  rw [Machine.step_eq standing (isPast_machine inside state steps), there]

/-- Plain commands are executed alike, and leave the tape alike. -/
theorem execute_plain
    (notOpening : opcode ≠ .loopOpen)
    (notClosing : opcode ≠ .loopClose)
    (found : program.opcodeAt? pc = some opcode)
    (table : JumpTable)
    (state : State)
    (steps : Nat) :
    (∃ next : State,
      (∀ fuel rest,
        execute (fuel + 1) (.ofOpcode opcode :: rest) state = execute fuel rest next) ∧
        (state.machine pc steps).step Channel.console program table state.channel =
          ⟨none, next.machine (pc + 1) (steps + 1), next.channel⟩) ∨
      ∃ cursor : Int,
        (∀ fuel rest,
          execute (fuel + 1) (.ofOpcode opcode :: rest) state = (.escaped cursor, state)) ∧
          (state.machine pc steps).step Channel.console program table state.channel =
            ⟨some (Machine.boundsFailure program pc cursor state.cells.size),
              state.machine pc steps, state.channel⟩ := by
  rw [step_machine found]
  cases opcode with
  | loopOpen =>
      exact absurd rfl notOpening
  | loopClose =>
      exact absurd rfl notClosing
  | moveRight =>
      by_cases room : state.cursor + 1 < state.cells.size
      · refine .inl ⟨{ state with cursor := state.cursor + 1 }, ?_, ?_⟩
        · intro fuel rest
          simp [Statement.ofOpcode, execute, room]
        · simp only [Machine.execute, State.machine, room, ↓reduceIte]
          rfl
      · refine .inr ⟨state.cursor + 1, ?_, ?_⟩
        · intro fuel rest
          simp [Statement.ofOpcode, execute, room]
        · simp only [Machine.execute, State.machine, room, ↓reduceIte]
          rfl
  | moveLeft =>
      by_cases origin : state.cursor = 0
      · refine .inr ⟨-1, ?_, ?_⟩
        · intro fuel rest
          simp [Statement.ofOpcode, execute, origin]
        · simp only [Machine.execute, State.machine, origin, ↓reduceIte]
          rfl
      · refine .inl ⟨{ state with cursor := state.cursor - 1 }, ?_, ?_⟩
        · intro fuel rest
          simp [Statement.ofOpcode, execute, origin]
        · simp only [Machine.execute, State.machine, origin, ↓reduceIte]
          rfl
  | increment =>
      exact .inl ⟨state.assign (state.cell + 1), fun _ _ => rfl, rfl⟩
  | decrement =>
      exact .inl ⟨state.assign (state.cell - 1), fun _ _ => rfl, rfl⟩
  | output =>
      exact .inl ⟨state.put, fun _ _ => rfl, rfl⟩
  | input =>
      refine .inl ⟨state.get, fun _ _ => rfl, ?_⟩
      cases state with
      | mk cells cursor input output =>
          cases input with
          | nil =>
              rfl
          | cons byte rest =>
              have value : UInt8.ofInt (byte.toNat : Int) = byte := by
                have small : ((byte.toNat : Int) % 256).toNat = byte.toNat := by
                  have below := byte.toNat_lt
                  omega
                change UInt8.ofNat ((byte.toNat : Int) % 256).toNat = byte
                rw [small, UInt8.ofNat_toNat]
              simp only [Machine.execute, Channel.console, State.channel, Input.read, value]
              rfl

/-- Both brackets of a loop lead behind it or into it, as the cell tells. -/
theorem step_bracket
    {first last : Nat}
    (matching : table.Matches program)
    (loop : program.IsLoop first last)
    (stands : pc = first ∨ pc = last)
    (state : State)
    (steps : Nat) :
    (state.machine pc steps).step Channel.console program table state.channel =
      ⟨none,
        state.machine (if state.cell = 0 then last + 1 else first + 1) (steps + 1),
        state.channel⟩ := by
  have atBracket :
      (state.machine pc steps).pc = first ∨ (state.machine pc steps).pc = last :=
    stands.imp Int.ofNat_inj.mpr Int.ofNat_inj.mpr
  have sameCell : (state.machine pc steps).cell = state.cell := rfl
  rw [Machine.step_of_isLoop matching loop atBracket, sameCell]
  split <;> rfl

/--
What becomes of a machine while C source is executed: it stands at `exit` when
the source has finished, fails where the cursor escapes, and goes on at least as
long as the fuel of the source lasts.
-/
inductive Follows
    (program : Program)
    (table : JumpTable)
    (machine : Machine)
    (channel : Channel)
    (fuel : Nat)
    (exit : Nat) :
    Ending × State → Prop where
  | finished
      (next : State)
      (count steps : Nat)
      (path : Machine.Path Channel.console program table count machine channel
        (next.machine exit steps) next.channel) :
      Follows program table machine channel fuel exit (.finished, next)
  | escaped
      (cursor : Int)
      (next : State)
      (count address steps : Nat)
      (path : Machine.Path Channel.console program table count machine channel
        (next.machine address steps) next.channel)
      (inside : address < program.size)
      (fails :
        (next.machine address steps).step Channel.console program table next.channel =
          ⟨some (Machine.boundsFailure program address cursor next.cells.size),
            next.machine address steps, next.channel⟩) :
      Follows program table machine channel fuel exit (.escaped cursor, next)
  | unfinished
      (next : State)
      (count : Nat)
      (last : Machine)
      (lastChannel : Channel)
      (enough : fuel ≤ count)
      (path : Machine.Path Channel.console program table count machine channel
        last lastChannel) :
      Follows program table machine channel fuel exit (.unfinished, next)

/-- What follows behind a path of at least one step follows in front of it. -/
theorem Follows.after
    {machine middle : Machine}
    {channel middleChannel : Channel}
    {fuel exit more : Nat}
    {result : Ending × State}
    (path : Machine.Path Channel.console program table (more + 1) machine channel
      middle middleChannel)
    (follows : Follows program table middle middleChannel fuel exit result) :
    Follows program table machine channel (fuel + 1) exit result := by
  cases follows with
  | finished next count steps later =>
      exact .finished next _ steps (path.append later)
  | escaped cursor next count address steps later inside fails =>
      exact .escaped cursor next _ address steps (path.append later) inside fails
  | unfinished next count last lastChannel enough later =>
      exact .unfinished next _ last lastChannel (by omega) (path.append later)

/-- A machine follows a plain statement if it follows what stands behind. -/
theorem follows_plain
    {fuel exit steps : Nat}
    {rest : List Statement}
    {state : State}
    (notOpening : opcode ≠ .loopOpen)
    (notClosing : opcode ≠ .loopClose)
    (found : program.opcodeAt? pc = some opcode)
    (later : ∀ next : State,
      Follows program table (next.machine (pc + 1) (steps + 1)) next.channel fuel exit
        (execute fuel rest next)) :
    Follows program table (state.machine pc steps) state.channel (fuel + 1) exit
      (execute (fuel + 1) (.ofOpcode opcode :: rest) state) := by
  have inside := Program.lt_size_of_opcodeAt? found
  rcases execute_plain notOpening notClosing found table state steps with
    ⟨next, goesOn, stepped⟩ | ⟨cursor, stops, fails⟩
  · rw [goesOn]
    exact .after (.step (isPast_machine inside state steps) stepped (.refl _ _)) (later next)
  · rw [stops]
    exact .escaped cursor state 0 pc steps (.refl _ _) inside fails

/--
A machine at either bracket of a loop follows the block if it follows the body,
the block from behind the body on, and what stands behind the block.
-/
theorem follows_loop
    {first last fuel exit steps : Nat}
    {body rest : List Opcode}
    {state : State}
    (matching : table.Matches program)
    (inner : WellNested body)
    (loop : program.IsLoop first last)
    (stands : pc = first ∨ pc = last)
    (within :
      Follows program table (state.machine (first + 1) (steps + 1)) state.channel fuel last
        (execute fuel (body.map Statement.ofOpcode) state))
    (again : ∀ (next : State) (more : Nat),
      Follows program table (next.machine last more) next.channel fuel exit
        (execute fuel ((.loopOpen :: (body ++ .loopClose :: rest)).map Statement.ofOpcode) next))
    (beyond :
      Follows program table (state.machine (last + 1) (steps + 1)) state.channel fuel exit
        (execute fuel (rest.map Statement.ofOpcode) state)) :
    Follows program table (state.machine pc steps) state.channel (fuel + 1) exit
      (execute (fuel + 1) ((.loopOpen :: (body ++ .loopClose :: rest)).map Statement.ofOpcode)
        state) := by
  have inside : pc < program.size := by
    have ordered := loop.ordered
    have bound := loop.last_lt_size
    omega
  have going := isPast_machine inside state steps
  have stepped := step_bracket matching loop stands state steps
  have split :
      splitBlock? 0 ((body ++ .loopClose :: rest).map Statement.ofOpcode) =
        some (body.map Statement.ofOpcode, rest.map Statement.ofOpcode) := by
    rw [List.map_append, splitBlock?_wellNested inner]
    simp [Statement.ofOpcode, splitBlock?]
  rw [List.map_cons] at again ⊢
  rw [Statement.ofOpcode] at again ⊢
  rw [execute]
  simp only [split]
  by_cases zero : state.cell = 0
  · simp only [zero, ↓reduceIte] at stepped ⊢
    exact .after (.step going stepped (.refl _ _)) beyond
  · simp only [zero, ↓reduceIte] at stepped ⊢
    generalize execute fuel (body.map Statement.ofOpcode) state = result at within ⊢
    cases within with
    | finished next count more path =>
        exact .after (.step going stepped path) (again next more)
    | escaped cursor next count address more path inside fails =>
        exact .escaped cursor next _ address more (.step going stepped path) inside fails
    | unfinished next count final finalChannel enough path =>
        exact .unfinished next _ final finalChannel (Nat.succ_le_succ enough)
          (.step going stepped path)

/--
Whether a machine may stand at an address in order to follow the commands from
`first` on: in front of them or, if they begin with a loop, at its other end.
-/
def StandsAt
    (program : Program)
    (first : Nat)
    (code : List Opcode)
    (pc : Nat) :
    Prop :=
  pc = first ∨ code.head? = some .loopOpen ∧ program.IsLoop first pc

/-- A machine follows the C source of any well nested stretch of its program. -/
theorem follows_execute
    {opcodes before code behind : List Opcode}
    {exit : Nat}
    (matching : table.Matches (.ofOpcodes opcodes))
    (nested : WellNested code)
    (same : opcodes = before ++ (code ++ behind))
    (stands : StandsAt (.ofOpcodes opcodes) before.length code pc)
    (reaches : exit = before.length + code.length)
    (fuel steps : Nat)
    (state : State) :
    Follows (.ofOpcodes opcodes) table (state.machine pc steps) state.channel fuel exit
      (execute fuel (code.map Statement.ofOpcode) state) := by
  induction fuel generalizing before code behind pc exit steps state with
  | zero =>
      exact .unfinished state 0 _ _ (Nat.le_refl 0) (.refl _ _)
  | succ fuel inductionHypothesis =>
      have wholeNested := nested
      cases nested with
      | nil =>
          rcases stands with rfl | ⟨opens, _⟩
          · subst reaches
            exact .finished state 0 steps (.refl _ _)
          · cases opens
      | @plain opcode rest notOpening notClosing later =>
          have here : pc = before.length := by
            rcases stands with here | ⟨opens, _⟩
            · exact here
            · rw [List.head?_cons, Option.some.injEq] at opens
              exact absurd opens notOpening
          have found : (Program.ofOpcodes opcodes).opcodeAt? pc = some opcode := by
            rw [Program.opcodeAt?_ofOpcodes, same, here]
            simp
          have sameRest : opcodes = (before ++ [opcode]) ++ (rest ++ behind) := by
            simp [same]
          exact follows_plain notOpening notClosing found fun next =>
            inductionHypothesis later sameRest (.inl (by simp [here]))
              (by simp [reaches]; omega) (steps + 1) next
      | @loop body rest inner later =>
          have sameLoop :
              opcodes = before ++ .loopOpen :: (body ++ .loopClose :: (rest ++ behind)) := by
            simp [same]
          have loop := Program.isLoop_of_wellNested inner sameLoop
          have atBracket : pc = before.length ∨ pc = before.length + 1 + body.length := by
            rcases stands with here | ⟨_, other⟩
            · exact .inl here
            · exact .inr (other.last_unique loop)
          have sameBody :
              opcodes =
                (before ++ [.loopOpen]) ++ (body ++ .loopClose :: (rest ++ behind)) := by
            simp [same]
          have sameRest :
              opcodes =
                (before ++ .loopOpen :: (body ++ [.loopClose])) ++ (rest ++ behind) := by
            simp [same]
          apply follows_loop matching inner loop atBracket
          case within =>
            exact inductionHypothesis inner sameBody (.inl (by simp)) (by simp) (steps + 1) state
          case again =>
            -- Behind the body, the machine stands at the other end of the same loop.
            intro next more
            exact inductionHypothesis wholeNested same (.inr ⟨rfl, loop⟩) reaches more next
          case beyond =>
            exact inductionHypothesis later sameRest (.inl (by simp; omega))
              (by simp [reaches]; omega) (steps + 1) state

end Brainfuck.CSource
