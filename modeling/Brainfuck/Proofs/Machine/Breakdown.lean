import Brainfuck.Proofs.Machine.Fits

namespace Brainfuck

/-!
# Steps that fail

On any table and at any address, a step that fails leaves the machine as it was.
It fails at an obstacle, at a bracket that has no target, or where there is no
word; of these, only a request that the console refuses changes the console.
-/

/-- Whether a failure is one of a file, of the input or of the output. -/
def Failure.isIo : Failure → Bool
  | .unreadableFile _ _ => true
  | .unwritableFile _ _ => true
  | .inputFailed _ => true
  | .outputFailed _ => true
  | _ => false

/-- What a table answers where it has no target. -/
theorem JumpTable.get_eq_error
    {table : JumpTable}
    {address : Int}
    {failure : Failure}
    (absent : table.get address = .error failure) :
    failure = .noTarget address ∨
      failure = .outsideArray address table.targets.size := by
  unfold JumpTable.get at absent
  split at absent
  · split at absent <;> cases absent
    exact .inr rfl
  · cases absent
    exact .inl rfl

namespace Machine

variable
  {σ : Type}
  {console : Console σ}
  {program : Program}
  {table : JumpTable}
  {machine last : Machine}
  {channel lastChannel : σ}
  {failure : Failure}

/-- Why a step fails on any table, and the state of the console then. -/
inductive Breakdown
    (console : Console σ)
    (program : Program)
    (table : JumpTable)
    (machine : Machine)
    (channel : σ) :
    Failure → σ → Prop where
  | obstacle
      {failure : Failure}
      {next : σ}
      (meets : Obstacle console program machine channel failure next) :
      Breakdown console program table machine channel failure next
  | bracket
      {opcode : Opcode}
      {failure : Failure}
      (found : program.opcodeAt? machine.pc = some opcode)
      (absent : table.get machine.pc = .error failure) :
      Breakdown console program table machine channel failure channel
  | outside
      (absent : program.wordAt? machine.pc = none) :
      Breakdown console program table machine channel (.outsideArray machine.pc program.size)
        channel

/-- A jump fails where the table has no target. -/
theorem jump_eq_failure
    (fails : jump table machine channel = ⟨some failure, last, lastChannel⟩) :
    last = machine ∧ lastChannel = channel ∧ table.get machine.pc = .error failure := by
  unfold jump at fails
  cases reached : table.get machine.pc with
  | ok target =>
      rw [reached] at fails
      cases fails
  | error other =>
      rw [reached] at fails
      cases fails
      exact ⟨rfl, rfl, rfl⟩

/-- A step that fails breaks down, and leaves the machine as it was. -/
theorem breakdown_of_step_eq
    (fails :
      machine.step console program table channel = ⟨some failure, last, lastChannel⟩) :
    last = machine ∧ Breakdown console program table machine channel failure lastChannel := by
  unfold step at fails
  cases fetched : program.wordAt? machine.pc with
  | none =>
      rw [fetched] at fails
      cases fails
      exact ⟨rfl, .outside fetched⟩
  | some word =>
      rw [fetched] at fails
      dsimp only at fails
      cases command : Opcode.ofWord? word with
      | none =>
          rw [command] at fails
          cases fails
      | some opcode =>
          rw [command] at fails
          have found : program.opcodeAt? machine.pc = some opcode := by
            rw [Program.opcodeAt?, fetched, Option.bind_some, command]
          cases opcode with
          | increment | decrement =>
              cases fails
          | moveRight =>
              simp only [execute] at fails
              split at fails
              · cases fails
              · cases fails
                exact ⟨rfl, .obstacle (.rightEdge found (by omega))⟩
          | moveLeft =>
              simp only [execute] at fails
              split at fails
              · cases fails
                exact ⟨rfl, .obstacle (.leftEdge found ‹_›)⟩
              · cases fails
          | output =>
              simp only [execute] at fails
              split at fails
              · cases fails
              · cases fails
                exact ⟨rfl, .obstacle (.output found ‹_›)⟩
          | input =>
              simp only [execute] at fails
              split at fails
              · cases fails
              · cases fails
              · cases fails
                exact ⟨rfl, .obstacle (.input found ‹_›)⟩
          | loopOpen =>
              simp only [execute] at fails
              split at fails
              · obtain ⟨rfl, rfl, absent⟩ := jump_eq_failure fails
                exact ⟨rfl, .bracket found absent⟩
              · cases fails
          | loopClose =>
              simp only [execute] at fails
              split at fails
              · cases fails
              · obtain ⟨rfl, rfl, absent⟩ := jump_eq_failure fails
                exact ⟨rfl, .bracket found absent⟩

theorem isIo_boundsFailure
    (program : Program)
    (address pointer : Int)
    (tapeSize : Nat) :
    (boundsFailure program address pointer tapeSize).isIo = false := by
  rcases boundsFailure_cases program address pointer tapeSize with
    ⟨_, _, same⟩ | ⟨_, _, same⟩ <;>
    rw [same] <;> rfl

theorem isToolchain_boundsFailure
    (program : Program)
    (address pointer : Int)
    (tapeSize : Nat) :
    (boundsFailure program address pointer tapeSize).isToolchain = false := by
  rcases boundsFailure_cases program address pointer tapeSize with
    ⟨_, _, same⟩ | ⟨_, _, same⟩ <;>
    rw [same] <;> rfl

namespace Breakdown

/-- A step does not fail for what a toolchain does. -/
theorem isToolchain_eq_false
    (breakdown : Breakdown console program table machine channel failure lastChannel) :
    failure.isToolchain = false := by
  cases breakdown with
  | obstacle meets =>
      cases meets with
      | input | output =>
          rfl
      | rightEdge | leftEdge =>
          exact isToolchain_boundsFailure _ _ _ _
  | bracket found absent =>
      rcases JumpTable.get_eq_error absent with rfl | rfl <;> rfl
  | outside =>
      rfl

/-- Where neither the input nor the output fails, the console is left alone. -/
theorem channel_eq
    (breakdown : Breakdown console program table machine channel failure lastChannel)
    (otherwise : failure.isIo = false) :
    lastChannel = channel := by
  cases breakdown with
  | obstacle meets =>
      cases meets with
      | input | output =>
          cases otherwise
      | rightEdge | leftEdge =>
          rfl
  | bracket | outside =>
      rfl

/-- A failing step whose failure is one of the console has asked the console for something. -/
theorem refused
    (breakdown : Breakdown console program table machine channel failure lastChannel)
    (io : failure.isIo = true) :
    (∃ cause,
      program.opcodeAt? machine.pc = some .input ∧
        console.read channel = (.failure cause, lastChannel)) ∨
      ∃ cause,
        program.opcodeAt? machine.pc = some .output ∧
          console.write machine.cell channel = (.error cause, lastChannel) := by
  cases breakdown with
  | obstacle meets =>
      cases meets with
      | input found answered =>
          exact .inl ⟨_, found, answered⟩
      | output found written =>
          exact .inr ⟨_, found, written⟩
      | rightEdge | leftEdge =>
          rw [isIo_boundsFailure] at io
          cases io
  | bracket found absent =>
      rcases JumpTable.get_eq_error absent with rfl | rfl <;> cases io
  | outside =>
      cases io

end Breakdown

end Machine

end Brainfuck
