import Brainfuck.Proofs.Engine.Containment
import Brainfuck.Proofs.Loop.Acceptance
import Brainfuck.Proofs.Session.Running

namespace Brainfuck

/-!
# Why runs fail

A run of a program that has source text fails for its brackets, for its tape, or
for what the program does to its pointer and asks of its console.  None of these
is a failure of the toolchain, and all of them are reported if the number of cells
is a size at all.
-/

/-- What a run on a tape of a number of cells can fail for. -/
inductive RunFailure (cells : Nat) : Failure → Prop where
  | unbalanced (fault : LoopFault) :
      RunFailure cells (.unbalancedLoops fault)
  | refused :
      RunFailure cells (.tapeTooLarge cells)
  | bounds (fault : BoundsFault) :
      RunFailure cells (.tapeBounds fault)
  | input (cause : SystemError) :
      RunFailure cells (.inputFailed cause)
  | output (cause : SystemError) :
      RunFailure cells (.outputFailed cause)

namespace RunFailure

variable
  {cells : Nat}
  {failure : Failure}

theorem isToolchain_eq_false (fails : RunFailure cells failure) :
    failure.isToolchain = false := by
  cases fails <;> rfl

theorem isReported_of_isSize
    (fails : RunFailure cells failure)
    (size : isSize cells = true) :
    failure.isReported = true := by
  cases fails with
  | refused =>
      exact size
  | unbalanced | bounds | input | output =>
      rfl

end RunFailure

variable
  {program : Program}
  {source : String}
  {failure : Failure}

theorem Program.exists_fault_of_unresolved
    (shown : program.toSource = .ok source)
    (unresolved : program.resolveLoops = .error failure) :
    ∃ fault, failure = .unbalancedLoops fault := by
  rcases program.resolveLoops_cases with
    ⟨_, _, _, succeeds⟩ | ⟨address, _, fails⟩ | ⟨_, address, _, _, fails⟩
  · rw [succeeds] at unresolved
    cases unresolved
  · rw [fails, loopFailure_eq shown] at unresolved
    cases unresolved
    exact ⟨_, rfl⟩
  · rw [fails, loopFailure_eq shown] at unresolved
    cases unresolved
    exact ⟨_, rfl⟩

theorem Machine.Obstacle.runFailure
    {σ : Type}
    {console : Console σ}
    {machine : Machine}
    {channel next : σ}
    (shown : program.toSource = .ok source)
    (obstacle : Obstacle console program machine channel failure next)
    (cells : Nat) :
    RunFailure cells failure := by
  cases obstacle with
  | input | output =>
      constructor
  | rightEdge | leftEdge =>
      unfold boundsFailure
      rw [shown]
      exact .bounds _

/-- Whatever a session is connected to, a run fails for nothing else. -/
theorem Session.runFailure_of_runProgram
    {options : RunOptions}
    {fuel : Nat}
    {session left : Session}
    (shown : program.toSource = .ok source)
    (cells : 0 < options.tapeSize)
    (positive : 0 < options.batchSteps)
    (fails : runProgram program options fuel session = .error failure left) :
    RunFailure options.tapeSize failure := by
  cases resolved : program.resolveLoops with
  | error found =>
      rw [runProgram_of_unresolved resolved] at fails
      cases fails
      obtain ⟨fault, rfl⟩ := Program.exists_fault_of_unresolved shown resolved
      exact .unbalanced fault
  | ok table =>
      have ends : session.RunEnds program options (.error failure) left.channel :=
        ⟨fuel, left, fails, rfl⟩
      obtain ⟨state, concludes, _⟩ := (runEnds_iff_concludes resolved).mp ends
      cases granted : session.host.newTape? options.tapeSize with
      | none =>
          obtain ⟨same, _⟩ := (Engine.concludes_of_refused _ granted).mp concludes
          cases same
          exact .refused
      | some tape =>
          have matching :
              (engineFor session.host program table options).table.Matches
                (engineFor session.host program table options).program :=
            (Program.matches_of_resolveLoops resolved).2
          obtain ⟨_, _, _, _, _, obstacle⟩ :=
            (Engine.concludes_error_iff_obstacle matching cells granted positive).mp concludes
          exact obstacle.runFailure shown _

end Brainfuck
