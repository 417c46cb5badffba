import Brainfuck.Console.Trace
import Brainfuck.Proofs.Machine.Ends

namespace Brainfuck

/-!
# Consoles that answer alike

A step sees of the console nothing but its answer.  Where two consoles answer
alike, and a map of their states keeps up with them, a step therefore does the
same to the machine on either of them, and so do paths and ends.  A traced
console is an example: what was said before has no influence on what it answers.
-/

/-- A step with the state of the console mapped to that of another one. -/
def Transition.onChannel
    {σ τ : Type}
    (image : σ → τ)
    (transition : Transition σ) :
    Transition τ :=
  ⟨transition.failure, transition.machine, image transition.channel⟩

namespace Machine

/-- Whether two consoles answer alike what the next word of a machine asks them. -/
structure AnswersAlike
    {σ τ : Type}
    (one : Console σ)
    (other : Console τ)
    (image : σ → τ)
    (program : Program)
    (machine : Machine)
    (channel : σ) :
    Prop where
  read : program.opcodeAt? machine.pc = some .input →
    other.read (image channel) = ((one.read channel).1, image (one.read channel).2)
  write : program.opcodeAt? machine.pc = some .output →
    other.write machine.cell (image channel) =
      ((one.write machine.cell channel).1, image (one.write machine.cell channel).2)

variable
  {σ τ : Type}
  {one : Console σ}
  {other : Console τ}
  {image : σ → τ}
  {program : Program}
  {table : JumpTable}
  {machine last : Machine}
  {channel lastChannel : σ}
  {count : Nat}

/-- A step does the same on two consoles if both answer it alike. -/
theorem AnswersAlike.step_eq
    (alike : AnswersAlike one other image program machine channel)
    (table : JumpTable) :
    machine.step other program table (image channel) =
      (machine.step one program table channel).onChannel image := by
  obtain ⟨reads, writes⟩ := alike
  have jumped :
      jump table machine (image channel) = (jump table machine channel).onChannel image := by
    unfold jump
    cases table.get machine.pc <;> rfl
  unfold Program.opcodeAt? at reads writes
  unfold step
  cases found : program.wordAt? machine.pc with
  | none =>
      rfl
  | some word =>
      rw [found, Option.bind_some] at reads writes
      dsimp only
      cases command : Opcode.ofWord? word with
      | none =>
          rfl
      | some opcode =>
          rw [command] at reads writes
          cases opcode with
          | increment | decrement =>
              rfl
          | moveRight | moveLeft =>
              simp only [execute]
              split <;> rfl
          | output =>
              simp only [execute, writes rfl]
              cases one.write machine.cell channel with
              | mk result next =>
                  cases result <;> rfl
          | input =>
              simp only [execute, reads rfl]
              cases one.read channel with
              | mk reading next =>
                  cases reading <;> rfl
          | loopOpen =>
              simp only [execute]
              split
              · exact jumped
              · rfl
          | loopClose =>
              simp only [execute]
              split
              · rfl
              · exact jumped

/-- A path is one on another console that answers alike all along the path. -/
theorem Path.onChannel
    (path : Path one program table count machine channel last lastChannel)
    (alike : ∀ length middle middleChannel, length < count →
      Path one program table length machine channel middle middleChannel →
        AnswersAlike one other image program middle middleChannel) :
    Path other program table count machine (image channel) last (image lastChannel) := by
  induction path with
  | refl machine channel =>
      exact .refl _ _
  | @step count machine next last channel nextChannel lastChannel going first later
      inductionHypothesis =>
      have stepped := (alike 0 machine channel (Nat.succ_pos count) (.refl _ _)).step_eq table
      rw [first] at stepped
      refine .step going stepped (inductionHypothesis ?_)
      intro length middle middleChannel shorter reached
      exact alike (length + 1) middle middleChannel (Nat.succ_lt_succ shorter)
        (.step going first reached)

section

variable
  (alike : ∀ length middle middleChannel,
    Path one program table length machine channel middle middleChannel →
      AnswersAlike one other image program middle middleChannel)

include alike

/-- An end is one on another console that answers alike. -/
theorem Ends.onChannel
    {ending : Ending}
    (ends : Ends one program table count machine channel ending last lastChannel) :
    Ends other program table count machine (image channel) ending last
      (image lastChannel) := by
  cases ends with
  | finished path past =>
      exact .finished (path.onChannel fun length middle middleChannel _ => alike _ _ _) past
  | failed path going fails =>
      have stepped := (alike _ _ _ path).step_eq table
      rw [fails] at stepped
      exact .failed (path.onChannel fun length middle middleChannel _ => alike _ _ _) going
        stepped

/-- On a console that answers alike, there are no other paths. -/
theorem exists_path_of_alike
    {otherChannel : τ}
    (path : Path other program table count machine (image channel) last otherChannel) :
    ∃ lastChannel, otherChannel = image lastChannel ∧
      Path one program table count machine channel last lastChannel := by
  generalize same : image channel = imageChannel at path
  induction path generalizing channel with
  | refl machine _ =>
      exact ⟨channel, same.symm, .refl _ _⟩
  | step going first later inductionHypothesis =>
      subst same
      have stepped := (alike 0 _ _ (.refl _ _)).step_eq table
      rw [first] at stepped
      cases taken : Machine.step one program table _ channel with
      | mk failure next nextChannel =>
          rw [taken] at stepped
          cases stepped
          obtain ⟨lastChannel, reached, continued⟩ :=
            inductionHypothesis (fun length middle middleChannel path =>
              alike (length + 1) middle middleChannel (.step going taken path)) rfl
          exact ⟨lastChannel, reached, .step going taken continued⟩

/-- On a console that answers alike, there is no other end. -/
theorem exists_ends_of_alike
    {ending : Ending}
    {otherChannel : τ}
    (ends : Ends other program table count machine (image channel) ending last otherChannel) :
    ∃ lastChannel, otherChannel = image lastChannel ∧
      Ends one program table count machine channel ending last lastChannel := by
  cases ends with
  | finished path past =>
      obtain ⟨lastChannel, rfl, reached⟩ := exists_path_of_alike alike path
      exact ⟨lastChannel, rfl, .finished reached past⟩
  | failed path going fails =>
      obtain ⟨stoppedChannel, rfl, reached⟩ := exists_path_of_alike alike path
      have stepped := (alike _ _ _ reached).step_eq table
      rw [fails] at stepped
      cases taken : Machine.step one program table _ stoppedChannel with
      | mk failure next nextChannel =>
          rw [taken] at stepped
          cases stepped
          exact ⟨nextChannel, rfl, .failed reached going taken⟩

end

end Machine

/-- The state of a traced console with exchanges that were made before. -/
def traceBehind
    {σ : Type}
    (said : List Exchange)
    (channel : σ × List Exchange) :
    σ × List Exchange :=
  (channel.1, said ++ channel.2)

@[simp]
theorem traceBehind_nil
    {σ : Type}
    (said : List Exchange)
    (channel : σ) :
    traceBehind said (channel, []) = (channel, said) := by
  rw [traceBehind, List.append_nil]

/-- What was said before a step has no influence on it. -/
theorem Machine.step_traceBehind
    {σ : Type}
    (console : Console σ)
    (program : Program)
    (table : JumpTable)
    (machine : Machine)
    (said : List Exchange)
    (channel : σ × List Exchange) :
    machine.step console.traced program table (traceBehind said channel) =
      (machine.step console.traced program table channel).onChannel (traceBehind said) := by
  have alike :
      AnswersAlike console.traced console.traced (traceBehind said) program machine channel := by
    constructor <;>
      intro _ <;>
      simp only [traceBehind, Console.traced, List.append_assoc]
  exact alike.step_eq table

end Brainfuck
