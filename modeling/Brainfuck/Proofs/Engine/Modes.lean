import Brainfuck.Console.Output
import Brainfuck.Proofs.Engine.Conclusion
import Brainfuck.Proofs.Machine.Conversation

namespace Brainfuck.Engine

/-!
# Modes of execution

A run in batches and a run step by step cannot be told apart, except by their
notices: they come to the same conclusions, and a run that never ends exchanges
the same bytes in the same order in either mode.
-/

variable {σ : Type}

/-- Whether a run with enough fuel has a conversation that begins as given. -/
def Exchanges
    (engine : Engine)
    (console : Console σ)
    (state : State (σ × List Exchange))
    (trace : List Exchange) :
    Prop :=
  ∃ fuel, trace <+: (leftBy (engine.run console.traced fuel state)).channel.2

/-- Whether the runs of two engines come to the same conclusions by the same conversations. -/
structure Indistinguishable
    (one other : Engine)
    (console : Console σ)
    (state : State (σ × List Exchange)) :
    Prop where
  conclusions : ∀ answer left,
    one.Concludes console.traced state answer left ↔
      other.Concludes console.traced state answer left
  exchanges : ∀ trace,
    one.Exchanges console state trace ↔ other.Exchanges console state trace

variable
  {engine : Engine}
  {console : Console σ}

theorem channel_leftBy_run
    {tape : Array UInt8}
    (granted : engine.host.newTape? engine.tapeSize = some tape)
    (console : Console σ)
    (fuel : Nat)
    (state : State σ) :
    (leftBy (engine.run console fuel state)).channel =
      (engine.execute console fuel (.start tape) state.channel).channel :=
  congrArg State.channel (leftBy_run_of_granted granted console fuel state)

theorem exchanges_of_refused
    (refused : engine.host.newTape? engine.tapeSize = none)
    (state : State (σ × List Exchange))
    (trace : List Exchange) :
    engine.Exchanges console state trace ↔ trace <+: state.channel.2 := by
  unfold Exchanges run
  rw [refused]
  constructor
  · rintro ⟨_, begins⟩
    exact begins
  · intro begins
    exact ⟨0, begins⟩

/-- Engines that differ only in whether they work in batches have the same conversations. -/
theorem exchanges_batched_iff
    (positive : 0 < engine.batchSteps)
    (serves : engine.table.Serves engine.program)
    (state : State (σ × List Exchange))
    (trace : List Exchange) :
    { engine with batched := true }.Exchanges console state trace ↔
      { engine with batched := false }.Exchanges console state trace := by
  let batchedEngine : Engine := { engine with batched := true }
  let steppedEngine : Engine := { engine with batched := false }
  change batchedEngine.Exchanges console state trace ↔
    steppedEngine.Exchanges console state trace
  cases tape? : engine.host.newTape? engine.tapeSize with
  | none =>
      have batchedRefused : batchedEngine.host.newTape? batchedEngine.tapeSize = none := tape?
      have steppedRefused : steppedEngine.host.newTape? steppedEngine.tapeSize = none := tape?
      rw [exchanges_of_refused batchedRefused, exchanges_of_refused steppedRefused]
  | some tape =>
      have batchedGranted : batchedEngine.host.newTape? batchedEngine.tapeSize = some tape := tape?
      have steppedGranted : steppedEngine.host.newTape? steppedEngine.tapeSize = some tape := tape?
      have standing : 0 ≤ (Machine.start tape).pc := Int.le_refl 0
      unfold Exchanges
      simp only [channel_leftBy_run batchedGranted, channel_leftBy_run steppedGranted]
      change (∃ fuel, trace <+: (Machine.runBatches console.traced engine.program engine.table
          engine.batchSteps fuel (.start tape) state.channel #[]).channel.2) ↔
        ∃ fuel, trace <+: (Machine.runSteps console.traced engine.program engine.table
          fuel (.start tape) state.channel).channel.2
      constructor
      · rintro ⟨fuel, begins⟩
        obtain ⟨count, agrees, _⟩ :=
          Machine.exists_runSteps_agrees serves standing positive fuel #[]
        rw [agrees.channel] at begins
        exact ⟨count, begins⟩
      · rintro ⟨fuel, begins⟩
        obtain ⟨count, agrees, ahead⟩ :=
          Machine.exists_runSteps_agrees serves standing positive fuel #[]
        refine ⟨fuel, ?_⟩
        rw [agrees.channel]
        by_cases unfinished : (Machine.runSteps console.traced engine.program engine.table
            count (.start tape) state.channel).ending = .unfinished
        · obtain ⟨more, rfl⟩ :=
            Nat.exists_eq_add_of_le (ahead (agrees.ending.trans unfinished))
          exact begins.trans (Machine.trace_runSteps_add console fuel more state.channel)
        · exact begins.trans
            (Machine.trace_runSteps_of_ended console unfinished fuel)

/--
An engine with a table that serves its program cannot be told apart from its
copy in the other mode, whatever it talks to; the table that results from
resolving the loops of the program is such a table.
-/
theorem indistinguishable_batched
    (engine : Engine)
    (positive : 0 < engine.batchSteps)
    (table :
      engine.table.Serves engine.program ∨ engine.program.resolveLoops = .ok engine.table)
    (console : Console σ)
    (state : State (σ × List Exchange)) :
    Indistinguishable { engine with batched := true } { engine with batched := false }
      console state := by
  have serves : engine.table.Serves engine.program := by
    rcases table with serves | resolved
    · exact serves
    · exact (Program.matches_of_resolveLoops resolved).2.serves
  exact ⟨fun answer left => concludes_batched_iff positive serves state left answer,
    exchanges_batched_iff positive serves state⟩

/-- A countdown from its input, in batches that end inside the loop. -/
theorem indistinguishable_countdown :
    0 < 2 ∧
      (Program.ofOpcodes [.input, .loopOpen, .output, .decrement, .loopClose]).resolveLoops =
        .ok ⟨#[0, 4, 2, 3, 1], #[false, true, false, false, true]⟩ ∧
      Indistinguishable
        ⟨.ofOpcodes [.input, .loopOpen, .output, .decrement, .loopClose],
          ⟨#[0, 4, 2, 3, 1], #[false, true, false, false, true]⟩, 1, true, 2, .large⟩
        ⟨.ofOpcodes [.input, .loopOpen, .output, .decrement, .loopClose],
          ⟨#[0, 4, 2, 3, 1], #[false, true, false, false, true]⟩, 1, false, 2, .large⟩
        Channel.console
        (.initial (⟨.memory [3], .empty⟩, [])) := by
  have resolved :
      (Program.ofOpcodes [.input, .loopOpen, .output, .decrement, .loopClose]).resolveLoops =
        .ok ⟨#[0, 4, 2, 3, 1], #[false, true, false, false, true]⟩ := by
    cbv
  have positive : 0 < 2 := by decide
  exact ⟨positive, resolved,
    indistinguishable_batched
      ⟨.ofOpcodes [.input, .loopOpen, .output, .decrement, .loopClose],
        ⟨#[0, 4, 2, 3, 1], #[false, true, false, false, true]⟩, 1, true, 2, .large⟩
      positive (.inr resolved) Channel.console (.initial (⟨.memory [3], .empty⟩, []))⟩

end Brainfuck.Engine
