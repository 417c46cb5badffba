import Brainfuck.Proofs.CommandLine.Parsing

namespace Brainfuck.CommandLine

/-!
# Modes

Turning a program into C and compiling it exclude each other: no command line that
is parsed asks for both.
-/

/-- Whether arguments ask for one way of turning a program into C at most. -/
def Arguments.HasOneMode (arguments : Arguments) : Prop :=
  arguments.intermediate = true → arguments.compile = false

/-- A flag for a mode is refused behind the other one, so no mode joins the other one. -/
theorem Draft.lasts_hasOneMode : Draft.Lasts Arguments.HasOneMode where
  operand _ single := single
  flag := by
    intro draft next switch single taken
    cases switch with
    | help =>
        cases taken
    | intermediate =>
        simp only [takeFlag] at taken
        split at taken <;> cases taken
        next alone =>
          exact fun _ => Bool.eq_false_iff.mpr alone
    | compile =>
        simp only [takeFlag] at taken
        split at taken <;> cases taken
        next alone =>
          exact fun asked => absurd asked alone
    | parse | tapeSize | output | compiler | noJit | stats | verbose =>
        cases taken
        exact single
  value := by
    intro draft next switch text single taken
    unfold takeValue at taken
    dsimp only at taken
    split at taken
    case h_5 =>
      split at taken <;> cases taken
      exact single
    all_goals
      cases taken
      exact single

theorem hasOneMode_of_parseArguments
    {words : List String}
    {arguments : Arguments}
    (parsed : parseArguments words = .ok arguments) :
    arguments.HasOneMode := by
  have none : Draft.initial.arguments.HasOneMode := nofun
  obtain ⟨_, last, _, takes, rfl⟩ := takes_of_parseArguments parsed
  exact takes.lasts Draft.lasts_hasOneMode none

end Brainfuck.CommandLine
