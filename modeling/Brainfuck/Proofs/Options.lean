import Brainfuck.CSource
import Brainfuck.Options

namespace Brainfuck

/-!
# Valid settings

A tape with a cell and a batch with a step are accepted wherever they are asked for.
Where they are, putting an engine together depends on the loops of its program only.
-/

variable {tapeSize batchSteps : Int}

theorem Engine.checkTapeSize_of_cells (cells : 1 ≤ tapeSize) :
    checkTapeSize tapeSize = .ok () :=
  if_neg (Int.not_lt.mpr cells)

theorem Engine.checkBatchSteps_of_positive (positive : 1 ≤ batchSteps) :
    checkBatchSteps batchSteps = .ok () :=
  if_neg (Int.not_lt.mpr positive)

/-- Behind its settings, an engine whose table is not given resolves the loops of its program. -/
theorem Engine.create_eq
    (cells : 1 ≤ tapeSize)
    (positive : 1 ≤ batchSteps)
    (host : Host)
    (program : Program)
    (batched : Bool) :
    create host program none tapeSize batched batchSteps =
      program.resolveLoops.map fun table =>
        ⟨program, table, tapeSize.toNat, batched, batchSteps.toNat, host⟩ := by
  unfold create
  rw [checkTapeSize_of_cells cells, checkBatchSteps_of_positive positive]
  cases program.resolveLoops <;> rfl

theorem RunOptions.create_of_positive
    (cells : 1 ≤ tapeSize)
    (positive : 1 ≤ batchSteps)
    (batched : Bool) :
    create tapeSize batched batchSteps = .ok ⟨tapeSize.toNat, batched, batchSteps.toNat⟩ := by
  unfold create
  rw [Engine.checkTapeSize_of_cells cells, Engine.checkBatchSteps_of_positive positive]
  rfl

theorem TranspileOptions.create_of_cells
    (cells : 1 ≤ tapeSize)
    (compiler : Option String)
    (flags : List String) :
    create tapeSize compiler flags = .ok ⟨tapeSize.toNat, compiler, flags⟩ := by
  unfold create
  rw [Engine.checkTapeSize_of_cells cells]
  rfl

theorem Generator.create_of_cells (cells : 1 ≤ tapeSize) :
    create tapeSize = .ok ⟨tapeSize.toNat, #[], 0⟩ :=
  if_neg (Int.not_lt.mpr cells)

end Brainfuck
