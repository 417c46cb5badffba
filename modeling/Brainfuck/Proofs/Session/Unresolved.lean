import Brainfuck.Proofs.Options
import Brainfuck.Proofs.Session.Undisturbed

namespace Brainfuck

/-!
# Programs whose loops cannot be resolved

Whatever is to be done with a program, its loops are resolved first.  Where that
fails, nothing else has been done: an operation on the program leaves the session
and the generator as they were, and one that loads it leaves the session as the
loading did.
-/

variable
  {program : Program}
  {failure : Failure}

theorem Generator.generate_of_unresolved
    (unresolved : program.resolveLoops = .error failure)
    (generator : Generator) :
    Generator.generate program generator = .error failure generator := by
  unfold Generator.generate
  rw [unresolved]

namespace Session

variable
  {session left : Session}
  (unresolved : program.resolveLoops = .error failure)

include unresolved

theorem createEngine_of_unresolved
    {tapeSize batchSteps : Int}
    (cells : 1 ≤ tapeSize)
    (positive : 1 ≤ batchSteps)
    (batched : Bool)
    (session : Session) :
    createEngine program none tapeSize batched batchSteps session = .error failure session := by
  have fails :
      Engine.create session.host program none tapeSize batched batchSteps = .error failure := by
    rw [Engine.create_eq cells positive, unresolved]
    rfl
  unfold createEngine
  rw [get_bind, bind_of_error (lift_of_error fails session)]

theorem runProgram_of_unresolved
    (options : RunOptions)
    (fuel : Nat)
    (session : Session) :
    runProgram program options fuel session = .error failure session := by
  have fails : resolveLoops program session = .error failure session := by
    unfold resolveLoops
    rw [bind_of_error (lift_of_error unresolved session)]
  unfold runProgram
  rw [bind_of_error fails]

theorem generate_of_unresolved
    (generator : Generator)
    (session : Session) :
    generate generator program session = .ok (.error failure, generator) session := by
  unfold generate
  rw [unresolved, Generator.generate_of_unresolved unresolved]
  rfl

theorem writeTranslationUnit_of_unresolved
    (generator : Generator)
    (path : File.Path)
    (session : Session) :
    writeTranslationUnit generator program path session =
      .ok (.error failure, generator) session := by
  unfold writeTranslationUnit
  rw [bind_of_ok (generate_of_unresolved unresolved generator session)]
  rfl

theorem transpile_of_unresolved
    {options : TranspileOptions}
    (cells : 0 < options.tapeSize)
    (path : Option File.Path)
    (session : Session) :
    transpile program options path session = .error failure session := by
  have created := Generator.create_of_cells (Int.ofNat_le.mpr cells)
  unfold transpile
  rw [bind_of_ok (lift_of_ok created session),
    bind_of_ok (generate_of_unresolved unresolved _ session)]
  exact bind_of_error (lift_of_error rfl session)

theorem buildAndRunProgram_of_unresolved
    {options : TranspileOptions}
    (cells : 0 < options.tapeSize)
    (path : Option File.Path)
    (session : Session) :
    session.Refuses (Build.buildAndRunProgram program options path) failure := by
  refine Build.withScratch_of_error ?_ session
  intro directory session
  exact bind_of_error (transpile_of_unresolved unresolved cells _ session)

end Session

end Brainfuck
