import Brainfuck.Proofs.Engine.Containment
import Brainfuck.Proofs.Excerpt
import Brainfuck.Proofs.Loop.Acceptance
import Brainfuck.Proofs.Loop.WellNested
import Brainfuck.Proofs.Text

namespace Brainfuck

/-!
# Pinpointing culprits

A report on brackets or on the pointer shows the program with a caret below the
command at its address.  The address comes from the stack of open brackets, from
the registers behind a batch, or from those behind a step; in each case it is the
address of the command that the report is about.
-/

/--
Whether a message is four lines, of which the inner two point at a character of a
source.
-/
def Pinpoints
    (message : String)
    (source : String)
    (address : Int)
    (culprit : Char) :
    Prop :=
  ∃ opening above below advice,
    message = String.ofList (opening ++ '\n' :: above ++ '\n' :: below ++ '\n' :: advice) ∧
      '\n' ∉ opening ∧ '\n' ∉ advice ∧
      Excerpt.Points source.toList address excerptContext above below culprit

/-- Whether a report on brackets shows the one that has no partner. -/
inductive ShowsBracket
    (program : Program)
    (source : String)
    (fault : LoopFault) :
    Prop where
  | missingOpen
      (missing : fault.imbalance = .missingOpen)
      {address : Nat}
      (stray : program.IsStrayClose address)
      (reported : fault.address = address)
      (shows : Pinpoints fault.message source fault.address ']')
  | missingClose
      (missing : fault.imbalance = .missingClose)
      {address : Nat}
      (stays : program.StaysOpen address)
      (outermost : ∀ other, program.StaysOpen other → address ≤ other)
      (reported : fault.address = address)
      (shows : Pinpoints fault.message source fault.address '[')

/-- Whether a report on the pointer shows the move that would take it off the tape. -/
inductive ShowsMove
    (cells : Nat)
    (source : String)
    (fault : BoundsFault) :
    Prop where
  | right
      (attempted : fault.pointer = cells)
      (shows : Pinpoints fault.message source fault.address '>')
  | left
      (attempted : fault.pointer = -1)
      (shows : Pinpoints fault.message source fault.address '<')

/-- What excerpts and reports point at. -/
structure PointsAtCulprits : Prop where
  /-- An excerpt of a source in one line points at the character at its address. -/
  excerpts : ∀ (source : String) (address context : Int),
    '\n' ∉ source.toList → 0 ≤ address → address < source.length → 0 ≤ context →
      ∃ above below culprit,
        excerpt source address context = String.ofList (above ++ '\n' :: below) ∧
          Excerpt.Points source.toList address context above below culprit
  /-- When the loops of a loaded program cannot be resolved, the culprit is shown. -/
  brackets : ∀ (program : Program) (failure : Failure),
    program.IsLoaded → program.resolveLoops = .error failure →
      ∃ source fault, program.toSource = .ok source ∧
        failure = .unbalancedLoops fault ∧
        ShowsBracket program source fault
  /-- A run that takes the pointer off the tape, in either mode, shows the move it came to. -/
  runs : ∀ {σ : Type} (engine : Engine) (console : Console σ) (channel : σ)
      (calls : List Engine.Call) (fuel : Nat) (fault : BoundsFault) (left : Engine.State σ),
    engine.program.IsLoaded → engine.program.resolveLoops = .ok engine.table →
      0 < engine.tapeSize → 0 < engine.batchSteps →
      engine.run console fuel (engine.afterCalls console calls (.initial channel)) =
        .error (.tapeBounds fault) left →
      ∃ source machine other, engine.program.toSource = .ok source ∧
        engine.RunPasses console (engine.afterCalls console calls (.initial channel)) machine
          other ∧
        left.quiet = .behind machine other ∧
        Engine.LeavesTape engine.program engine.tapeSize source machine fault ∧
        ShowsMove engine.tapeSize source fault
  /-- A step that takes the pointer off the tape shows the move that it tried. -/
  steps : ∀ {σ : Type} (engine : Engine) (console : Console σ) (channel : σ)
      (calls : List Engine.Call) (fault : BoundsFault) (left : Engine.State σ),
    engine.program.IsLoaded → engine.program.resolveLoops = .ok engine.table →
      0 < engine.tapeSize →
      engine.step console (engine.afterCalls console calls (.initial channel)) =
        .error (.tapeBounds fault) left →
      ∃ source machine, engine.program.toSource = .ok source ∧
        engine.machineAt? (engine.afterCalls console calls (.initial channel)) = some machine ∧
        left.machine? = some machine ∧
        Engine.LeavesTape engine.program engine.tapeSize source machine fault ∧
        ShowsMove engine.tapeSize source fault

/-! ## Lines of a message -/

/-- A report on a source in one line points at the character at its address. -/
theorem pinpoints_of_lines
    {opening advice source : String}
    {address : Int}
    {culprit : Char}
    (openingUnbroken : '\n' ∉ opening.toList)
    (adviceUnbroken : '\n' ∉ advice.toList)
    (unbroken : '\n' ∉ source.toList)
    (nonnegative : 0 ≤ address)
    (found : source.toList[address.toNat]? = some culprit) :
    Pinpoints (opening ++ excerptLines source address ++ hintLine advice) source address
      culprit := by
  have inside : address < source.length := by
    have within := (List.getElem?_eq_some_iff.mp found).1
    rw [String.length_toList] at within
    omega
  have filled : source ≠ "" := by
    rintro rfl
    cases found
  have positive : 0 ≤ excerptContext := by decide
  obtain ⟨above, below, shown, lines, points⟩ :=
    Excerpt.exists_points unbroken nonnegative inside positive
  have same := points.culprit
  rw [found] at same
  cases same
  have hint : '\n' ∉ "Hint: ".toList ++ advice.toList := by
    have label : '\n' ∉ "Hint: ".toList := by decide
    rw [List.mem_append, not_or]
    exact ⟨label, adviceUnbroken⟩
  refine ⟨opening.toList, above, below, "Hint: ".toList ++ advice.toList, ?_, openingUnbroken, hint,
    points⟩
  have feed : "\n".toList = ['\n'] := by decide
  have label : "\nHint: ".toList = '\n' :: "Hint: ".toList := by decide
  apply String.toList_inj.mp
  simp only [excerptLines, filled, ↓reduceIte, lines, hintLine, String.toList_append,
    String.toList_ofList, feed, label, List.append_assoc, List.cons_append, List.nil_append]

theorem LoopFault.pinpoints
    {fault : LoopFault}
    {culprit : Char}
    (unbroken : '\n' ∉ fault.source.toList)
    (nonnegative : 0 ≤ fault.address)
    (found : fault.source.toList[fault.address.toNat]? = some culprit) :
    Pinpoints fault.message fault.source fault.address culprit := by
  have name : '\n' ∉ (toString fault.imbalance.name).toList := by
    cases fault.imbalance <;> decide
  have advice : '\n' ∉ fault.imbalance.hint.toList := by
    cases fault.imbalance <;> decide
  refine pinpoints_of_lines ?_ advice unbroken nonnegative found
  simp only [String.toList_append, List.mem_append, not_or, unbroken_integer, name,
    not_false_eq_true, and_true]
  decide

theorem BoundsFault.pinpoints
    {fault : BoundsFault}
    {culprit : Char}
    (unbroken : '\n' ∉ fault.source.toList)
    (nonnegative : 0 ≤ fault.address)
    (found : fault.source.toList[fault.address.toNat]? = some culprit) :
    Pinpoints fault.message fault.source fault.address culprit := by
  have advice : '\n' ∉ boundsHint.toList := by decide
  refine pinpoints_of_lines ?_ advice unbroken nonnegative found
  simp only [String.toList_append, List.mem_append, not_or, unbroken_integer,
    not_false_eq_true, and_true]
  decide

/-! ## Commands in source text -/

/-- The source text of a loaded program is one line that spells its commands. -/
theorem Program.IsLoaded.spells
    {program : Program}
    {source : String}
    (loaded : program.IsLoaded)
    (shown : program.toSource = .ok source) :
    '\n' ∉ source.toList ∧
      ∀ (address : Nat) opcode, program.opcodeAt? address = some opcode →
        source.toList[address]? = some opcode.symbol := by
  obtain ⟨opcodes, rfl⟩ := loaded.exists_opcodes
  rw [toSource_ofOpcodes] at shown
  cases shown
  rw [String.toList_ofList]
  constructor
  · intro feed
    obtain ⟨opcode, _, spelled⟩ := List.mem_map.mp feed
    cases opcode <;> cases spelled
  · intro address opcode found
    rw [opcodeAt?_ofOpcodes] at found
    rw [List.getElem?_map, found]
    rfl

/-! ## Reports -/

theorem Program.IsStrayClose.closes
    {program : Program}
    {address : Nat}
    (stray : program.IsStrayClose address) :
    program.opcodeAt? address = some .loopClose := by
  apply closes_of_depth_succ_lt
  have above := stray.earliest address (Nat.le_refl address)
  have below := stray.negative
  omega

/-- The bracket that keeps the loops of a loaded program from being resolved is shown. -/
theorem Program.exists_showsBracket
    {program : Program}
    {failure : Failure}
    (loaded : program.IsLoaded)
    (unresolved : program.resolveLoops = .error failure) :
    ∃ source fault, program.toSource = .ok source ∧
      failure = .unbalancedLoops fault ∧
      ShowsBracket program source fault := by
  obtain ⟨source, shown⟩ := loaded.exists_toSource
  obtain ⟨unbroken, spells⟩ := loaded.spells shown
  rcases program.resolveLoops_cases with
    ⟨final, tracks, closed, succeeds⟩ | ⟨address, stray, fails⟩ |
    ⟨final, address, tracks, outermost, fails⟩
  · rw [succeeds] at unresolved
    cases unresolved
  · rw [fails, loopFailure_eq shown] at unresolved
    cases unresolved
    exact ⟨source, _, shown, rfl, .missingOpen rfl stray rfl
      (LoopFault.pinpoints unbroken (Int.natCast_nonneg address)
        (spells address _ stray.closes))⟩
  · rw [fails, loopFailure_eq shown] at unresolved
    cases unresolved
    obtain ⟨stays, first⟩ := staysOpen_of_pending tracks outermost
    exact ⟨source, _, shown, rfl, .missingClose rfl stays first rfl
      (LoopFault.pinpoints unbroken (Int.natCast_nonneg address)
        (spells address _ stays.opens))⟩

namespace Engine

variable
  {σ : Type}
  {engine : Engine}
  {console : Console σ}
  {state left : State σ}
  {machine : Machine}
  {source : String}
  {fault : BoundsFault}

/-- A report on the pointer shows the command in front of which the machine is. -/
theorem LeavesTape.showsMove
    {program : Program}
    {cells : Nat}
    (loaded : program.IsLoaded)
    (shown : program.toSource = .ok source)
    (standing : 0 ≤ machine.pc)
    (leaves : LeavesTape program cells source machine fault) :
    ShowsMove cells source fault := by
  obtain ⟨unbroken, spells⟩ := loaded.spells shown
  have spelled (opcode : Opcode) (found : program.opcodeAt? machine.pc = some opcode) :
      source.toList[machine.pc.toNat]? = some opcode.symbol := by
    apply spells
    rw [Int.toNat_of_nonneg standing]
    exact found
  cases leaves with
  | right found edge =>
      exact .right rfl (BoundsFault.pinpoints unbroken standing (spelled _ found))
  | left found edge =>
      exact .left rfl (BoundsFault.pinpoints unbroken standing (spelled _ found))

section

variable
  (loaded : engine.program.IsLoaded)
  (resolved : engine.program.resolveLoops = .ok engine.table)
  (cells : 0 < engine.tapeSize)

include loaded resolved cells

theorem exists_showsMove_of_run
    {fuel : Nat}
    (positive : 0 < engine.batchSteps)
    (fails : engine.run console fuel state = .error (.tapeBounds fault) left) :
    ∃ source machine other, engine.program.toSource = .ok source ∧
      engine.RunPasses console state machine other ∧
      left.quiet = .behind machine other ∧
      LeavesTape engine.program engine.tapeSize source machine fault ∧
      ShowsMove engine.tapeSize source fault := by
  obtain ⟨source, shown⟩ := loaded.exists_toSource
  obtain ⟨_, matching⟩ := Program.matches_of_resolveLoops resolved
  have concludes : engine.Concludes console state (.error (.tapeBounds fault)) left.quiet :=
    ⟨fuel, by rw [fails]; rfl⟩
  cases granted : engine.host.newTape? engine.tapeSize with
  | none =>
      obtain ⟨other, _⟩ := (concludes_of_refused engine granted).mp concludes
      cases other
  | some tape =>
      obtain ⟨machine, other, behind, passes, leaves⟩ :=
        (concludes_tapeBounds_iff shown matching cells granted positive).mp concludes
      have fits := fits_runPasses cells matching positive passes
      exact ⟨source, machine, other, shown, passes, behind, leaves,
        leaves.showsMove loaded shown fits.standing⟩

theorem exists_showsMove_of_step
    (stateFits : state.Fits engine)
    (fails : engine.step console state = .error (.tapeBounds fault) left) :
    ∃ source machine, engine.program.toSource = .ok source ∧
      engine.machineAt? state = some machine ∧
      left.machine? = some machine ∧
      LeavesTape engine.program engine.tapeSize source machine fault ∧
      ShowsMove engine.tapeSize source fault := by
  obtain ⟨source, shown⟩ := loaded.exists_toSource
  obtain ⟨_, matching⟩ := Program.matches_of_resolveLoops resolved
  cases works : engine.machineAt? state with
  | none =>
      rw [step_of_refused console works] at fails
      cases fails
  | some machine =>
      have fits := fits_machineAt? cells stateFits works
      rw [step_eq_stepFrom console works] at fails
      obtain ⟨next, obstacle, rfl⟩ := (stepFrom_eq_error_iff matching fits).mp fails
      obtain ⟨_, leaves⟩ := (obstacle_tapeBounds_iff shown fits).mp obstacle
      exact ⟨source, machine, shown, rfl, rfl, leaves,
        leaves.showsMove loaded shown fits.standing⟩

end

end Engine

/-- Excerpts point at the character at their address, and reports at what they are about. -/
theorem pointsAtCulprits : PointsAtCulprits where
  excerpts _ _ _ unbroken nonnegative inside positive :=
    Excerpt.exists_points unbroken nonnegative inside positive
  brackets _ _ loaded unresolved := Program.exists_showsBracket loaded unresolved
  runs _ _ _ _ _ _ _ loaded resolved cells positive fails :=
    Engine.exists_showsMove_of_run loaded resolved cells positive fails
  steps engine console channel calls _ _ loaded resolved cells fails := by
    obtain ⟨_, matching⟩ := Program.matches_of_resolveLoops resolved
    have fits := Engine.fits_afterCalls cells matching (Engine.State.fits_initial engine channel)
      console calls
    exact Engine.exists_showsMove_of_step loaded resolved cells fits fails

/-- A tape of two cells, which a batch leaves at its right end. -/
theorem pointsAtCulprits_second_move :
    ∃ left,
      Engine.run
          ⟨.ofOpcodes [.moveRight, .moveRight, .output], ⟨#[0, 1, 2], #[false, false, false]⟩, 2,
            true, 5, .large⟩
          Channel.console 1 (.initial ⟨.memory [], .empty⟩) =
        .error (.tapeBounds ⟨1, 2, 2, ">>."⟩) left ∧
      Pinpoints (Failure.message (.tapeBounds ⟨1, 2, 2, ">>."⟩)) ">>." 1 '>' := by
  have loaded : (Program.ofOpcodes [.moveRight, .moveRight, .output]).IsLoaded :=
    .ofSource (.text ">>.") rfl
  have resolved :
      (Program.ofOpcodes [.moveRight, .moveRight, .output]).resolveLoops =
        .ok ⟨#[0, 1, 2], #[false, false, false]⟩ := by
    cbv
  have text : (Program.ofOpcodes [.moveRight, .moveRight, .output]).toSource = .ok ">>." :=
    Program.toSource_ofOpcodes _
  obtain ⟨left, fails⟩ :
      ∃ left,
        Engine.run
            ⟨.ofOpcodes [.moveRight, .moveRight, .output], ⟨#[0, 1, 2], #[false, false, false]⟩, 2,
              true, 5, .large⟩
            Channel.console 1 (.initial ⟨.memory [], .empty⟩) =
          .error (.tapeBounds ⟨1, 2, 2, ">>."⟩) left :=
    ⟨_, rfl⟩
  refine ⟨left, fails, ?_⟩
  obtain ⟨source, _, _, shown, _, _, _, shows⟩ :=
    pointsAtCulprits.runs _ _ _ [] _ _ _ loaded resolved (by decide) (by decide) fails
  rw [text] at shown
  cases shown
  cases shows with
  | right _ shows =>
      exact shows
  | left attempted _ =>
      cases attempted

end Brainfuck
