import Brainfuck.Build
import Brainfuck.Proofs.File.Scratch
import Brainfuck.Proofs.Program.Streaming

namespace Brainfuck

/-!
# Undisturbed sessions

Loading a program reads files and reports what was loaded, and nothing more: no
input is read, no output is written, no file changes, and no program is looked up
or run.  A temporary directory disturbs nothing either, if what is done with it
does not.
-/

/-- Whether an entry of the journal is a message or reports that a program was loaded. -/
def Entry.isPreparatory : Entry → Bool
  | .message _ => true
  | .notice (.sourceLoaded _ _) => true
  | .notice (.streamLoaded _ _) => true
  | .notice _ => false

namespace Session

/--
Whether nothing has happened between two states of a session but the loading of
programs and messages about it.  The journal would tell of a tape, of a file that
was written, and of a command.
-/
structure Undisturbed (before after : Session) : Prop where
  host : after.host = before.host
  channel : after.channel = before.channel
  toolchain : after.toolchain = before.toolchain
  files : after.files.SameFiles before.files
  journal : ∃ entries, after.journal = before.journal ++ entries ∧
    ∀ entry ∈ entries, entry.isPreparatory = true

variable
  {α : Type}
  {session middle opened left : Session}
  {program : Program}
  {path : File.Path}
  {size : Int}

namespace Undisturbed

theorem refl (session : Session) : session.Undisturbed session where
  host := rfl
  channel := rfl
  toolchain := rfl
  files := .refl session.files
  journal := by
    refine ⟨#[], Array.append_empty.symm, ?_⟩
    intro entry member
    exact absurd member (Array.not_mem_empty entry)

theorem trans
    (first : session.Undisturbed middle)
    (second : middle.Undisturbed left) :
    session.Undisturbed left where
  host := second.host.trans first.host
  channel := second.channel.trans first.channel
  toolchain := second.toolchain.trans first.toolchain
  files := second.files.trans first.files
  journal := by
    obtain ⟨entries, same, preparatory⟩ := first.journal
    obtain ⟨later, alike, alsoPreparatory⟩ := second.journal
    refine ⟨entries ++ later, by rw [alike, same, Array.append_assoc], ?_⟩
    intro entry member
    rcases Array.mem_append.mp member with early | late
    · exact preparatory entry early
    · exact alsoPreparatory entry late

/-- Another preparatory entry disturbs nothing. -/
theorem push
    {entry : Entry}
    (session : Session)
    (preparatory : entry.isPreparatory = true) :
    session.Undisturbed { session with journal := session.journal.push entry } where
  host := rfl
  channel := rfl
  toolchain := rfl
  files := .refl session.files
  journal := by
    refine ⟨#[entry], Array.push_eq_append, ?_⟩
    intro other member
    rw [Array.mem_singleton.mp member]
    exact preparatory

end Undisturbed

/-- Whether an action fails and disturbs nothing. -/
def Refuses
    (session : Session)
    (action : Action α)
    (failure : Failure) :
    Prop :=
  ∃ left, action session = .error failure left ∧ session.Undisturbed left

theorem refuses_of_eq
    {action : Action α}
    {failure : Failure}
    (fails : action session = .error failure session) :
    session.Refuses action failure :=
  ⟨session, fails, .refl session⟩

/-- What is refused behind an action that disturbs nothing is refused as a whole. -/
theorem Undisturbed.refuses_bind
    {β : Type}
    {first : Action α}
    {next : α → Action β}
    {value : α}
    {failure : Failure}
    (undisturbed : session.Undisturbed middle)
    (succeeds : first session = .ok value middle)
    (refused : middle.Refuses (next value) failure) :
    session.Refuses (first >>= next) failure := by
  obtain ⟨left, fails, alsoUndisturbed⟩ := refused
  exact ⟨left, (bind_of_ok succeeds).trans fails, undisturbed.trans alsoUndisturbed⟩

theorem undisturbed_of_loadSource
    {source : Source}
    (loads : loadSource source session = .ok program left) :
    session.Undisturbed left := by
  unfold loadSource at loads
  rw [bind_of_ok (lift_of_ok (Program.load_eq source) session)] at loads
  cases loads
  exact .push session rfl

/-- Opening a file changes nothing. -/
theorem eq_of_openFile
    {stream : Stream}
    (opens : openFile path session = .ok stream opened) :
    opened = session := by
  unfold openFile at opens
  cases checked : checkPath path session with
  | error failure stopped =>
      rw [bind_of_error checked] at opens
      cases opens
  | ok _ passed =>
      have same : passed = session := by
        unfold checkPath at checked
        split at checked <;> cases checked
        rfl
      subst same
      rw [bind_of_ok checked, get_bind] at opens
      cases found : passed.files.stream path with
      | error problem =>
          simp only [found] at opens
          cases opens
      | ok available =>
          simp only [found] at opens
          cases opens
          rfl

theorem undisturbed_of_loadStream
    {stream : Stream}
    (loads : loadStream stream size session = .ok program left) :
    session.Undisturbed left := by
  cases loaded : Program.loadStream stream size with
  | error failure =>
      rw [loadStream_of_error loaded session] at loads
      cases loads
  | ok result =>
      rw [loadStream_of_ok loaded session] at loads
      cases loads
      exact .push session rfl

theorem undisturbed_of_loadFile
    (loads : loadFile path size session = .ok program left) :
    session.Undisturbed left := by
  cases opens : openFile path session with
  | error failure stopped =>
      unfold loadFile at loads
      rw [bind_of_error opens] at loads
      cases loads
  | ok stream opened =>
      have same := eq_of_openFile opens
      subst same
      cases checked : checkReadSize opened.host size with
      | error failure =>
          rw [loadFile_of_refusedSize opens checked] at loads
          cases loads
      | ok =>
          rw [loadFile_of_openFile opens checked] at loads
          cases loaded : loadStream stream size opened with
          | ok found next =>
              rw [tryCatch_of_ok loaded] at loads
              cases loads
              exact undisturbed_of_loadStream loaded
          | error failure next =>
              rw [tryCatch_of_error loaded] at loads
              cases loads

end Session

namespace Build

/-- The directory for temporary files disturbs nothing if what is done with it fails at once. -/
theorem withScratch_of_error
    {α : Type}
    {body : File.Path → Action α}
    {failure : Failure}
    (fails : ∀ directory session, body directory session = .error failure session)
    (session : Session) :
    session.Refuses (withScratch body) failure := by
  unfold withScratch Session.Refuses
  simp only [fails]
  refine ⟨_, rfl, ⟨rfl, rfl, rfl, ?_, (Session.Undisturbed.refl session).journal⟩⟩
  exact (File.Store.sameFiles_makeDirectories session.files _).restoreTree _

end Build

end Brainfuck
