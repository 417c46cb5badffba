import Brainfuck.Session

namespace Brainfuck.Session

/-!
# Actions

An action is taken apart where it is put together from others: what comes behind
the first one starts where that one ends, unless it fails.
-/

variable
  {α β : Type}
  {first attempt : Action α}
  {next : α → Action β}
  {value : α}
  {failure : Failure}
  {session left : Session}

/-- Behind an action that succeeds, the next one goes on. -/
theorem bind_of_ok (succeeds : first session = .ok value left) :
    (first >>= next) session = next value left := by
  change EStateM.bind first next session = _
  rw [EStateM.bind, succeeds]

/-- Behind an action that fails, nothing is done. -/
theorem bind_of_error (fails : first session = .error failure left) :
    (first >>= next) session = .error failure left := by
  change EStateM.bind first next session = _
  rw [EStateM.bind, fails]

theorem get_bind
    (next : Session → Action β)
    (session : Session) :
    (get >>= next) session = next session session :=
  rfl

theorem tryCatch_of_ok
    {handle : Failure → Action α}
    (succeeds : attempt session = .ok value left) :
    (tryCatch attempt handle) session = .ok value left := by
  change EStateM.tryCatch attempt handle session = _
  delta EStateM.tryCatch
  simp only [succeeds]

/-- A failure is handled where it leaves the session. -/
theorem tryCatch_of_error
    {handle : Failure → Action α}
    (fails : attempt session = .error failure left) :
    (tryCatch attempt handle) session = handle failure left := by
  change EStateM.tryCatch attempt handle session = _
  delta EStateM.tryCatch
  simp only [fails]
  rfl

theorem lift_of_ok
    {outcome : Outcome α}
    (succeeds : outcome = .ok value)
    (session : Session) :
    lift outcome session = .ok value session := by
  rw [succeeds]
  rfl

theorem lift_of_error
    {outcome : Outcome α}
    (fails : outcome = .error failure)
    (session : Session) :
    lift outcome session = .error failure session := by
  rw [fails]
  rfl

end Brainfuck.Session
