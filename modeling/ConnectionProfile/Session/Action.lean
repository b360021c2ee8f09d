import ConnectionProfile.Session

/-!
# Actions on sessions

An action answers, makes records and can change the session. It may also fail, and what it changed
before it failed stays changed.
-/

namespace ConnectionProfile

def Action (ε α : Type) : Type := Session → Session × Logged ε α

namespace Action

variable {ε α β : Type}

protected def pure (a : α) : Action ε α := fun s => (s, pure a)

protected def bind (x : Action ε α) (f : α → Action ε β) : Action ε β := fun s =>
  let (t, out) := x s
  match out.result with
  | .ok a =>
    let (u, next) := f a t
    (u, ⟨out.records ++ next.records, next.result⟩)
  | .error e => (t, ⟨out.records, .error e⟩)

instance : Monad (Action ε) where
  pure := Action.pure
  bind := Action.bind

/-- The session as it is now. -/
def session : Action ε Session := fun s => (s, pure s)

def change (f : Session → Session) : Action ε Unit := fun s => (f s, pure ())

/-- A computation that does not see the session. -/
def lift (x : Logged ε α) : Action ε α := fun s => (s, x)

def ofExcept (x : Except ε α) : Action ε α := lift (.ofExcept x)

def fail (e : ε) : Action ε α := lift (.fail e)

end Action

end ConnectionProfile
