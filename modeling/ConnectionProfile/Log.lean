import ConnectionProfile.Text

/-!
# Log records

A computation answers with the records it made and with its result. The records made before a
failure stay.
-/

namespace ConnectionProfile

inductive Level where
  | debug
  | info
  | warning
  | error
  | critical
  deriving DecidableEq, Repr

namespace Level

def name : Level → Text
  | .debug => "DEBUG"
  | .info => "INFO"
  | .warning => "WARNING"
  | .error => "ERROR"
  | .critical => "CRITICAL"

def rank : Level → Nat
  | .debug => 10
  | .info => 20
  | .warning => 30
  | .error => 40
  | .critical => 50

end Level

/-- The part of the program that makes a record. -/
inductive Source where
  | pin
  | credentials
  | profile
  | tool
  deriving DecidableEq, Repr

structure Record where
  level : Level
  source : Source
  text : Text
  deriving DecidableEq

structure Logged (ε α : Type) where
  records : List Record
  result : Except ε α

namespace Logged

variable {ε δ α β : Type}

protected def pure (a : α) : Logged ε α := ⟨[], .ok a⟩

protected def bind (x : Logged ε α) (f : α → Logged ε β) : Logged ε β :=
  match x.result with
  | .ok a => ⟨x.records ++ (f a).records, (f a).result⟩
  | .error e => ⟨x.records, .error e⟩

instance : Monad (Logged ε) where
  pure := Logged.pure
  bind := Logged.bind

def log (level : Level) (source : Source) (text : Text) : Logged ε Unit :=
  ⟨[⟨level, source, text⟩], .ok ()⟩

def fail (e : ε) : Logged ε α := ⟨[], .error e⟩

def ofExcept (x : Except ε α) : Logged ε α := ⟨[], x⟩

def mapError (f : ε → δ) (x : Logged ε α) : Logged δ α := ⟨x.records, x.result.mapError f⟩

@[simp] theorem pure_records (a : α) : (pure a : Logged ε α).records = [] := rfl

@[simp] theorem pure_result (a : α) : (pure a : Logged ε α).result = .ok a := rfl

theorem bind_ok {x : Logged ε α} {f : α → Logged ε β} {b : β} (h : (x >>= f).result = .ok b) :
    ∃ a, x.result = .ok a ∧ (f a).result = .ok b ∧
      (x >>= f).records = x.records ++ (f a).records := by
  change (Logged.bind x f).result = .ok b at h
  change ∃ a, x.result = .ok a ∧ (f a).result = .ok b ∧ (Logged.bind x f).records = _
  unfold Logged.bind at h ⊢
  split at h
  · exact ⟨_, ‹_›, h, by simp [*]⟩
  · cases h

end Logged

end ConnectionProfile
