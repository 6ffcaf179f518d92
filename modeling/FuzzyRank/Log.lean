/-!
Records of what happens, collected beside a result.
-/

namespace FuzzyRank

/-- How much a record matters. -/
inductive Level where
  | trace
  | debug
  | info
  | warn
  | error
deriving DecidableEq, Repr

def Level.name : Level → String
  | trace => "TRACE"
  | debug => "DEBUG"
  | info => "INFO"
  | warn => "WARN"
  | error => "ERROR"

/-- One record of a log. -/
structure LogRecord where
  level : Level
  message : String
deriving DecidableEq, Repr

/-- The record on one line, its level first. -/
def LogRecord.line (r : LogRecord) : String :=
  r.level.name ++ " " ++ r.message

/-- A result with the records that were made on the way, in order. -/
structure Logged (α : Type) where
  value : α
  log : List LogRecord

namespace Logged

instance : Monad Logged where
  pure a := ⟨a, []⟩
  bind x f := ⟨(f x.value).value, x.log ++ (f x.value).log⟩

/-- Makes a record. -/
def note (level : Level) (message : String) : Logged Unit :=
  ⟨(), [⟨level, message⟩]⟩

variable {α β : Type}

@[simp]
theorem value_pure (a : α) : (pure a : Logged α).value = a := rfl

@[simp]
theorem log_pure (a : α) : (pure a : Logged α).log = [] := rfl

@[simp]
theorem value_bind (x : Logged α) (f : α → Logged β) : (x >>= f).value = (f x.value).value := rfl

@[simp]
theorem log_bind (x : Logged α) (f : α → Logged β) :
    (x >>= f).log = x.log ++ (f x.value).log := rfl

@[simp]
theorem log_note (level : Level) (message : String) :
    (note level message).log = [⟨level, message⟩] := rfl

end Logged
end FuzzyRank
