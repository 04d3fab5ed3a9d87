/-
# Meteo.Log -- computations that report what they do and may fail

Selecting, adapting and writing report their steps to a log.  The reports belong
to the result whether it is a value or an error: `Logged α` holds the entries in
the order in which they were made, and then the outcome.  A failure ends a
computation and keeps the entries made until then.
-/
import Meteo.Error

namespace Meteo

set_option autoImplicit false

/-- One report: how grave it is, who makes it, and what it says. -/
structure Log.Entry where
  level : Int
  source : String
  text : String
  deriving Repr, DecidableEq, Inhabited

namespace Log.Level

/-- Steps that only interest when something is sought. -/
def debug : Int := 10

/-- Results. -/
def info : Int := 20

/-- Doubtful input. -/
def warning : Int := 30

/-- Failures. -/
def error : Int := 40

/-- Failures beyond repair. -/
def critical : Int := 50

end Log.Level

/-- The entries made, and the outcome. -/
structure Logged (α : Type) where
  entries : List Log.Entry
  result : Except Error α

namespace Logged

variable {α β : Type}

instance : Inhabited (Logged α) := ⟨[], .error default⟩

def bind (x : Logged α) (f : α → Logged β) : Logged β :=
  match x.result with
  | .error e => ⟨x.entries, .error e⟩
  | .ok a => ⟨x.entries ++ (f a).entries, (f a).result⟩

instance : Monad Logged where
  pure a := ⟨[], .ok a⟩
  bind := bind

def fail (e : Error) : Logged α := ⟨[], .error e⟩

def lift (r : Except Error α) : Logged α := ⟨[], r⟩

def report (level : Int) (source text : String) : Logged Unit := ⟨[⟨level, source, text⟩], .ok ()⟩

def mapError (f : Error → Error) (x : Logged α) : Logged α :=
  match x.result with
  | .ok _ => x
  | .error e => ⟨x.entries, .error (f e)⟩

/-- The outcome becomes the value: nothing can fail any more. -/
def attempt (x : Logged α) : Logged (Except Error α) := ⟨x.entries, .ok x.result⟩

end Logged

instance : MonadExceptOf Error Logged where
  throw := Logged.fail
  tryCatch x f :=
    match x.result with
    | .ok _ => x
    | .error e => ⟨x.entries ++ (f e).entries, (f e).result⟩

end Meteo
