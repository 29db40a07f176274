/-!
# Attempts

An `Attempt` is work that can go wrong in two ways. An error is given back, and whoever asked for the
work can go on with something else; a crash ends all work that is under way, and nothing is given
back.

* Attempts form a monad: the first error or crash is what a chain of steps comes to.
* Errors can be caught, and alternatives are tried after them; neither is done for crashes.
-/

namespace ScopedQuery

inductive Attempt (ε α : Type)
  | ok (value : α)
  | error (fault : ε)
  | crashed
deriving DecidableEq, Repr

namespace Attempt

variable {ε ε' α β : Type}

def bind (attempt : Attempt ε α) (f : α → Attempt ε β) : Attempt ε β :=
  match attempt with
  | ok value => f value
  | error fault => error fault
  | crashed => crashed

instance : Monad (Attempt ε) where
  pure := ok
  bind := bind

def map (f : α → β) : Attempt ε α → Attempt ε β
  | ok value => ok (f value)
  | error fault => error fault
  | crashed => crashed

def mapError (f : ε → ε') : Attempt ε α → Attempt ε' α
  | ok value => ok value
  | error fault => error (f fault)
  | crashed => crashed

/-- The value, if there is one. -/
def toOption : Attempt ε α → Option α
  | ok value => some value
  | _ => none

/-- The fault, if there is one. -/
def fault? : Attempt ε α → Option ε
  | error fault => some fault
  | _ => none

instance : MonadExceptOf ε (Attempt ε) where
  throw := error
  tryCatch attempt handle :=
    match attempt with
    | error fault => handle fault
    | _ => attempt

/-- Work that cannot crash. -/
def ofExcept : Except ε α → Attempt ε α
  | .ok value => ok value
  | .error fault => error fault

/-- Work after which no error is left: one becomes a crash. -/
def unwrap : Attempt ε α → Attempt ε α
  | ok value => ok value
  | _ => crashed

/-! ### Errors that say nothing -/

def orElse (attempt : Attempt Unit α) (other : Unit → Attempt Unit α) : Attempt Unit α :=
  match attempt with
  | error _ => other ()
  | _ => attempt

instance : Alternative (Attempt Unit) where
  failure := error ()
  orElse := orElse

end Attempt

end ScopedQuery
