/-! # Computations that pause

* `Turn`: what a computation has come to, which is its end or a pause.
* `Pausing`: a computation with a state, which may fail and may pause.
* `Pausing.attempt`: goes on after a failure.
* `Pausing.pause`: a pause.

A pause says until when it lasts or what ends it, and holds all that is left to do. So several
computations with one state can take turns.
-/

namespace TokenConformance.Sandbox.Shell

/-- What a computation has come to. -/
inductive Turn (ε σ α : Type) where
  | done (result : Except ε α) (state : σ)
  /-- A pause up to a time, if there is one, or until something is the case. -/
  | paused (time : Option Nat) (isOver : σ → Bool) (state : σ) (rest : σ → Turn ε σ α)

namespace Turn

variable {ε σ α β : Type}

/-- Goes on after the end of a computation, however long it takes to get there. -/
def later (f : Except ε α → σ → Turn ε σ β) : Turn ε σ α → Turn ε σ β
  | .done result state => f result state
  | .paused time isOver state rest => .paused time isOver state fun s => later f (rest s)

/-- Goes on after the end of a computation. -/
@[inline] def andThen (turn : Turn ε σ α) (f : Except ε α → σ → Turn ε σ β) : Turn ε σ β :=
  match turn with
  | .done result state => f result state
  | .paused time isOver state rest => .paused time isOver state fun s => later f (rest s)

end Turn

/-- A computation with a state, which may fail and may pause. -/
def Pausing (ε σ α : Type) : Type := σ → Turn ε σ α

namespace Pausing

variable {ε σ α β : Type}

/-- A computation that does nothing. -/
@[inline] def value (a : α) : Pausing ε σ α := fun s => .done (.ok a) s

/-- A computation after another one. -/
@[inline] def bind (x : Pausing ε σ α) (f : α → Pausing ε σ β) : Pausing ε σ β := fun s =>
  (x s).andThen fun result s =>
    match result with
    | .ok a => f a s
    | .error e => .done (.error e) s

/-- Tells how a computation ends, and does not fail. -/
@[inline] def attempt (x : Pausing ε σ α) : Pausing ε σ (Except ε α) := fun s =>
  (x s).andThen fun result s => .done (.ok result) s

/-- Pauses up to a time, if there is one, or until something is the case. -/
def pause (time : Option Nat) (isOver : σ → Bool) : Pausing ε σ Unit := fun s =>
  .paused time isOver s fun s => .done (.ok ()) s

@[always_inline] instance : Monad (Pausing ε σ) where
  pure := value
  bind := bind

@[always_inline] instance : MonadStateOf σ (Pausing ε σ) where
  get := fun s => .done (.ok s) s
  set := fun s _ => .done (.ok ()) s
  modifyGet := fun f s => let (a, s) := f s; .done (.ok a) s

@[always_inline] instance : MonadExceptOf ε (Pausing ε σ) where
  throw := fun e s => .done (.error e) s
  tryCatch := fun x handle s => (x s).andThen fun result s =>
    match result with
    | .ok a => .done (.ok a) s
    | .error e => handle e s

end Pausing

end TokenConformance.Sandbox.Shell
