import FlowCluster.Event

/-! # Exchanges with a directory

One request with a key, and what comes back. A transport is anything that answers requests; besides the answer it
tells what the directory saw, in a form of its own, and what it reported. An attempt is a computation that may
fail, with the trail of both that it leaves whether it fails or not. -/

namespace FlowCluster

/-- A request for a document, opened by a key. -/
structure Request where
  url : String
  apiKey : String
  deriving DecidableEq, Repr

/-- An answer before anything is made of it. No body is not the same as an empty one. -/
structure Response where
  url : String
  status : UInt16
  body : Option Bytes
  deriving DecidableEq, Repr

/-- A result, what directories saw on the way to it, and what was reported. -/
structure Attempt (ρ ε α : Type) where
  result : Except ε α
  seen : List ρ
  events : List Event

namespace Attempt

variable {ρ ε ε' α β : Type}

/-- A result that leaves no trail. -/
def ofExcept (r : Except ε α) : Attempt ρ ε α := ⟨r, [], []⟩

/-- Goes on with a value; a failure ends the attempt. -/
def andThen (x : Attempt ρ ε α) (f : α → Attempt ρ ε β) : Attempt ρ ε β :=
  match x.result with
  | .ok a =>
    let y := f a
    ⟨y.result, x.seen ++ y.seen, x.events ++ y.events⟩
  | .error e => ⟨.error e, x.seen, x.events⟩

instance : Monad (Attempt ρ ε) where
  pure a := ofExcept (.ok a)
  bind := andThen

def report (e : Event) : Attempt ρ ε Unit := ⟨.ok (), [], [e]⟩

/-- Reports an event of a failure, if there is one. -/
def reportFailure (x : Attempt ρ ε α) (event : ε → Event) : Attempt ρ ε α :=
  match x.result with
  | .ok _ => x
  | .error e => { x with events := x.events ++ [event e] }

/-- Takes a failure into another kind. -/
def mapFailure (f : ε → ε') (x : Attempt ρ ε α) : Attempt ρ ε' α := ⟨x.result.mapError f, x.seen, x.events⟩

end Attempt

/-- Answers requests. `ρ` is what a directory sees of one. -/
structure Transport (ρ : Type) where
  fetch : Request → Attempt ρ CallFailure Response

end FlowCluster
