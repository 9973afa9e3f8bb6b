import StateCheck.Failure

/-!
Computations that give notices on their way. The notices stay if the computation fails.
-/

namespace StateCheck

structure Noted (α : Type) where
  notices : List String
  outcome : Except Fault α

namespace Noted

variable {α β : Type}

def ofExcept (outcome : Except Fault α) : Noted α := ⟨[], outcome⟩

def fail (f : Failure) : Noted α := ofExcept (.error (.failure f none))

def breakOff (b : Breakdown) : Noted α := ofExcept (.error (.breakdown b))

def orBreakOff (x : Except Breakdown α) : Noted α := ofExcept (x.mapError .breakdown)

def note (notice : String) : Noted Unit := ⟨[notice], .ok ()⟩

def bind (x : Noted α) (f : α → Noted β) : Noted β :=
  match x.outcome with
  | .ok a => ⟨x.notices ++ (f a).notices, (f a).outcome⟩
  | .error e => ⟨x.notices, .error e⟩

instance : Monad Noted where
  pure a := ofExcept (.ok a)
  bind := bind

/-- The computations of `f` on the members of a list, in their order and with their positions. -/
def eachFrom (f : Nat → α → Noted β) : (i : Nat) → List α → Noted (List β)
  | _, [] => pure []
  | i, a :: as => do
    let b ← f i a
    let bs ← eachFrom f (i + 1) as
    pure (b :: bs)

def each (f : Nat → α → Noted β) (as : List α) : Noted (List β) := eachFrom f 0 as

end Noted

end StateCheck
