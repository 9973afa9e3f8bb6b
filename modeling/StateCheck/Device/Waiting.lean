import StateCheck.Number.Binary64

/-!
Waiting for an answer: until it is there, until the wait is cancelled, or until its time is up.
Time is counted in the units of `Binary64`, so that every time limit is a whole number. The wait
looks up at the answer, at the end of its time, and otherwise once in a polling interval.
-/

namespace StateCheck.Device.Waiting

inductive Ending
  | answered
  | cancelled
  | timedOut
deriving DecidableEq

/-- When things happen, counted from the start of the wait; `none` stands for never. -/
structure Times where
  answer : Option Nat
  cancel : Option Nat
  limit : Option Nat

def shifted (m e : Nat) : Nat := m * twoTo e

theorem shifted_pos {m : Nat} (e : Nat) (h : 0 < m) : 0 < shifted m e :=
  Nat.mul_pos h (twoTo_pos e)

/-- A twentieth of a second, the longest time between two looks at the cancellation. -/
def pollInterval : Nat := shifted 3602879701896397 1018

theorem pollInterval_pos : 0 < pollInterval := shifted_pos 1018 (by decide)

/-- Whether a time has come. -/
def reached (now : Nat) : Option Nat → Bool
  | some t => t ≤ now
  | none => false

def earlier (t : Nat) : Option Nat → Nat
  | some u => min t u
  | none => t

/-- The next look after `now`: at the end of the slice, or at the answer if that comes first. -/
def nextLook (times : Times) (now : Nat) : Nat :=
  earlier (earlier (now + pollInterval) times.limit) times.answer

/-- What a look at time `now` decides: the answer comes before the cancellation, and that before
the end of the time. -/
def decide? (times : Times) (now : Nat) : Option Ending :=
  if reached now times.answer then some .answered
  else if reached now times.cancel then some .cancelled
  else if reached now times.limit then some .timedOut
  else none

/-- The first time at which anything happens. -/
def horizon? (times : Times) : Option Nat :=
  [times.answer, times.cancel, times.limit].foldl (fun least t =>
    match least, t with
    | some a, some b => some (min a b)
    | some a, none | none, some a => some a
    | none, none => none) none

theorem lt_earlier {now t : Nat} (h : now < t) {u : Option Nat} (hu : reached now u = false) :
    now < earlier t u := by
  cases u with
  | none => exact h
  | some u =>
    have hu : now < u := by simpa [reached] using hu
    exact Nat.lt_min.2 ⟨h, hu⟩

theorem lt_nextLook {times : Times} {now : Nat} (h : decide? times now = none) :
    now < nextLook times now := by
  unfold decide? at h
  split at h
  · simp at h
  · next ha =>
    split at h
    · simp at h
    · split at h
      · simp at h
      · next hl =>
        refine lt_earlier (lt_earlier ?_ (by simpa using hl)) (by simpa using ha)
        have := pollInterval_pos
        omega

/-- The looks from `now` on, as long as something is still to come before `horizon`. -/
def lookUntil (times : Times) (horizon now : Nat) : Option (Ending × Nat) :=
  match _h : decide? times now with
  | some e => some (e, now)
  | none =>
    if now < horizon then lookUntil times horizon (nextLook times now) else none
termination_by horizon - now
decreasing_by
  have := lt_nextLook _h
  omega

/-- How the wait ends and when; a wait for nothing at all never ends. -/
def await (times : Times) : Option (Ending × Nat) :=
  (horizon? times).bind fun horizon => lookUntil times horizon 0

/-- The time limit in units; an infinite one is none. -/
def limitOf : Option Binary64 → Option Nat
  | some (.finite negative units) => some (if negative then 0 else units)
  | some (.infinite true) => some 0
  | _ => none

end StateCheck.Device.Waiting
