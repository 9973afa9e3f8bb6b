/-!
Reading UTF-8. A faulty sequence is cut off at the first byte that cannot continue it, so that
each fault covers the longest part that could still have become a character.
-/

namespace StateCheck.Text.Utf8

/-- What a lead byte announces: the number of continuation bytes, the bounds of the first of
them, and the bits that the lead byte contributes. -/
structure Lead where
  count : Nat
  low : Nat
  high : Nat
  bits : Nat

def lead? (b : Nat) : Option Lead :=
  if b < 0x80 then some ⟨0, 0x80, 0xBF, b⟩
  else if b < 0xC2 then none
  else if b < 0xE0 then some ⟨1, 0x80, 0xBF, b - 0xC0⟩
  else if b = 0xE0 then some ⟨2, 0xA0, 0xBF, 0⟩
  else if b = 0xED then some ⟨2, 0x80, 0x9F, 0xD⟩
  else if b < 0xF0 then some ⟨2, 0x80, 0xBF, b - 0xE0⟩
  else if b = 0xF0 then some ⟨3, 0x90, 0xBF, 0⟩
  else if b < 0xF4 then some ⟨3, 0x80, 0xBF, b - 0xF0⟩
  else if b = 0xF4 then some ⟨3, 0x80, 0x8F, 4⟩
  else none

/-- Takes `count` continuation bytes; the first must lie between `low` and `high`. -/
def continue? : (count low high bits : Nat) → List UInt8 → Option Nat × List UInt8
  | 0, _, _, bits, bs => (some bits, bs)
  | _ + 1, _, _, _, [] => (none, [])
  | count + 1, low, high, bits, b :: bs =>
    if low ≤ b.toNat ∧ b.toNat ≤ high then
      continue? count 0x80 0xBF (bits * 64 + b.toNat % 64) bs
    else (none, b :: bs)

theorem length_continue?_le (count low high bits : Nat) (bs : List UInt8) :
    (continue? count low high bits bs).2.length ≤ bs.length := by
  induction bs generalizing count low high bits with
  | nil => cases count <;> simp [continue?]
  | cons b bs ih =>
    cases count with
    | zero => simp [continue?]
    | succ count =>
      simp only [continue?]
      split
      · exact Nat.le_succ_of_le (ih ..)
      · simp

/-- The characters of a byte string, with `none` for each fault. -/
def decode : List UInt8 → List (Option Char)
  | [] => []
  | b :: bs =>
    match lead? b.toNat with
    | none => none :: decode bs
    | some l =>
      let next := continue? l.count l.low l.high l.bits bs
      next.1.map Char.ofNat :: decode next.2
termination_by bs => bs.length
decreasing_by
  · simp
  · simpa using Nat.lt_succ_of_le (length_continue?_le ..)

/-- The text of a byte string without faults. -/
def decode? (bs : List UInt8) : Option (List Char) := (decode bs).mapM id

/-- The text of a byte string, with the replacement character for each fault. -/
def decodeLossy (bs : List UInt8) : List Char := (decode bs).map (·.getD '\uFFFD')

end StateCheck.Text.Utf8
