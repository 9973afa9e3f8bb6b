import Mathlib.Data.Prod.Lex
import Mathlib.Data.String.Basic

/-!
Pairs that are sorted by their first part, and by their second part if the first is the same.
-/

namespace StateCheck

variable {α β : Type} [LinearOrder α] [LinearOrder β] {le : α × β → α × β → Bool}
  {as bs : List (α × β)}

theorem pairwise_sorted (hle : ∀ a b, le a b = true ↔ toLex a ≤ toLex b) (as : List (α × β)) :
    (as.mergeSort le).Pairwise fun a b => toLex a ≤ toLex b := by
  have htrans : ∀ a b c, le a b = true → le b c = true → le a c = true := by
    simp only [hle]
    exact fun _ _ _ => le_trans
  have htotal : ∀ a b, (le a b || le b a) = true := by
    simp only [Bool.or_eq_true, hle]
    exact fun a b => le_total (toLex a) (toLex b)
  exact (List.pairwise_mergeSort htrans htotal as).imp fun h => (hle _ _).1 h

/-- Pairs that are the same but for their order are sorted in the same way. -/
theorem sorted_eq_of_perm (hle : ∀ a b, le a b = true ↔ toLex a ≤ toLex b) (h : as.Perm bs) :
    as.mergeSort le = bs.mergeSort le := by
  refine List.Perm.eq_of_pairwise (fun a b _ _ hab hba => ?_) (pairwise_sorted hle as)
    (pairwise_sorted hle bs) ?_
  · exact toLex.injective (le_antisymm hab hba)
  · exact (List.mergeSort_perm as le).trans (h.trans (List.mergeSort_perm bs le).symm)

end StateCheck
