/-!
Tables: values under distinct names, in the order in which the names came first.
-/

namespace StateCheck

structure Table (α : Type) where
  entries : List (String × α)
  distinct : (entries.map Prod.fst).Nodup

namespace Table

variable {α β : Type}

def empty : Table α := ⟨[], List.nodup_nil⟩

def names (t : Table α) : List String := t.entries.map Prod.fst

def get? (t : Table α) (k : String) : Option α := t.entries.lookup k

def isEmpty (t : Table α) : Bool := t.entries.isEmpty

/-- The table with `k` bound to `v` behind the others, unless `k` is bound already. -/
def add? (t : Table α) (k : String) (v : α) : Option (Table α) :=
  if h : k ∈ t.entries.map Prod.fst then none
  else some ⟨t.entries ++ [(k, v)], by
    simpa [List.nodup_append, t.distinct] using fun a b hab hak => h (by
      subst hak
      exact List.mem_map_of_mem (f := Prod.fst) hab)⟩

/-- The entries with `k` bound to `v`; a known name keeps its place. -/
def putEntry (k : String) (v : α) : List (String × α) → List (String × α)
  | [] => [(k, v)]
  | (k', v') :: es => if k' = k then (k, v) :: es else (k', v') :: putEntry k v es

theorem map_fst_putEntry (k : String) (v : α) (es : List (String × α)) :
    (putEntry k v es).map Prod.fst =
      if k ∈ es.map Prod.fst then es.map Prod.fst else es.map Prod.fst ++ [k] := by
  induction es with
  | nil => simp [putEntry]
  | cons e es ih =>
    obtain ⟨k', v'⟩ := e
    by_cases h : k' = k
    · simp [putEntry, h]
    · have h' : ¬ k = k' := fun e => h e.symm
      simp only [putEntry, h, if_false, List.map_cons, ih, List.mem_cons, h', false_or]
      split <;> simp

def put (t : Table α) (k : String) (v : α) : Table α :=
  ⟨putEntry k v t.entries, by
    rw [map_fst_putEntry]
    split
    · exact t.distinct
    · next h =>
      simp only [List.nodup_append, t.distinct, List.nodup_cons, List.not_mem_nil, not_false_iff,
        List.nodup_nil, and_self, true_and, List.mem_singleton]
      intro a ha b hb hab
      subst hb hab
      exact h ha⟩

/-- The table of a list of entries: of a repeated name the last value counts. -/
def ofList (es : List (String × α)) : Table α := es.foldl (fun t e => t.put e.1 e.2) empty

end Table

end StateCheck
