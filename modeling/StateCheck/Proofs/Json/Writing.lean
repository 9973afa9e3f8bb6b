import StateCheck.Proofs.Json.Texts

/-!
Values that are written as JSON texts and read again: nothing is lost of values without floating
numbers, if their whole numbers are not too long for a text.
-/

namespace StateCheck.Json

variable {v : Value} {vs : List Value} {ms : List (String × Value)}

/-- Null, truth values, whole numbers that have a text, strings, and arrays and objects of these,
where the keys of an object differ. -/
inductive Value.Plain : Value → Prop
  | null : Plain .null
  | bool (b : Bool) : Plain (.bool b)
  | int {i : Int} (h : i.natAbs < tenTo Numeral.digitLimit) : Plain (.int i)
  | string (s : String) : Plain (.string s)
  | array {items : List Value} (h : ∀ v ∈ items, Plain v) : Plain (.array items)
  | object {members : List (String × Value)} (hkeys : (members.map Prod.fst).Nodup)
      (h : ∀ m ∈ members, Plain m.2) : Plain (.object members)

/-! ### Members with different keys -/

theorem put_of_not_mem {k : String} (h : k ∉ ms.map Prod.fst) (v : Value) :
    Value.put k v ms = ms ++ [(k, v)] := by
  induction ms with
  | nil => rfl
  | cons m ms ih =>
    obtain ⟨k', v'⟩ := m
    simp only [List.map_cons, List.mem_cons, not_or] at h
    rw [Value.put, if_neg (Ne.symm h.1), ih h.2]
    rfl

theorem foldl_put {before : List (String × Value)} (h : ((before ++ ms).map Prod.fst).Nodup) :
    ms.foldl (fun acc m => Value.put m.1 m.2 acc) before = before ++ ms := by
  induction ms generalizing before with
  | nil => exact (List.append_nil before).symm
  | cons m ms ih =>
    have hm : m.1 ∉ before.map Prod.fst := by
      intro hmem
      rw [List.map_append, List.nodup_append] at h
      exact h.2.2 m.1 hmem m.1 List.mem_cons_self rfl
    rw [List.append_cons] at h ⊢
    rw [List.foldl_cons, put_of_not_mem hm]
    exact ih h

/-- Members with different keys are kept as they are, in their order. -/
theorem ofMembers_of_nodup (h : (ms.map Prod.fst).Nodup) : Value.ofMembers ms = ms :=
  foldl_put h

/-! ### Written texts are of the grammar -/

theorem spells_writeString (s : String) : Spells (writeString s) (.value (.string s)) := by
  have hspells := Spells.string (quoted_flatMap_escaped s.toList)
  rwa [String.ofList_toList] at hspells

theorem Spells.bare {w : List Char} (h : Spells w (.value v)) : Spells w (.element v) := by
  have helement := Spells.element gap_nil h gap_nil
  rwa [List.nil_append, List.append_nil] at helement

theorem spells_writeItems (depth : Nat)
    (h : ∀ v' ∈ v :: vs, Spells (write .compact depth v') (.value v')) :
    Spells (write .compact depth v ++ writeItems .compact depth vs) (.elements (v :: vs)) := by
  induction vs generalizing v with
  | nil =>
    rw [writeItems, List.append_nil]
    exact .lastElement (h v List.mem_cons_self).bare
  | cons v' vs ih =>
    obtain ⟨hv, hvs⟩ := List.forall_mem_cons.1 h
    exact .elements hv.bare (ih hvs)

theorem spells_writeMember (depth : Nat) (k : String)
    (h : Spells (write .compact depth v) (.value v)) :
    Spells (writeString k ++ ':' :: write .compact depth v) (.member k v) := by
  have hmember := Spells.member gap_nil (quoted_flatMap_escaped k.toList) gap_nil h.bare
  rw [String.ofList_toList] at hmember
  simpa [writeString] using hmember

theorem spells_writeMembers (depth : Nat) {k : String}
    (h : ∀ m ∈ (k, v) :: ms, Spells (write .compact depth m.2) (.value m.2)) :
    Spells (writeString k ++ ':' :: write .compact depth v ++ writeMembers .compact depth ms)
      (.members ((k, v) :: ms)) := by
  induction ms generalizing k v with
  | nil =>
    rw [writeMembers, List.append_nil]
    exact .lastMember (spells_writeMember depth k (h (k, v) List.mem_cons_self))
  | cons m ms ih =>
    obtain ⟨hv, hms⟩ := List.forall_mem_cons.1 h
    have hmembers := Spells.members (spells_writeMember depth k hv) (ih hms)
    simpa [writeMembers, Style.compact, Style.break] using hmembers

theorem spells_write (hv : v.Plain) (depth : Nat) : Spells (write .compact depth v) (.value v) := by
  induction hv generalizing depth with
  | null => exact .null
  | bool b =>
    cases b with
    | true => exact .yes
    | false => exact .no
  | int h => exact .number (number_decimalInt h)
  | string s => exact spells_writeString s
  | @array items _ ih =>
    cases items with
    | nil => exact .emptyArray gap_nil
    | cons v vs =>
      have harray := Spells.array
        (spells_writeItems (depth + 1) fun v' hv' => ih v' hv' (depth + 1))
      simpa [write, Style.break, Style.compact] using harray
  | @object members hkeys _ ih =>
    cases members with
    | nil => exact .emptyObject gap_nil
    | cons m ms =>
      have hobject := Spells.object
        (spells_writeMembers (depth + 1) fun m' hm' => ih m' hm' (depth + 1))
      rw [ofMembers_of_nodup hkeys] at hobject
      simpa [write, Style.break, Style.compact] using hobject

theorem read?_write (hv : v.Plain) : read? (write .compact 0 v) = some v :=
  read?_eq_some_iff.2 (spells_write hv 0).bare

end StateCheck.Json
