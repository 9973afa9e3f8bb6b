import StateCheck.Baseline.Payload
import StateCheck.Device.Value
import StateCheck.Proofs.Json.Writing

/-!
Values of a device that are turned into text and decoded again: arrays, objects, truth values and
whole numbers come back as they were, and so do strings, unless they are JSON texts themselves.
-/

namespace StateCheck.Baseline

open Device (Value)

variable {v : Json.Value}

/-- What is decoded from the text of a value. -/
def passed (v : Json.Value) : Except Breakdown Json.Value :=
  (Value.textOf (Value.ofJson? v)).map decode

/-! ### The texts of values -/

theorem textOf_string (s : String) : Value.textOf (Value.ofJson? (.string s)) = .ok s := by
  rfl

theorem textOf_int {i : Int} (h : i.natAbs < tenTo Numeral.digitLimit) :
    Value.textOf (Value.ofJson? (.int i)) = .ok (Json.Value.text (.int i) .compact) := by
  have hwritten : (Yaml.Value.int i).written = .ok (Json.Value.text (.int i) .compact) := by
    rw [Yaml.Value.written, Yaml.Value.isWritable, if_pos (decide_eq_true h)]
    rfl
  rw [← hwritten, Value.ofJson?, Device.Payload.ofJson, Value.ofPayload?]
  by_cases hi : i < 0
  · rw [if_pos hi]
    simp only [Value.textOf, Value.text, Device.Payload.toInt, bind, Except.bind]
  · rw [if_neg hi]
    simp only [Value.textOf, Value.text, Device.Payload.toInt, bind, Except.bind]

/-- The text of a value other than a string is that of its compact JSON text. -/
theorem textOf_of_plain (hv : v.Plain) (hnull : v ≠ .null) (hstring : ∀ s, v ≠ .string s) :
    Value.textOf (Value.ofJson? v) = .ok (v.text .compact) := by
  cases hv with
  | null => exact absurd rfl hnull
  | bool b => cases b <;> rfl
  | int h => exact textOf_int h
  | string s => exact absurd rfl (hstring s)
  | array | object => rfl

/-! ### Decoding -/

theorem decode_of_spells {s : String} (h : Json.Spells s.toList (.element v)) : decode s = v := by
  rw [decode, Json.read?_eq_some_iff.2 h]
  rfl

theorem decode_of_not_spells {s : String} (h : ¬∃ v, Json.Spells s.toList (.element v)) :
    decode s = .string s := by
  have hnone : Json.read? s.toList = none := by
    rw [Option.eq_none_iff_forall_ne_some]
    exact fun v hv => h ⟨v, Json.read?_eq_some_iff.1 hv⟩
  rw [decode, hnone]
  rfl

theorem decode_text (hv : v.Plain) : decode (v.text .compact) = v := by
  rw [decode, Json.Value.text, String.toList_ofList, Json.read?_write hv]
  rfl

/-- A value comes back from its text, and so does a string that is no JSON text; any other string
is taken for the value that it spells. -/
theorem passed_of_plain (hv : v.Plain) :
    (v ≠ .null → (∀ s, v ≠ .string s) → passed v = .ok v) ∧
      ∀ s, v = .string s →
        (∀ w, Json.Spells s.toList (.element w) → passed v = .ok w) ∧
        ((¬∃ w, Json.Spells s.toList (.element w)) → passed v = .ok v) := by
  constructor
  · intro hnull hstring
    rw [passed, textOf_of_plain hv hnull hstring, Except.map, decode_text hv]
  · rintro s rfl
    rw [passed, textOf_string, Except.map]
    constructor
    · intro w hw
      rw [decode_of_spells hw]
    · intro hnone
      rw [decode_of_not_spells hnone]

/-- The state of an interface, with characters in its description that are written as escapes. -/
def described : Json.Value :=
  .object [("name", .string "Ethernet1"), ("description", .string "a \"b\"\n é 😀"),
    ("lanes", .array [.int 0, .int (-12), .array [], .object []]), ("up", .bool true),
    ("parent", .null)]

theorem tenTo_le_tenTo {m n : Nat} (h : m ≤ n) : tenTo m ≤ tenTo n :=
  Nat.pow_le_pow_right (by decide) h

theorem plain_described : described.Plain := by
  have hsmall {i : Int} (h : i.natAbs < tenTo 2) : (Json.Value.int i).Plain :=
    .int (Nat.lt_of_lt_of_le h (tenTo_le_tenTo (by decide)))
  have hlanes : (Json.Value.array [.int 0, .int (-12), .array [], .object []]).Plain := by
    apply Json.Value.Plain.array
    simp only [List.forall_mem_cons]
    exact ⟨hsmall (by decide), hsmall (by decide), .array nofun, .object .nil nofun, nofun⟩
  apply Json.Value.Plain.object
  · simp
  · simp only [List.forall_mem_cons]
    exact ⟨.string _, .string _, hlanes, .bool _, .null, nofun⟩

theorem passed_of_described :
    described.Plain ∧ described ≠ .null ∧ (∀ s, described ≠ .string s) ∧
      passed described = .ok described ∧
      passed (.string " [1, 2]") = .ok (.array [.int 1, .int 2]) ∧
      passed (.string "[1, 2") = .ok (.string "[1, 2") := by
  have hlist : Json.Spells " [1, 2]".toList (.element (.array [.int 1, .int 2])) :=
    Json.read?_eq_some_iff.1 rfl
  have hopen : ¬∃ w, Json.Spells "[1, 2".toList (.element w) := by
    rintro ⟨w, hw⟩
    have hread := Json.read?_eq_some_iff.2 hw
    cases hread
  refine ⟨plain_described, nofun, nofun, (passed_of_plain plain_described).1 nofun nofun, ?_, ?_⟩
  · exact ((passed_of_plain (.string _)).2 _ rfl).1 _ hlist
  · exact ((passed_of_plain (.string _)).2 _ rfl).2 hopen

end StateCheck.Baseline
