import StateCheck.Proofs.Except
import StateCheck.Proofs.Table
import StateCheck.Settings

/-!
Settings for single devices: what a document says about a device, and how far that counts before
the defaults.
-/

namespace StateCheck

open Yaml

/-! ### Documents of settings -/

namespace Yaml.Value

variable {v : Value} {name s : String} {c : Credentials}

/-- The text that a document gives under a name, empty if it gives none. -/
def textUnder (v : Value) (name : String) : String := ((v.truthy? name).map text).getD ""

theorem written_eq_ok (h : v.written = .ok s) : v.text = s := by
  unfold written at h
  split at h
  · exact Except.ok.inj h
  · cases h

theorem settingText_eq_ok (h : v.settingText name = .ok s) : v.textUnder name = s := by
  unfold settingText at h
  unfold textUnder
  split at h
  · next w hw =>
    rw [hw]
    exact written_eq_ok h
  · next hw =>
    rw [hw]
    exact Except.ok.inj h

theorem settingCredentials_eq_ok (h : v.settingCredentials = .ok c) :
    c = ⟨v.textUnder "username", v.textUnder "password", v.settingFlag "insecure"⟩ := by
  obtain ⟨username, husername, h⟩ := bind_eq_ok h
  obtain ⟨password, hpassword, h⟩ := bind_eq_ok h
  rw [settingText_eq_ok husername, settingText_eq_ok hpassword, Except.ok.inj h]

theorem get?_of_not_truthy (h : v.isTruthy = false) (name : String) : v.get? name = none := by
  cases v with
  | mapping members =>
    obtain rfl : members = [] := by simpa [isTruthy] using h
    rfl
  | _ => rfl

end Yaml.Value

namespace Overrides

variable {doc : Value} {o : Overrides}

/-- What a document says about a device. Whether the device is insecure is left open only if the
document has nothing under that name, or null. -/
def ofValue (doc : Value) : Overrides :=
  ⟨doc.textUnder "username", doc.textUnder "password",
    (doc.given? "insecure").map Value.isTruthy⟩

theorem ofValue_of_get? (h : ∀ name, doc.get? name = none) : ofValue doc = ⟨"", "", none⟩ := by
  simp [ofValue, Value.textUnder, Value.truthy?, Value.given?, h]

theorem eq_ofValue (h : Settings.overridesOf doc = .ok o) : o = ofValue doc := by
  unfold Settings.overridesOf at h
  split at h
  · next hfalse =>
    rw [ofValue_of_get? (Value.get?_of_not_truthy (by simpa using hfalse))]
    exact (Except.ok.inj h).symm
  · split at h
    · obtain ⟨username, husername, h⟩ := bind_eq_ok h
      obtain ⟨password, hpassword, h⟩ := bind_eq_ok h
      rw [ofValue, Value.settingText_eq_ok husername, Value.settingText_eq_ok hpassword]
      exact (Except.ok.inj h).symm
    · cases h

/-- The credentials that overrides ask for: each field that they give, and the default for each
that they leave open. -/
def onDefaults (o : Overrides) (d : Credentials) : Credentials where
  username := if o.username = "" then d.username else o.username
  password := if o.password = "" then d.password else o.password
  insecure := o.insecure.getD d.insecure

end Overrides

namespace Settings

variable {s : Settings} {doc : Value} {source : Option String} {address : String}
  {table overrides : Table Overrides} {members : List (Value × Value)}

/-- What the last of the members says that stands under an address. -/
def lastFor (members : List (Value × Value)) (address : String) : Option Overrides :=
  (members.reverse.find? fun e => e.1.text == address).map fun e => .ofValue e.2

theorem lastFor_cons (e : Value × Value) (members : List (Value × Value)) (address : String) :
    lastFor (e :: members) address = (lastFor members address).or
      (if e.1.text = address then some (.ofValue e.2) else none) := by
  unfold lastFor
  rw [List.reverse_cons, List.find?_append]
  cases members.reverse.find? fun e => e.1.text == address with
  | some found => rfl
  | none => by_cases h : e.1.text = address <;> simp [h]

theorem get?_of_readOverrides (h : readOverrides table members = .ok overrides)
    (address : String) :
    overrides.get? address = (lastFor members address).or (table.get? address) := by
  induction members generalizing table with
  | nil =>
    cases h
    rfl
  | cons e members ih =>
    obtain ⟨o, ho, h⟩ := bind_eq_ok h
    obtain ⟨name, hname, h⟩ := bind_eq_ok h
    rw [ih h, lastFor_cons, Table.get?_put, Overrides.eq_ofValue ho, Value.written_eq_ok hname]
    cases lastFor members address with
    | some found => rfl
    | none =>
      by_cases heq : name = address <;> simp [heq]

theorem ofDocument_eq_ok (h : ofDocument doc source = .ok s) :
    ∃ defaults targets, Value.settingMembers? (doc.get? "defaults") = some defaults ∧
      Value.settingMembers? (doc.get? "targets") = some targets ∧
      s.defaults = ⟨(Value.mapping defaults).textUnder "username",
        (Value.mapping defaults).textUnder "password",
        (Value.mapping defaults).settingFlag "insecure"⟩ ∧
      ∀ address, s.overrides.get? address = lastFor targets address := by
  unfold ofDocument at h
  split at h
  · dsimp only at h
    split at h
    · next defaults targets hdefaults htargets =>
      obtain ⟨overrides, hoverrides, h⟩ := bind_eq_ok h
      obtain ⟨credentials, hcredentials, h⟩ := bind_eq_ok h
      obtain ⟨timeout, -, h⟩ := bind_eq_ok h
      cases h
      refine ⟨defaults, targets, hdefaults, htargets, ?_, fun address => ?_⟩
      · exact Value.settingCredentials_eq_ok (mapError_eq_ok_iff.1 hcredentials)
      · have hget := get?_of_readOverrides (mapError_eq_ok_iff.1 hoverrides) address
        rw [hget]
        exact Option.or_none
    · cases h
  · cases h

/-! ### Credentials -/

theorem credentials_of_none (h : s.overrides.get? address = none) :
    s.credentials address = s.defaults := by
  rw [credentials, h]
  rfl

theorem credentials_of_some {o : Overrides} (h : s.overrides.get? address = some o) :
    s.credentials address =
      { o.onDefaults s.defaults with insecure := o.insecure.getD false || s.defaults.insecure } := by
  rw [credentials, h]
  rfl

/-- The texts that overrides give count before the defaults, and so does their word on whether the
device is insecure, but for one case: a device that is called secure stays insecure if the defaults
say so. A device without overrides has the defaults. In the settings of a document the last member
that stands under an address makes its overrides. -/
theorem credentials_eq_onDefaults_iff (s : Settings) (address : String) :
    (s.overrides.get? address = none → s.credentials address = s.defaults) ∧
    (∀ o, s.overrides.get? address = some o →
      (s.credentials address = o.onDefaults s.defaults ↔
        (o.insecure = some false → s.defaults.insecure = false)) ∧
      (o.insecure = some false → s.defaults.insecure = true →
        s.credentials address = { o.onDefaults s.defaults with insecure := true })) ∧
    ∀ doc source, ofDocument doc source = .ok s →
      ∃ defaults targets, Value.settingMembers? (doc.get? "defaults") = some defaults ∧
        Value.settingMembers? (doc.get? "targets") = some targets ∧
        s.defaults = ⟨(Value.mapping defaults).textUnder "username",
          (Value.mapping defaults).textUnder "password",
          (Value.mapping defaults).settingFlag "insecure"⟩ ∧
        s.overrides.get? address = lastFor targets address := by
  refine ⟨credentials_of_none, fun o ho => ⟨?_, fun hsecure hdefault => ?_⟩, ?_⟩
  · rw [credentials_of_some ho, Overrides.onDefaults, Credentials.mk.injEq]
    simp only [true_and]
    cases o.insecure with
    | none => simp
    | some b => cases b <;> simp
  · rw [credentials_of_some ho, hsecure, hdefault]
    rfl
  · intro doc source h
    obtain ⟨defaults, targets, hdefaults, htargets, hs, hget⟩ := ofDocument_eq_ok h
    exact ⟨defaults, targets, hdefaults, htargets, hs, hget address⟩

/-- Settings with two members for one device: a truth value and a text are written alike. -/
def repeated : Value :=
  .mapping [
    (.string "defaults", .mapping [(.string "username", .string "admin")]),
    (.string "targets", .mapping [
      (.bool true, .mapping [(.string "username", .string "ops"),
        (.string "insecure", .bool true)]),
      (.string "True", .mapping [(.string "password", .bool true), (.string "insecure", .int 0)])])]

theorem credentials_of_repeated : ∃ s, ofDocument repeated none = .ok s ∧
    s.overrides.get? "True" = some ⟨"", "True", some false⟩ ∧
    s.credentials "True" = ⟨"admin", "True", false⟩ ∧
    s.overrides.get? "r" = none ∧ s.credentials "r" = ⟨"admin", "", false⟩ := by
  obtain ⟨s, hs⟩ : ∃ s, ofDocument repeated none = .ok s := ⟨_, rfl⟩
  obtain ⟨-, hsome, hdocument⟩ := credentials_eq_onDefaults_iff s "True"
  obtain ⟨hnone, -, hdocument'⟩ := credentials_eq_onDefaults_iff s "r"
  obtain ⟨defaults, targets, hdefaults, htargets, hd, hget⟩ := hdocument repeated none hs
  obtain ⟨-, targets', -, htargets', -, hget'⟩ := hdocument' repeated none hs
  cases hdefaults
  cases htargets
  cases htargets'
  have ho : s.overrides.get? "True" = some ⟨"", "True", some false⟩ := hget
  have hr : s.overrides.get? "r" = none := hget'
  have hdefault : s.defaults = ⟨"admin", "", false⟩ := hd
  refine ⟨s, hs, ho, ?_, hr, (hnone hr).trans hdefault⟩
  rw [((hsome _ ho).1.2 fun _ => by rw [hdefault]), hdefault]
  rfl

/-- A device that is called secure under defaults that are not. -/
def secured : Value :=
  .mapping [
    (.string "defaults", .mapping [(.string "insecure", .bool true)]),
    (.string "targets", .mapping [(.string "r", .mapping [(.string "insecure", .bool false)])])]

theorem secured_left_insecure : ∃ s o, ofDocument secured none = .ok s ∧
    s.overrides.get? "r" = some o ∧ o.insecure = some false ∧
    (s.credentials "r").insecure = true ∧ s.credentials "r" ≠ o.onDefaults s.defaults :=
  ⟨_, _, rfl, rfl, rfl, rfl, by decide⟩

end Settings

end StateCheck
