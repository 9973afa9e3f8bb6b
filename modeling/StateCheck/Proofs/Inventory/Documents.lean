import StateCheck.Inventory.Reading
import StateCheck.Proofs.Inventory.Flattening
import StateCheck.Proofs.Settings

/-!
Documents of inventories: which of them are read, which are refused with a message, and on which
reading breaks off.
-/

namespace StateCheck

open Yaml

/-! ### Parts of a document -/

namespace Yaml.Value

variable {v : Value} {name : String}

theorem written_of_isWritable (h : v.isWritable = true) : v.written = .ok v.text := if_pos h

theorem written_of_not_isWritable (h : v.isWritable = false) : v.written = .error .unreadable := by
  rw [written, if_neg (by simp [h])]

/-- The login of a document has a number in it that is too long for a text. -/
def HasLongLogin (v : Value) : Prop :=
  ∃ name, (name = "username" ∨ name = "password") ∧
    ∃ w, v.truthy? name = some w ∧ w.isWritable = false

theorem settingText_cases (v : Value) (name : String) :
    ((∃ s, v.settingText name = .ok s) ∧ ∀ w, v.truthy? name = some w → w.isWritable = true) ∨
      v.settingText name = .error .unreadable ∧
        ∃ w, v.truthy? name = some w ∧ w.isWritable = false := by
  unfold settingText
  cases hw : v.truthy? name with
  | none => exact .inl ⟨⟨"", rfl⟩, nofun⟩
  | some w =>
    cases hwritable : w.isWritable with
    | true => exact .inl ⟨⟨w.text, written_of_isWritable hwritable⟩, by simpa using hwritable⟩
    | false => exact .inr ⟨written_of_not_isWritable hwritable, w, rfl, hwritable⟩

theorem settingCredentials_of_hasLongLogin (h : v.HasLongLogin) :
    v.settingCredentials = .error .unreadable := by
  rcases settingText_cases v "username" with ⟨⟨username, hu⟩, hused⟩ | ⟨hu, -⟩
  · rcases settingText_cases v "password" with ⟨-, hp⟩ | ⟨hp, -⟩
    · obtain ⟨name, rfl | rfl, w, hw, hlong⟩ := h
      · simp [hused w hw] at hlong
      · simp [hp w hw] at hlong
    · rw [settingCredentials, hu, hp]
      rfl
  · rw [settingCredentials, hu]
    rfl

theorem settingCredentials_of_not_hasLongLogin (h : ¬v.HasLongLogin) :
    ∃ c, v.settingCredentials = .ok c := by
  rcases settingText_cases v "username" with ⟨⟨username, hu⟩, -⟩ | ⟨-, hlong⟩
  · rcases settingText_cases v "password" with ⟨⟨password, hp⟩, -⟩ | ⟨-, hlong⟩
    · rw [settingCredentials, hu, hp]
      exact ⟨_, rfl⟩
    · exact absurd ⟨"password", .inr rfl, hlong⟩ h
  · exact absurd ⟨"username", .inl rfl, hlong⟩ h

end Yaml.Value

namespace Inventory

variable {doc name v : Value} {groups : Table (List String)} {e : Value × Value}
  {es before after defaults : List (Value × Value)} {items : List Value} {b : Breakdown}

/-! ### Groups -/

/-- The hosts that a document lists for a group: a list of them, a single one, or none. -/
def listed? : Value → Option (List Value)
  | .null => some []
  | .string s => some [.string s]
  | .list items => some items
  | _ => none

/-- A group with a list of hosts, all of which have texts, and its name too. -/
def Sound (e : Value × Value) : Prop :=
  e.1.isWritable = true ∧ ∃ items, listed? e.2 = some items ∧ Value.areWritable items = true

/-- A group that has something else than a list of hosts. -/
def Unlisted (e : Value × Value) : Prop := e.1.isWritable = true ∧ listed? e.2 = none

/-- A group with a number in its name or its hosts that is too long for a text. -/
def Overlong (e : Value × Value) : Prop :=
  e.1.isWritable = false ∨ ∃ items, listed? e.2 = some items ∧ Value.areWritable items = false

theorem sound_or (e : Value × Value) : Sound e ∨ Unlisted e ∨ Overlong e := by
  unfold Sound Unlisted Overlong
  cases e.1.isWritable with
  | false => exact .inr (.inr (.inl rfl))
  | true =>
    cases listed? e.2 with
    | none => exact .inr (.inl ⟨rfl, rfl⟩)
    | some items =>
      cases h : Value.areWritable items with
      | true => exact .inl ⟨rfl, items, rfl, h⟩
      | false => exact .inr (.inr (.inr ⟨items, rfl, h⟩))

theorem eachFrom_written (i : Nat) (items : List Value) :
    Noted.eachFrom (fun _ item => Noted.orBreakOff item.written) i items =
      Noted.orBreakOff (if Value.areWritable items then .ok (items.map Value.text)
        else .error .unreadable) := by
  induction items generalizing i with
  | nil => rfl
  | cons v items ih =>
    rw [Noted.eachFrom, ih, Value.areWritable]
    cases hv : v.isWritable with
    | false =>
      rw [Value.written_of_not_isWritable hv]
      rfl
    | true =>
      rw [Value.written_of_isWritable hv]
      cases Value.areWritable items <;> rfl

def unlistedFailure (e : Value × Value) : Failure :=
  .of .inventory ("group '" ++ e.1.text ++ "' must be a list of hosts") [("got", e.2.typeName)]

theorem readMembers_of_listed (name : Value) (h : listed? v = some items) :
    readMembers name v = Noted.orBreakOff
      (if Value.areWritable items then .ok (items.map Value.text) else .error .unreadable) := by
  unfold listed? at h
  split at h
  · cases h
    rfl
  · cases h
    rfl
  · cases h
    exact eachFrom_written 0 items
  · cases h

theorem readMembers_of_unlisted (name : Value) (h : listed? v = none) :
    readMembers name v = (Noted.orBreakOff name.written >>= fun text =>
      refuse ("group '" ++ text ++ "' must be a list of hosts") [("got", v.typeName)]) := by
  unfold listed? at h
  unfold readMembers
  split <;> simp_all

theorem readGroups_cons (groups : Table (List String)) (e : Value × Value)
    (es : List (Value × Value)) : readGroups groups (e :: es) =
      (readMembers e.1 e.2 >>= fun members => Noted.orBreakOff e.1.written >>= fun name =>
        readGroups (groups.put name members) es) := rfl

theorem readGroups_of_sound (h : Sound e) (groups : Table (List String))
    (es : List (Value × Value)) : ∃ t, readGroups groups (e :: es) = readGroups t es := by
  obtain ⟨hname, items, hlisted, hitems⟩ := h
  rw [readGroups_cons, readMembers_of_listed e.1 hlisted, hitems,
    Value.written_of_isWritable hname]
  exact ⟨_, rfl⟩

theorem readGroups_of_unlisted (h : Unlisted e) (groups : Table (List String))
    (es : List (Value × Value)) : readGroups groups (e :: es) = .fail (unlistedFailure e) := by
  obtain ⟨hname, hlisted⟩ := h
  rw [readGroups_cons, readMembers_of_unlisted e.1 hlisted, Value.written_of_isWritable hname]
  rfl

theorem readGroups_of_overlong (h : Overlong e) (groups : Table (List String))
    (es : List (Value × Value)) : readGroups groups (e :: es) = .breakOff .unreadable := by
  rw [readGroups_cons]
  rcases h with hname | ⟨items, hlisted, hitems⟩
  · cases hlisted : listed? e.2 with
    | none =>
      rw [readMembers_of_unlisted e.1 hlisted, Value.written_of_not_isWritable hname]
      rfl
    | some items =>
      rw [readMembers_of_listed e.1 hlisted, Value.written_of_not_isWritable hname]
      cases Value.areWritable items <;> rfl
  · rw [readMembers_of_listed e.1 hlisted, hitems]
    rfl

theorem readGroups_append (h : ∀ e ∈ before, Sound e) (groups : Table (List String))
    (es : List (Value × Value)) : ∃ t, readGroups groups (before ++ es) = readGroups t es := by
  induction before generalizing groups with
  | nil => exact ⟨groups, rfl⟩
  | cons e before ih =>
    obtain ⟨he, hbefore⟩ := List.forall_mem_cons.1 h
    obtain ⟨t, ht⟩ := readGroups_of_sound he groups (before ++ es)
    obtain ⟨t', ht'⟩ := ih hbefore t
    exact ⟨t', ht.trans ht'⟩

/-- All groups are sound, or there is a first one that is not. -/
theorem forall_sound_or (es : List (Value × Value)) : (∀ e ∈ es, Sound e) ∨
    ∃ before e after, es = before ++ e :: after ∧ (∀ x ∈ before, Sound x) ∧
      (Unlisted e ∨ Overlong e) := by
  induction es with
  | nil => exact .inl (List.forall_mem_nil _)
  | cons e es ih =>
    rcases sound_or e with he | he
    · rcases ih with hes | ⟨before, x, after, rfl, hbefore, hx⟩
      · exact .inl (List.forall_mem_cons.2 ⟨he, hes⟩)
      · exact .inr ⟨e :: before, x, after, rfl, List.forall_mem_cons.2 ⟨he, hbefore⟩, hx⟩
    · exact .inr ⟨[], e, es, rfl, List.forall_mem_nil _, he⟩

/-! ### Default ports -/

/-- A value that stands for a default port, with the failure that is reported if it is none. -/
inductive BadPort : Value → Failure → Prop
  | unreadable {v : Value} {b : Breakdown} (h : wholeNumber v = .error b) (hb : b ≠ .overflow)
      (hw : v.isWritable = true) :
      BadPort v (.of .inventory ("invalid default port '" ++ v.text ++ "'") [])
  | outside {v : Value} {p : Int} (h : wholeNumber v = .ok p) (hp : ¬(0 ≤ p ∧ p ≤ 65535))
      (hw : (Value.int p).isWritable = true) :
      BadPort v (.of .inventory ("default port " ++ (Value.int p).text ++ " out of range") [])

/-- A value for a default port on which reading breaks off: an infinite one, or one that is to be
named in a message and is too long for a text. -/
inductive BreaksPort : Value → Breakdown → Prop
  | infinite (negative : Bool) : BreaksPort (.float (.infinite negative)) .overflow
  | unreadable {v : Value} {b : Breakdown} (h : wholeNumber v = .error b) (hb : b ≠ .overflow)
      (hw : v.isWritable = false) : BreaksPort v .unreadable
  | outside {v : Value} {p : Int} (h : wholeNumber v = .ok p) (hp : ¬(0 ≤ p ∧ p ≤ 65535))
      (hw : (Value.int p).isWritable = false) : BreaksPort v .unreadable

/-- What stands for the default port of a document; null and an empty text do not. -/
def portOf? (defaults : List (Value × Value)) : Option Value :=
  match (Value.mapping defaults).get? "port" with
  | none | some .null | some (.string "") => none
  | some v => some v

theorem orUnreadable_ne_overflow {α : Type} (o : Option α) :
    Device.Payload.orUnreadable o ≠ .error .overflow := by
  cases o <;> nofun

theorem wholeNumber_eq_overflow (h : wholeNumber v = .error .overflow) :
    ∃ negative, v = .float (.infinite negative) := by
  unfold wholeNumber at h
  split at h
  · cases h
  · cases h
  · next x =>
    cases x with
    | infinite negative => exact ⟨negative, rfl⟩
    | _ =>
      simp only [Device.Payload.toInt] at h
      exact absurd h (orUnreadable_ne_overflow _)
  · exact absurd h (orUnreadable_ne_overflow _)
  · next bs =>
    simp only [Device.Payload.toInt, Device.Payload.numeral?] at h
    split at h
    · exact absurd h (orUnreadable_ne_overflow _)
    · cases h
  · cases h

theorem readPort_of_none (hnone : portOf? defaults = none) :
    readPort ((Value.mapping defaults).get? "port") = pure 0 := by
  unfold portOf? at hnone
  split at hnone
  · next hport => rw [hport]; rfl
  · next hport => rw [hport]; rfl
  · next hport => rw [hport]; rfl
  · cases hnone

theorem readPort_of_some (h : portOf? defaults = some v) :
    readPort ((Value.mapping defaults).get? "port") =
      match wholeNumber v with
      | .error .overflow => .breakOff .overflow
      | .error _ => Noted.orBreakOff v.written >>= fun text =>
        refuse ("invalid default port '" ++ text ++ "'") []
      | .ok port => if 0 ≤ port ∧ port ≤ 65535 then pure port
        else Noted.orBreakOff (Value.int port).written >>= fun text =>
          refuse ("default port " ++ text ++ " out of range") [] := by
  unfold portOf? at h
  split at h
  · cases h
  · cases h
  · cases h
  · next w hnull hempty hw =>
    cases h
    rw [hw]
    unfold readPort
    split
    · next heq => cases heq
    · next heq => exact absurd (Option.some.inj heq) hnull
    · next heq => exact absurd (Option.some.inj heq) hempty
    · next heq =>
      cases heq
      rfl

theorem readPort_of_badPort {f : Failure} (h : portOf? defaults = some v) (hbad : BadPort v f) :
    readPort ((Value.mapping defaults).get? "port") = .fail f := by
  rw [readPort_of_some h]
  cases hbad with
  | unreadable h hb hw =>
    rw [h, Value.written_of_isWritable hw]
    split
    · next heq => cases heq; exact absurd rfl hb
    · rfl
    · next heq => cases heq
  | outside h hp hw =>
    rw [h]
    dsimp only
    rw [if_neg hp, Value.written_of_isWritable hw]
    rfl

theorem readPort_of_breaksPort (h : portOf? defaults = some v) (hbreaks : BreaksPort v b) :
    readPort ((Value.mapping defaults).get? "port") = .breakOff b := by
  rw [readPort_of_some h]
  cases hbreaks with
  | infinite negative => rfl
  | unreadable h hb hw =>
    rw [h, Value.written_of_not_isWritable hw]
    split
    · next heq => cases heq; exact absurd rfl hb
    · rfl
    · next heq => cases heq
  | outside h hp hw =>
    rw [h]
    dsimp only
    rw [if_neg hp, Value.written_of_not_isWritable hw]
    rfl

theorem readPort_or (defaults : List (Value × Value)) :
    (∃ port, readPort ((Value.mapping defaults).get? "port") = pure port) ∨
      ∃ v, portOf? defaults = some v ∧ ((∃ f, BadPort v f) ∨ ∃ b, BreaksPort v b) := by
  cases h : portOf? defaults with
  | none => exact .inl ⟨0, readPort_of_none h⟩
  | some v =>
    rw [readPort_of_some h]
    cases hn : wholeNumber v with
    | error e =>
      by_cases he : e = .overflow
      · subst he
        obtain ⟨negative, rfl⟩ := wholeNumber_eq_overflow hn
        exact .inr ⟨_, rfl, .inr ⟨_, .infinite negative⟩⟩
      · cases hw : v.isWritable with
        | true => exact .inr ⟨v, rfl, .inl ⟨_, .unreadable hn he hw⟩⟩
        | false => exact .inr ⟨v, rfl, .inr ⟨_, .unreadable hn he hw⟩⟩
    | ok port =>
      by_cases hp : 0 ≤ port ∧ port ≤ 65535
      · exact .inl ⟨port, if_pos hp⟩
      · cases hw : (Value.int port).isWritable with
        | true => exact .inr ⟨v, rfl, .inl ⟨_, .outside hn hp hw⟩⟩
        | false => exact .inr ⟨v, rfl, .inr ⟨_, .outside hn hp hw⟩⟩

/-! ### Documents -/

/-- The groups of a document, or nothing if there is something else in their place. -/
def groupsIn? (doc : Value) : Option (List (Value × Value)) :=
  Value.settingMembers? (doc.get? "groups")

/-- The defaults of a document, or nothing if there is something else in their place. -/
def defaultsIn? (doc : Value) : Option (List (Value × Value)) :=
  Value.settingMembers? (doc.get? "defaults")

def Grouped (doc : Value) : Prop := ∃ es, groupsIn? doc = some es ∧ ∀ e ∈ es, Sound e

/-- A document that is refused, with the failure that is reported: it is no mapping, its groups or
its defaults are none, the first unsound group has no list of hosts, or its port is bad. -/
inductive Refused (doc : Value) : Failure → Prop
  | shape (ht : doc.isTruthy = true) (hm : ∀ ms, doc ≠ .mapping ms) :
      Refused doc (.of .inventory "YAML inventory must be a mapping" [])
  | groups (hg : groupsIn? doc = none) :
      Refused doc (.of .inventory "'groups' must be a mapping of group name to host list" [])
  | group {before after : List (Value × Value)} {e : Value × Value}
      (hg : groupsIn? doc = some (before ++ e :: after)) (hbefore : ∀ x ∈ before, Sound x)
      (he : Unlisted e) : Refused doc (unlistedFailure e)
  | defaults (hg : Grouped doc) (hd : defaultsIn? doc = none) :
      Refused doc (.of .inventory "'defaults' must be a mapping" [])
  | port {defaults : List (Value × Value)} {v : Value} {f : Failure} (hg : Grouped doc)
      (hd : defaultsIn? doc = some defaults) (hl : ¬(Value.mapping defaults).HasLongLogin)
      (hv : portOf? defaults = some v) (hp : BadPort v f) : Refused doc f

/-- A document on which reading breaks off: the first unsound group or the login has a number in it
that is too long for a text, or the port breaks it off. -/
inductive BreaksOff (doc : Value) : Breakdown → Prop
  | group {before after : List (Value × Value)} {e : Value × Value}
      (hg : groupsIn? doc = some (before ++ e :: after)) (hbefore : ∀ x ∈ before, Sound x)
      (he : Overlong e) : BreaksOff doc .unreadable
  | login {defaults : List (Value × Value)} (hg : Grouped doc)
      (hd : defaultsIn? doc = some defaults) (hl : (Value.mapping defaults).HasLongLogin) :
      BreaksOff doc .unreadable
  | port {defaults : List (Value × Value)} {v : Value} {b : Breakdown} (hg : Grouped doc)
      (hd : defaultsIn? doc = some defaults) (hl : ¬(Value.mapping defaults).HasLongLogin)
      (hv : portOf? defaults = some v) (hp : BreaksPort v b) : BreaksOff doc b

/-- What is read of a document behind its groups. -/
def withDefaults (doc : Value) (groups : Table (List String)) : Noted Inventory :=
  match defaultsIn? doc with
  | none => refuse "'defaults' must be a mapping" []
  | some defaults => do
    let credentials ← Noted.orBreakOff (Value.mapping defaults).settingCredentials
    let port ← readPort ((Value.mapping defaults).get? "port")
    expandReferences ⟨groups, ⟨credentials, port⟩, none⟩

theorem ofDocument_eq (h : doc.isTruthy = false ∨ ∃ ms, doc = .mapping ms) : ofDocument doc =
    match groupsIn? doc with
    | none => refuse "'groups' must be a mapping of group name to host list" []
    | some es => readGroups .empty es >>= withDefaults doc := by
  have hmapping (ms : List (Value × Value)) : ofDocument (.mapping ms) =
      match groupsIn? (.mapping ms) with
      | none => refuse "'groups' must be a mapping of group name to host list" []
      | some es => readGroups .empty es >>= withDefaults (.mapping ms) := by
    have hsame : (if (Value.mapping ms).isTruthy then Value.mapping ms else .mapping []) =
        .mapping ms := by cases ms <;> rfl
    unfold ofDocument
    rw [hsame]
    rfl
  rcases h with hfalse | ⟨ms, rfl⟩
  · -- A document that does not count as set has no members, as an empty mapping has none.
    have hempty : ofDocument doc = ofDocument (.mapping []) := by
      unfold ofDocument
      rw [if_neg (by simp [hfalse])]
      rfl
    have hget := Value.get?_of_not_truthy hfalse
    have hwith : withDefaults doc = withDefaults (.mapping []) := by
      funext groups
      simp only [withDefaults, defaultsIn?, hget]
      rfl
    rw [hempty, hmapping, hwith, groupsIn?, groupsIn?, hget]
    rfl
  · exact hmapping ms

theorem shape_or (doc : Value) : (doc.isTruthy = false ∨ ∃ ms, doc = .mapping ms) ∨
    doc.isTruthy = true ∧ ∀ ms, doc ≠ .mapping ms := by
  by_cases hm : ∃ ms, doc = .mapping ms
  · exact .inl (.inr hm)
  · cases ht : doc.isTruthy with
    | false => exact .inl (.inl rfl)
    | true => exact .inr ⟨rfl, fun ms h => hm ⟨ms, h⟩⟩

theorem shaped_of (h : groupsIn? doc ≠ some [] ∨ defaultsIn? doc ≠ some []) :
    doc.isTruthy = false ∨ ∃ ms, doc = .mapping ms := by
  rcases shape_or doc with hshape | ⟨-, hm⟩
  · exact hshape
  · have hget (name : String) : doc.get? name = none := by
      cases doc with
      | mapping ms => exact absurd rfl (hm ms)
      | _ => rfl
    simp [groupsIn?, defaultsIn?, hget, Value.settingMembers?] at h

theorem Grouped.ofDocument (hg : Grouped doc)
    (hshape : doc.isTruthy = false ∨ ∃ ms, doc = .mapping ms) :
    ∃ groups, Inventory.ofDocument doc = withDefaults doc groups := by
  obtain ⟨es, hes, hsound⟩ := hg
  obtain ⟨groups, hgroups⟩ := readGroups_append hsound .empty []
  rw [List.append_nil] at hgroups
  rw [ofDocument_eq hshape, hes]
  dsimp only
  rw [hgroups]
  exact ⟨groups, rfl⟩

theorem ofDocument_of_first (hg : groupsIn? doc = some (before ++ e :: after))
    (hbefore : ∀ x ∈ before, Sound x) : ∃ groups,
      ofDocument doc = readGroups groups (e :: after) >>= withDefaults doc := by
  obtain ⟨groups, hgroups⟩ := readGroups_append hbefore .empty (e :: after)
  rw [ofDocument_eq (shaped_of (.inl (by simp [hg]))), hg]
  dsimp only
  rw [hgroups]
  exact ⟨groups, rfl⟩

theorem defaultsIn?_ne_of_portOf? (hd : defaultsIn? doc = some defaults)
    (hv : portOf? defaults = some v) : defaultsIn? doc ≠ some [] := by
  intro hnil
  obtain rfl := Option.some.inj (hd.symm.trans hnil)
  cases hv

theorem Refused.ofDocument {f : Failure} (h : Refused doc f) :
    Inventory.ofDocument doc = .fail f := by
  cases h with
  | shape ht hm =>
    unfold Inventory.ofDocument
    rw [if_pos ht]
    split
    · next ms => exact absurd rfl (hm ms)
    · rfl
  | groups hg =>
    rw [ofDocument_eq (shaped_of (.inl (by simp [hg]))), hg]
    rfl
  | group hg hbefore he =>
    obtain ⟨groups, hgroups⟩ := ofDocument_of_first hg hbefore
    rw [hgroups, readGroups_of_unlisted he]
    rfl
  | defaults hg hd =>
    obtain ⟨groups, hgroups⟩ := hg.ofDocument (shaped_of (.inr (by simp [hd])))
    rw [hgroups, withDefaults, hd]
    rfl
  | port hg hd hl hv hp =>
    obtain ⟨groups, hgroups⟩ :=
      hg.ofDocument (shaped_of (.inr (defaultsIn?_ne_of_portOf? hd hv)))
    -- The login is read in front of the port.
    obtain ⟨c, hc⟩ := Value.settingCredentials_of_not_hasLongLogin hl
    rw [hgroups, withDefaults, hd]
    dsimp only
    rw [hc, readPort_of_badPort hv hp]
    rfl

theorem BreaksOff.ofDocument (h : BreaksOff doc b) : Inventory.ofDocument doc = .breakOff b := by
  cases h with
  | group hg hbefore he =>
    obtain ⟨groups, hgroups⟩ := ofDocument_of_first hg hbefore
    rw [hgroups, readGroups_of_overlong he]
    rfl
  | @login defaults hg hd hl =>
    have hne : defaultsIn? doc ≠ some [] := by
      intro hnil
      obtain rfl := Option.some.inj (hd.symm.trans hnil)
      obtain ⟨name, -, w, hw, -⟩ := hl
      cases hw
    obtain ⟨groups, hgroups⟩ := hg.ofDocument (shaped_of (.inr hne))
    rw [hgroups, withDefaults, hd]
    dsimp only
    rw [Value.settingCredentials_of_hasLongLogin hl]
    rfl
  | port hg hd hl hv hp =>
    obtain ⟨groups, hgroups⟩ :=
      hg.ofDocument (shaped_of (.inr (defaultsIn?_ne_of_portOf? hd hv)))
    obtain ⟨c, hc⟩ := Value.settingCredentials_of_not_hasLongLogin hl
    rw [hgroups, withDefaults, hd]
    dsimp only
    rw [hc, readPort_of_breaksPort hv hp]
    rfl

theorem withDefaults_or (hg : Grouped doc) :
    (∀ groups, ∃ d, withDefaults doc groups = expandReferences ⟨groups, d, none⟩) ∨
      (∃ f, Refused doc f) ∨ ∃ b, BreaksOff doc b := by
  cases hd : defaultsIn? doc with
  | none => exact .inr (.inl ⟨_, .defaults hg hd⟩)
  | some defaults =>
    by_cases hl : (Value.mapping defaults).HasLongLogin
    · exact .inr (.inr ⟨_, .login hg hd hl⟩)
    · rcases readPort_or defaults with ⟨port, hport⟩ | ⟨v, hv, ⟨f, hp⟩ | ⟨b, hp⟩⟩
      · obtain ⟨c, hc⟩ := Value.settingCredentials_of_not_hasLongLogin hl
        refine .inl fun groups => ⟨⟨c, port⟩, ?_⟩
        rw [withDefaults, hd]
        dsimp only
        rw [hc, hport]
        rfl
      · exact .inr (.inl ⟨f, .port hg hd hl hv hp⟩)
      · exact .inr (.inr ⟨b, .port hg hd hl hv hp⟩)

/-- Every document is read, refused or breaks reading off. -/
theorem ofDocument_or (doc : Value) :
    (∃ i : Inventory, ofDocument doc = i.expandReferences) ∨
      (∃ f, Refused doc f) ∨ ∃ b, BreaksOff doc b := by
  rcases shape_or doc with hshape | ⟨ht, hm⟩
  · cases hes : groupsIn? doc with
    | none => exact .inr (.inl ⟨_, .groups hes⟩)
    | some es =>
      rcases forall_sound_or es with hsound | ⟨before, e, after, rfl, hbefore, he | he⟩
      · have hg : Grouped doc := ⟨es, hes, hsound⟩
        rcases withDefaults_or hg with hread | hrest
        · obtain ⟨groups, hgroups⟩ := hg.ofDocument hshape
          obtain ⟨d, hd⟩ := hread groups
          exact .inl ⟨_, hgroups.trans hd⟩
        · exact .inr hrest
      · exact .inr (.inl ⟨_, .group hes hbefore he⟩)
      · exact .inr (.inr ⟨_, .group hes hbefore he⟩)
  · exact .inr (.inl ⟨_, .shape ht hm⟩)

theorem refused_iff {f : Failure} {cause : Option Fault} :
    (ofDocument doc).outcome = .error (.failure f cause) ↔ Refused doc f ∧ cause = none := by
  constructor
  · intro h
    rcases ofDocument_or doc with ⟨i, hi⟩ | ⟨f', hf⟩ | ⟨b, hb⟩
    · rw [hi, expandReferences_outcome] at h
      cases h
    · rw [hf.ofDocument] at h
      cases h
      exact ⟨hf, rfl⟩
    · rw [hb.ofDocument] at h
      cases h
  · rintro ⟨hf, rfl⟩
    rw [hf.ofDocument]
    rfl

theorem Refused.kind {f : Failure} (h : Refused doc f) : f.kind = .inventory := by
  cases h with
  | port hg hd hl hv hp => cases hp <;> rfl
  | _ => rfl

end Inventory

end StateCheck
