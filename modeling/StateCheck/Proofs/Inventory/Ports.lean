import StateCheck.Device.Client
import StateCheck.Inventory.Basic
import StateCheck.Proofs.Device.Address
import StateCheck.Proofs.Number.Reading

/-!
The default port of an inventory: for which members it is the port at which a session is opened.
-/

namespace StateCheck

namespace Device.Address

variable {address : String}

/-- Whatever library is installed, a client of the address asks it for a session there. -/
def OpensAt (address host : String) (port : Int) : Prop :=
  ∀ (lib : Library) (c : Client), lib.installed = true → c.connection.address = address →
    (c.connect lib).calls.head? = some (.make c.made host port c.connection)

theorem opensAt_of_split {host : String} {port : Int}
    (h : split address standardPort = .ok (host, port)) : OpensAt address host port := by
  rintro lib c hinstalled rfl
  unfold Client.connect
  rw [h]
  dsimp only
  rw [hinstalled]
  simp only [Bool.not_true, Bool.false_eq_true, if_false]
  cases lib.makeFault with
  | some e => rfl
  | none => cases lib.openFault <;> rfl

end Device.Address

namespace Inventory

open Device

variable {d : Defaults} {member host : String} {q : Int}

/-! ### Members without a port -/

/-- A member without a port, and its host: a plain host, or one in brackets, which may hold
colons. -/
inductive Portless : (member host : String) → Prop
  | plain {host : String} (hc : ':' ∉ host.toList) (ho : host.toList.head? ≠ some '[') :
    Portless host host
  | bracketed {host : String} (hc : ']' ∉ host.toList) : Portless ("[" ++ host ++ "]") host

theorem Portless.split (h : Portless member host) : Address.split member q = .ok (host, q) := by
  cases h with
  | plain hc ho =>
    rw [Address.split_of_parts_nil (Address.parts_plain hc ho), String.ofList_toList]
  | bracketed hc =>
    have hlist : ("[" ++ host ++ "]").toList = '[' :: (host.toList ++ [']']) := by simp
    rw [Address.split_of_parts_nil (hlist ▸ Address.parts_bracketed hc), String.ofList_toList]

theorem Defaults.address_of_mem (h : ':' ∈ member.toList) : d.address member = member := by
  simp [address, h]

theorem Defaults.toList_address (hport : d.port ≠ 0) (h : ':' ∉ member.toList) :
    (d.address member).toList = member.toList ++ ':' :: Text.decimalInt d.port := by
  simp [address, hport, h]

theorem colon_not_mem_decimal (n : Nat) : ':' ∉ Text.decimal n := by
  intro hm
  have hdigit := Text.isDigit_of_mem_decimal hm
  exact absurd hdigit (by decide)

/-- A port is read from its decimal text. -/
theorem readInt?_port {port : Int} (h : 1 ≤ port ∧ port ≤ 65535) :
    ∃ n : Nat, Text.decimalInt port = Text.decimal n ∧
      Numeral.readInt? (Text.decimal n) = some port := by
  obtain ⟨n, rfl⟩ := Int.eq_ofNat_of_zero_le (by omega : 0 ≤ port)
  have hlength : (Text.decimal n).length ≤ 5 := Text.length_decimal_le (by omega) (by decide)
  refine ⟨n, rfl, Numeral.readInt?_decimal (hlength.trans (by decide))⟩

theorem Portless.split_address (hp : 1 ≤ d.port ∧ d.port ≤ 65535) (h : Portless member host) :
    Address.split (d.address member) q =
      .ok (host, if ':' ∈ host.toList then q else d.port) := by
  have hport : d.port ≠ 0 := by omega
  obtain ⟨n, htext, hread⟩ := readInt?_port hp
  have hne := Text.decimal_ne_nil n
  cases h with
  | plain hc ho =>
    have hlist := Defaults.toList_address hport hc
    rw [htext] at hlist
    have hparts := Address.parts_plain_port hc ho (colon_not_mem_decimal n)
    rw [Address.split_of_parts (hlist ▸ hparts) hne hread, if_neg hc, String.ofList_toList]
  | bracketed hc =>
    by_cases hcolon : ':' ∈ host.toList
    · rw [Defaults.address_of_mem (by simp [hcolon]), (Portless.bracketed hc).split, if_pos hcolon]
    · have hmember : ':' ∉ ("[" ++ host ++ "]").toList := by simp [hcolon]
      have hlist := Defaults.toList_address hport hmember
      have hshape : (d.address ("[" ++ host ++ "]")).toList =
          '[' :: (host.toList ++ ']' :: ':' :: Text.decimal n) := by simp [hlist, htext]
      have hparts := Address.parts_bracketed_port hc (Text.decimal n)
      rw [Address.split_of_parts (hshape ▸ hparts) hne hread, if_neg hcolon,
        String.ofList_toList]

/-! ### The port of a session -/

/-- A session to a member without a port is opened at its host, and at the default port of the
inventory unless the host has a colon in it; then the standard port takes its place. So the default
port counts exactly for hosts without a colon, if it is not the standard one. A member with a port
is left as it is. -/
theorem opensAt_address (i : Inventory) (hp : 1 ≤ i.defaults.port ∧ i.defaults.port ≤ 65535) :
    (∀ member host, Portless member host →
      Address.split member Address.standardPort = .ok (host, Address.standardPort) ∧
      (∃ port, Address.split (i.defaults.address member) Address.standardPort = .ok (host, port) ∧
        Address.OpensAt (i.defaults.address member) host port ∧
        port = if ':' ∈ host.toList then Address.standardPort else i.defaults.port) ∧
      (Address.split (i.defaults.address member) Address.standardPort =
          .ok (host, i.defaults.port) ↔
        ':' ∉ host.toList ∨ i.defaults.port = Address.standardPort)) ∧
    ∀ member, ':' ∈ member.toList →
      Address.split (i.defaults.address member) Address.standardPort =
        Address.split member Address.standardPort := by
  refine ⟨fun member host h => ?_, fun member h => by rw [Defaults.address_of_mem h]⟩
  have hsplit := h.split_address (q := Address.standardPort) hp
  refine ⟨h.split, ⟨_, hsplit, Address.opensAt_of_split hsplit, rfl⟩, ?_⟩
  rw [hsplit]
  by_cases hcolon : ':' ∈ host.toList <;> simp [hcolon, eq_comm]

/-- An inventory with a default port. -/
def offset : Inventory := ⟨.empty, ⟨⟨"", "", false⟩, 57400⟩, none⟩

theorem opensAt_address_leaf : (1 ≤ offset.defaults.port ∧ offset.defaults.port ≤ 65535) ∧
    Portless "leaf" "leaf" ∧ ':' ∈ "leaf:1".toList ∧
    Address.split (offset.defaults.address "leaf") Address.standardPort = .ok ("leaf", 57400) ∧
    Address.OpensAt (offset.defaults.address "leaf") "leaf" 57400 ∧
    Address.split (offset.defaults.address "leaf:1") Address.standardPort = .ok ("leaf", 1) := by
  have hp : 1 ≤ offset.defaults.port ∧ offset.defaults.port ≤ 65535 := by decide
  have hplain : Portless "leaf" "leaf" := .plain (by decide) (by decide)
  obtain ⟨hportless, hgiven⟩ := opensAt_address offset hp
  obtain ⟨-, ⟨port, hsplit, hopens, hport⟩, -⟩ := hportless "leaf" "leaf" hplain
  obtain rfl : port = 57400 := hport
  refine ⟨hp, hplain, by decide, hsplit, hopens, ?_⟩
  rw [hgiven "leaf:1" (by decide), ← toOption_eq_some_iff]
  decide +kernel

/-- The default port is lost to a host in brackets that has a colon in it. -/
theorem default_port_lost : Portless "[::1]" "::1" ∧
    Address.split (offset.defaults.address "[::1]") Address.standardPort = .ok ("::1", 6030) ∧
    Address.split (offset.defaults.address "[::1]") Address.standardPort ≠
      .ok ("::1", offset.defaults.port) := by
  have hsplit : Address.split (offset.defaults.address "[::1]") Address.standardPort =
      .ok ("::1", 6030) := by
    rw [← toOption_eq_some_iff]
    decide +kernel
  have hclose : ']' ∉ "::1".toList := by decide
  refine ⟨.bracketed hclose, hsplit, ?_⟩
  rw [hsplit]
  intro h
  cases h

end Inventory

end StateCheck
