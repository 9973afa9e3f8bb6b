import StateCheck.Device.Address
import StateCheck.Proofs.Except
import StateCheck.Proofs.Path.Elements

/-!
Which host and which port an address stands for, and which addresses lose a part when they are
split: those where a bracket at the front is not closed, or where something other than a port
follows it.
-/

namespace StateCheck

theorem Text.cutAt_of_not_mem {d : Char} {cs : List Char} (h : d ∉ cs) :
    Text.cutAt d cs = (cs, none) := by
  induction cs with
  | nil => rfl
  | cons c cs ih =>
    obtain ⟨hc, hcs⟩ := not_or.1 (List.mem_cons.not.1 h)
    rw [Text.cutAt, if_neg (Ne.symm hc), ih hcs]

namespace Device.Address

variable {host port rest : List Char} {address : String} {q : Int}

/-! ### Parts of an address -/

theorem parts_plain (hc : ':' ∉ host) (ho : host.head? ≠ some '[') : parts host = (host, []) := by
  unfold parts
  split
  · exact absurd rfl ho
  · rw [Text.cutAt_of_not_mem hc]

/-- Behind a host in front of the first colon, only a text without a further colon is a port. -/
theorem parts_colon (hc : ':' ∉ host) (ho : host.head? ≠ some '[') :
    parts (host ++ ':' :: port) =
      if port.contains ':' then (host ++ ':' :: port, []) else (host, port) := by
  have hcut : Text.cutAt ':' (host ++ ':' :: port) = (host, some port) :=
    Text.cutAt_eq_some_iff.2 ⟨rfl, hc⟩
  unfold parts
  split
  · next heq =>
    cases host with
    | nil => cases heq
    | cons c host =>
      cases heq
      exact absurd rfl ho
  · rw [hcut]

theorem parts_plain_port (hc : ':' ∉ host) (ho : host.head? ≠ some '[') (hp : ':' ∉ port) :
    parts (host ++ ':' :: port) = (host, port) := by
  rw [parts_colon hc ho, if_neg (by simpa using hp)]

/-- Behind a host in brackets only a colon leads to a port. -/
theorem parts_closed (hc : ']' ∉ host) (rest : List Char) :
    parts ('[' :: (host ++ ']' :: rest)) =
      (host, if rest.head? = some ':' then rest.tail else []) := by
  have hcut : Text.cutAt ']' (host ++ ']' :: rest) = (host, some rest) :=
    Text.cutAt_eq_some_iff.2 ⟨rfl, hc⟩
  simp only [parts, hcut]
  cases rest with
  | nil => rfl
  | cons c rest =>
    by_cases hcolon : c = ':'
    · subst hcolon
      rfl
    · simp [hcolon]

theorem parts_bracketed (hc : ']' ∉ host) : parts ('[' :: (host ++ [']'])) = (host, []) := by
  rw [parts_closed hc]
  rfl

theorem parts_bracketed_port (hc : ']' ∉ host) (port : List Char) :
    parts ('[' :: (host ++ ']' :: ':' :: port)) = (host, port) := by
  rw [parts_closed hc]
  rfl

theorem parts_unclosed (hc : ']' ∉ rest) : parts ('[' :: rest) = (rest.dropLast, []) := by
  simp only [parts, Text.cutAt_of_not_mem hc]

theorem split_of_parts_nil (h : parts address.toList = (host, [])) :
    split address q = .ok (String.ofList host, q) := by
  simp [split, h]

theorem split_of_parts {n : Int} (h : parts address.toList = (host, port)) (hne : port ≠ [])
    (hn : Numeral.readInt? port = some n) : split address q = .ok (String.ofList host, n) := by
  simp [split, h, hne, hn]

/-! ### Shapes of an address -/

/-- The address is a host, perhaps in brackets, without a port. -/
def Bare (address host : String) : Prop :=
  address = host ∨ address = host ++ ":" ∨ address = "[" ++ host ++ "]" ∨
    address = "[" ++ host ++ "]:"

/-- The address is a host, perhaps in brackets, in front of a port. -/
def WithPort (address host text : String) : Prop :=
  text ≠ "" ∧ (address = host ++ ":" ++ text ∨ address = "[" ++ host ++ "]:" ++ text)

/-- The host and the port are all that the address says, up to the default port. -/
def Spelled (q : Int) (address host : String) (port : Int) : Prop :=
  Bare address host ∧ port = q ∨
    ∃ text, WithPort address host text ∧ Numeral.readInt? text.toList = some port

/-- The text is the port of the address: it follows the only colon of a plain address, or the colon
behind a host in brackets. -/
inductive Ported (address host text : String) : Prop
  | plain (ha : address = host ++ ":" ++ text) (hc : ':' ∉ host.toList)
      (ho : host.toList.head? ≠ some '[') (hp : ':' ∉ text.toList)
  | bracketed (ha : address = "[" ++ host ++ "]:" ++ text) (hc : ']' ∉ host.toList)

/-- The bracket at the front of the address is not closed, and the last character is taken for the
other one; or what follows the closing bracket is no port. -/
inductive Torn (address host : String) : Prop
  | unclosed (rest : String) (ha : address = "[" ++ rest) (hc : ']' ∉ rest.toList)
      (hh : host.toList = rest.toList.dropLast)
  | trailing (rest : String) (ha : address = "[" ++ host ++ "]" ++ rest) (hc : ']' ∉ host.toList)
      (hne : rest ≠ "") (hp : rest.toList.head? ≠ some ':')

theorem Ported.parts {host text : String} (h : Ported address host text) :
    parts address.toList = (host.toList, text.toList) := by
  cases h with
  | plain ha hc ho hp =>
    have hlist : address.toList = host.toList ++ ':' :: text.toList := by simp [ha]
    rw [hlist, parts_plain_port hc ho hp]
  | bracketed ha hc =>
    have hlist : address.toList = '[' :: (host.toList ++ ']' :: ':' :: text.toList) := by simp [ha]
    rw [hlist, parts_bracketed_port hc]

theorem Torn.parts {host : String} (h : Torn address host) :
    parts address.toList = (host.toList, []) := by
  cases h with
  | unclosed rest ha hc hh =>
    have hlist : address.toList = '[' :: rest.toList := by simp [ha]
    rw [hlist, parts_unclosed hc, hh]
  | trailing rest ha hc hne hp =>
    have hlist : address.toList = '[' :: (host.toList ++ ']' :: rest.toList) := by simp [ha]
    rw [hlist, parts_closed hc, if_neg hp]

/-- The address has a port, or none, or is torn. -/
def Shaped (address : String) : Prop :=
  ∃ host text : String, parts address.toList = (host.toList, text.toList) ∧
    (text ≠ "" ∧ Ported address host text ∨
      text = "" ∧ (Bare address host ∨ Torn address host))

theorem Ported.shaped {host text : String} (h : Ported address host text)
    (hbare : text = "" → Bare address host) : Shaped address := by
  refine ⟨host, text, h.parts, ?_⟩
  by_cases htext : text = ""
  · exact .inr ⟨htext, .inl (hbare htext)⟩
  · exact .inl ⟨htext, h⟩

theorem shaped_open {rest : String} (ha : address = "[" ++ rest) : Shaped address := by
  by_cases hclose : ']' ∈ rest.toList
  · obtain ⟨host, tail, hrest, hc⟩ := List.eq_append_cons_of_mem hclose
    have hc : ']' ∉ (String.ofList host).toList := by simpa using hc
    have ha : address = "[" ++ String.ofList host ++ "]" ++ String.ofList tail :=
      String.toList_inj.1 (by simp [ha, hrest])
    cases tail with
    | nil =>
      have hlist : address.toList = '[' :: (host ++ [']']) := by simp [ha]
      refine ⟨String.ofList host, "", ?_, .inr ⟨rfl, .inl (.inr (.inr (.inl ?_)))⟩⟩
      · rw [hlist, parts_bracketed (by simpa using hc)]
        simp
      · simpa using ha
    | cons c tail =>
      by_cases hcolon : c = ':'
      · subst hcolon
        have ha : address = "[" ++ String.ofList host ++ "]:" ++ String.ofList tail :=
          String.toList_inj.1 (by simp [ha])
        refine (Ported.bracketed ha hc).shaped fun htext => .inr (.inr (.inr ?_))
        rw [ha, htext, String.append_empty]
      · have htorn : Torn address (String.ofList host) :=
          .trailing (String.ofList (c :: tail)) ha hc (by simp [String.ext_iff]) (by simpa using hcolon)
        exact ⟨_, "", htorn.parts, .inr ⟨rfl, .inr htorn⟩⟩
  · have htorn : Torn address (String.ofList rest.toList.dropLast) :=
      .unclosed rest ha hclose String.toList_ofList
    exact ⟨_, "", htorn.parts, .inr ⟨rfl, .inr htorn⟩⟩

theorem shaped_plain (ho : address.toList.head? ≠ some '[') : Shaped address := by
  by_cases hcolon : ':' ∈ address.toList
  · obtain ⟨host, port, hlist, hc⟩ := List.eq_append_cons_of_mem hcolon
    have hfront : host.head? ≠ some '[' := by
      intro h
      apply ho
      rw [hlist]
      cases host with
      | nil => cases h
      | cons c host => exact h
    by_cases hp : ':' ∈ port
    · -- With a second colon the whole address is the host.
      refine ⟨address, "", ?_, .inr ⟨rfl, .inl (.inl rfl)⟩⟩
      rw [hlist, parts_colon hc hfront, if_pos (by simpa using hp)]
      rfl
    · have ha : address = String.ofList host ++ ":" ++ String.ofList port :=
        String.toList_inj.1 (by simp [hlist])
      refine (Ported.plain ha (by simpa using hc) (by simpa using hfront)
        (by simpa using hp)).shaped fun htext => .inr (.inl ?_)
      rw [ha, htext, String.append_empty]
  · exact ⟨address, "", parts_plain hcolon ho, .inr ⟨rfl, .inl (.inl rfl)⟩⟩

theorem shaped (address : String) : Shaped address := by
  by_cases ho : address.toList.head? = some '['
  · cases hlist : address.toList with
    | nil => simp [hlist] at ho
    | cons c rest =>
      obtain rfl : c = '[' := by simpa [hlist] using ho
      have ha : address = "[" ++ String.ofList rest := String.toList_inj.1 (by simp [hlist])
      exact shaped_open ha
  · exact shaped_plain ho

/-! ### Torn addresses -/

/-- What may follow a host: nothing, or a colon with or without a port. -/
def Follows (rest : List Char) : Prop := rest = [] ∨ rest.head? = some ':'

theorem Bare.toList_cases {host : String} (h : Bare address host) :
    ∃ rest, Follows rest ∧ (address.toList = host.toList ++ rest ∨
      address.toList = '[' :: (host.toList ++ ']' :: rest)) := by
  obtain rfl | rfl | rfl | rfl := h
  · exact ⟨[], .inl rfl, .inl (List.append_nil _).symm⟩
  · exact ⟨[':'], .inr rfl, .inl (by simp)⟩
  · exact ⟨[], .inl rfl, .inr (by simp)⟩
  · exact ⟨[':'], .inr rfl, .inr (by simp)⟩

theorem WithPort.toList_cases {host text : String} (h : WithPort address host text) :
    ∃ rest, Follows rest ∧ (address.toList = host.toList ++ rest ∨
      address.toList = '[' :: (host.toList ++ ']' :: rest)) := by
  obtain ⟨-, rfl | rfl⟩ := h
  · exact ⟨':' :: text.toList, .inr rfl, .inl (by simp)⟩
  · exact ⟨':' :: text.toList, .inr rfl, .inr (by simp)⟩

theorem Torn.toList_eq {host : String} (h : Torn address host) :
    ∃ tail, address.toList = '[' :: (host.toList ++ tail) := by
  cases h with
  | unclosed rest ha hc hh =>
    obtain ⟨tail, htail⟩ := List.dropLast_prefix rest.toList
    exact ⟨tail, by simp [ha, hh, htail]⟩
  | trailing rest ha hc hne hp => exact ⟨']' :: rest.toList, by simp [ha]⟩

/-- The bracket at the front is no part of the host. -/
theorem Torn.plain_ne {host : String} (h : Torn address host) (hrest : Follows rest) :
    address.toList ≠ host.toList ++ rest := by
  intro hplain
  obtain ⟨tail, htail⟩ := h.toList_eq
  rw [hplain] at htail
  obtain rfl | hcolon := hrest
  · have hlength := congrArg List.length htail
    simp only [List.length_append, List.length_cons, List.length_nil] at hlength
    omega
  · cases rest with
    | nil => cases hcolon
    | cons c text =>
      obtain rfl : c = ':' := by simpa using hcolon
      have hfront : (host.toList ++ [':']) ++ text = ('[' :: host.toList) ++ tail := by
        simpa using htail
      -- The two fronts have the same length, but not the same number of colons.
      have hcolons := congrArg (List.count ':') (List.append_inj hfront (by simp)).1
      simp at hcolons

theorem Torn.closed_ne {host : String} (h : Torn address host) (hrest : Follows rest) :
    address.toList ≠ '[' :: (host.toList ++ ']' :: rest) := by
  intro hclosed
  cases h with
  | unclosed after ha hc hh =>
    apply hc
    have hafter : after.toList = host.toList ++ ']' :: rest := by simpa [ha] using hclosed
    simp [hafter]
  | trailing after ha hc hne hp =>
    have hafter : after.toList = rest := by simpa [ha] using hclosed
    obtain rfl | hcolon := hrest
    · exact hne (String.toList_inj.1 hafter)
    · exact hp (hafter ▸ hcolon)

theorem Torn.not_spelled {host : String} {port : Int} (h : Torn address host) :
    ¬Spelled q address host port := by
  intro hspelled
  have hcases : ∃ rest, Follows rest ∧ (address.toList = host.toList ++ rest ∨
      address.toList = '[' :: (host.toList ++ ']' :: rest)) := by
    obtain ⟨hbare, -⟩ | ⟨text, hport, -⟩ := hspelled
    · exact hbare.toList_cases
    · exact hport.toList_cases
  obtain ⟨rest, hrest, hplain | hclosed⟩ := hcases
  · exact h.plain_ne hrest hplain
  · exact h.closed_ne hrest hclosed

/-! ### Hosts and ports -/

/-- The failure that tells of a port that is no whole number. -/
def badPort (address text : String) : Failure :=
  (Failure.of .connect ("Invalid port '" ++ text ++ "'") []).on address

theorem Ported.split {host text : String} (h : Ported address host text) (hne : text ≠ "") :
    split address q = (Numeral.readInt? text.toList).elim (.error (badPort address text))
      fun port => .ok (host, port) := by
  have hempty : text.toList.isEmpty = false := by simpa using hne
  simp only [Address.split, h.parts, hempty, String.ofList_toList]
  cases Numeral.readInt? text.toList with
  | none => rfl
  | some port => rfl

theorem Torn.split {host : String} (h : Torn address host) : split address q = .ok (host, q) := by
  rw [split_of_parts_nil h.parts, String.ofList_toList]

/-- The two ways in which an address is split. -/
theorem split_cases (address : String) (q : Int) :
    (∃ host text, Ported address host text ∧ text ≠ "" ∧
      split address q = (Numeral.readInt? text.toList).elim (.error (badPort address text))
        fun port => .ok (host, port)) ∨
    ∃ host, (Bare address host ∨ Torn address host) ∧ split address q = .ok (host, q) := by
  obtain ⟨host, text, hparts, ⟨hne, hported⟩ | ⟨rfl, hshape⟩⟩ := shaped address
  · exact .inl ⟨host, text, hported, hne, hported.split hne⟩
  · refine .inr ⟨host, hshape, ?_⟩
    rw [split_of_parts_nil hparts, String.ofList_toList]

theorem Ported.withPort {host text : String} (h : Ported address host text) (hne : text ≠ "") :
    WithPort address host text := by
  cases h with
  | plain ha hc ho hp => exact ⟨hne, .inl ha⟩
  | bracketed ha hc => exact ⟨hne, .inr ha⟩

theorem spelled_or_torn {host : String} {port : Int} (h : split address q = .ok (host, port)) :
    Spelled q address host port ∨ Torn address host := by
  obtain ⟨host', text, hported, hne, hsplit⟩ | ⟨host', hshape, hsplit⟩ := split_cases address q
  · rw [h] at hsplit
    cases hread : Numeral.readInt? text.toList with
    | none =>
      rw [hread] at hsplit
      cases hsplit
    | some n =>
      rw [hread] at hsplit
      cases hsplit
      exact .inl (.inr ⟨text, hported.withPort hne, hread⟩)
  · cases h.symm.trans hsplit
    exact hshape.imp (fun hbare => .inl ⟨hbare, rfl⟩) id

/-- Splitting an address leaves nothing of it out unless it is torn; then a character or all that
follows the bracket is lost, and the default port counts. A text in the place of the port is the
port, if it is a whole number; else there is a failure to connect, and nothing else leads to one. -/
theorem split_outcome (address : String) (q : Int) :
    (∀ host port, split address q = .ok (host, port) →
      (Spelled q address host port ↔ ¬∃ host, Torn address host) ∧
      ∀ host', Torn address host' → host = host' ∧ port = q) ∧
    (∀ host text, Ported address host text → text ≠ "" →
      split address q = (Numeral.readInt? text.toList).elim (.error (badPort address text))
        fun port => .ok (host, port)) ∧
    ∀ f, split address q = .error f → ∃ host text, Ported address host text ∧ text ≠ "" ∧
      Numeral.readInt? text.toList = none ∧ f = badPort address text := by
  refine ⟨fun host port hsplit => ?_, fun host text h hne => h.split hne, fun f hsplit => ?_⟩
  · have htorn : ∀ host', Torn address host' → host = host' ∧ port = q := by
      intro host' h
      cases hsplit.symm.trans h.split
      exact ⟨rfl, rfl⟩
    refine ⟨⟨?_, fun hnone => ?_⟩, htorn⟩
    · rintro hspelled ⟨host', h⟩
      obtain ⟨rfl, rfl⟩ := htorn host' h
      exact h.not_spelled hspelled
    · exact (spelled_or_torn hsplit).resolve_right fun h => hnone ⟨host, h⟩
  · obtain ⟨host, text, hported, hne, h⟩ | ⟨host, -, h⟩ := split_cases address q
    · refine ⟨host, text, hported, hne, ?_⟩
      rw [hsplit] at h
      cases hread : Numeral.readInt? text.toList with
      | none =>
        rw [hread] at h
        exact ⟨rfl, Except.error.inj h⟩
      | some n =>
        rw [hread] at h
        cases h
    · cases hsplit.symm.trans h

/-- A host in brackets with a port whose digits are grouped, an address without a number in the
place of the port, and one with a text behind the bracket. -/
theorem split_outcome_bracketed :
    (Ported "[::1]:57_400" "::1" "57_400" ∧ "57_400" ≠ "" ∧
      split "[::1]:57_400" standardPort = .ok ("::1", 57400) ∧
      Spelled standardPort "[::1]:57_400" "::1" 57400) ∧
    (Ported "r:x" "r" "x" ∧ "x" ≠ "" ∧ split "r:x" standardPort = .error (badPort "r:x" "x") ∧
      ∃ host text, Ported "r:x" host text ∧ Numeral.readInt? text.toList = none) ∧
    Torn "[r]x" "r" ∧ split "[r]x" standardPort = .ok ("r", standardPort) ∧
      ¬Spelled standardPort "[r]x" "r" standardPort := by
  refine ⟨?_, ?_, ?_⟩
  · obtain ⟨hwhole, hread, -⟩ := split_outcome "[::1]:57_400" standardPort
    have hported : Ported "[::1]:57_400" "::1" "57_400" := .bracketed (by decide) (by decide)
    have hnumber : Numeral.readInt? "57_400".toList = some 57400 := by decide +kernel
    have hsplit := hread "::1" "57_400" hported (by decide)
    rw [hnumber] at hsplit
    refine ⟨hported, by decide, hsplit, (hwhole _ _ hsplit).1.2 ?_⟩
    rintro ⟨host, h⟩
    have hparts := h.parts.symm.trans hported.parts
    cases congrArg Prod.snd hparts
  · obtain ⟨-, hread, hfails⟩ := split_outcome "r:x" standardPort
    have hported : Ported "r:x" "r" "x" := .plain (by decide) (by decide) (by decide) (by decide)
    have hnumber : Numeral.readInt? "x".toList = none := by decide +kernel
    have hsplit := hread "r" "x" hported (by decide)
    rw [hnumber] at hsplit
    obtain ⟨host, text, hother, -, hnone, -⟩ := hfails _ hsplit
    exact ⟨hported, by decide, hsplit, host, text, hother, hnone⟩
  · have htorn : Torn "[r]x" "r" := .trailing "x" (by decide) (by decide) (by decide) (by decide)
    have hsplit : split "[r]x" standardPort = .ok ("r", standardPort) := by
      rw [← toOption_eq_some_iff]
      decide +kernel
    have hwhole := (split_outcome "[r]x" standardPort).1 _ _ hsplit
    exact ⟨htorn, hsplit, fun hspelled => hwhole.1.1 hspelled ⟨"r", htorn⟩⟩

/-- A bracket that is not closed takes the last character with it. -/
theorem split_unclosed : split "[::1" standardPort = .ok ("::", standardPort) ∧
    ¬Spelled standardPort "[::1" "::" standardPort := by
  have htorn : Torn "[::1" "::" := .unclosed "::1" (by decide) (by decide) (by decide)
  exact ⟨htorn.split, htorn.not_spelled⟩

end Device.Address

end StateCheck
