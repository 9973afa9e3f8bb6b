import StateCheck.Json.Writer
import StateCheck.Proofs.Json.Grammar

/-!
Strings of JSON texts: what stands between two quotes is read as the characters that it stands for,
and the characters that are written between quotes stand for those of the string.
-/

namespace StateCheck.Json

open StateCheck.Text

variable {cs rest u text : List Char} {c e : Char} {n low high fuel : Nat}

/-! ### Units -/

theorem readUnit_of_codeUnit (h : CodeUnit u n) (cs : List Char) :
    readUnit (u ++ cs) = some (n, cs) := by
  cases h with
  | mk ha hb hc hd => simp [readUnit, ha, hb, hc, hd]

theorem codeUnit_of_readUnit (h : readUnit cs = some (n, rest)) :
    ∃ u, cs = u ++ rest ∧ CodeUnit u n := by
  unfold readUnit at h
  split at h
  · next a b c d cs =>
    simp only [Option.bind_eq_bind, Option.bind_eq_some_iff] at h
    obtain ⟨i, ha, j, hb, k, hc, l, hd, h⟩ := h
    cases h
    exact ⟨[a, b, c, d], rfl, .mk ha hb hc hd⟩
  · cases h

/-- An escaped unit is read alone, unless it is the first half of a pair and more is escaped. -/
theorem readEscapedUnit_alone (hu : CodeUnit u n)
    (h : isHighUnit n = true → ∀ cs', cs ≠ '\\' :: 'u' :: cs') :
    readEscapedUnit (u ++ cs) = some (unitChar n, cs) := by
  rw [readEscapedUnit, readUnit_of_codeUnit hu]
  dsimp only [Option.bind_eq_bind, Option.bind_some]
  split
  · next cs' =>
    by_cases hhigh : isHighUnit n = true
    · exact absurd rfl (h hhigh cs')
    · rw [if_neg hhigh]
  · rfl

theorem readEscapedUnit_pair (hu : CodeUnit u n) (hhigh : isHighUnit n = true) {u' : List Char}
    (hu' : CodeUnit u' low) (cs : List Char) :
    readEscapedUnit (u ++ '\\' :: 'u' :: (u' ++ cs)) =
      if isLowUnit low then some (pairChar n low, cs)
      else some (unitChar n, '\\' :: 'u' :: (u' ++ cs)) := by
  rw [readEscapedUnit, readUnit_of_codeUnit hu]
  simp only [Option.bind_eq_bind, Option.bind_some, hhigh, if_true, readUnit_of_codeUnit hu']

/-- What is read behind the letter of an escaped unit. -/
theorem escapedUnit_cases (h : readEscapedUnit cs = some (c, rest)) :
    (∃ u n, cs = u ++ rest ∧ CodeUnit u n ∧ c = unitChar n ∧
      (isHighUnit n = true → ¬StartsLow rest)) ∨
    ∃ u u' high low, cs = u ++ '\\' :: 'u' :: (u' ++ rest) ∧ CodeUnit u high ∧
      isHighUnit high = true ∧ CodeUnit u' low ∧ isLowUnit low = true ∧ c = pairChar high low := by
  rw [readEscapedUnit] at h
  obtain ⟨⟨n, behind⟩, hunit, hchar⟩ := Option.bind_eq_some_iff.1 h
  obtain ⟨u, rfl, hu⟩ := codeUnit_of_readUnit hunit
  dsimp only at hchar
  split at hchar
  · next rest' =>
    by_cases hhigh : isHighUnit n = true
    · rw [if_pos hhigh] at hchar
      split at hchar
      · next low rest'' hread =>
        obtain ⟨u', rfl, hu'⟩ := codeUnit_of_readUnit hread
        by_cases hlow : isLowUnit low = true
        · rw [if_pos hlow] at hchar
          obtain ⟨hc, rfl⟩ := Prod.mk.inj (Option.some.inj hchar)
          exact .inr ⟨u, u', n, low, rfl, hu, hhigh, hu', hlow, hc.symm⟩
        · rw [if_neg hlow] at hchar
          cases hchar
          refine .inl ⟨u, n, rfl, hu, rfl, fun _ hstarts => ?_⟩
          -- The unit that follows is no second half, and no other unit can be read there.
          obtain ⟨u'', low', tail, heq, hu'', hlow'⟩ := hstarts
          have hsame : u' ++ rest'' = u'' ++ tail := by simpa using heq
          rw [hsame, readUnit_of_codeUnit hu''] at hread
          cases hread
          exact hlow hlow'
      · cases hchar
    · rw [if_neg hhigh] at hchar
      cases hchar
      exact .inl ⟨u, n, rfl, hu, rfl, fun hn => absurd hn hhigh⟩
  · next hother =>
    cases hchar
    refine .inl ⟨u, n, rfl, hu, rfl, fun _ hstarts => ?_⟩
    obtain ⟨u', low, tail, rfl, -⟩ := hstarts
    exact hother _ rfl

/-! ### Reading -/

theorem readText_quote (fuel : Nat) (cs : List Char) :
    readText (fuel + 1) ('"' :: cs) = some ([], cs) := by
  rw [readText]

theorem readText_unit (fuel : Nat) (cs : List Char) :
    readText (fuel + 1) ('\\' :: 'u' :: cs) = (readEscapedUnit cs).bind fun p =>
      (readText fuel p.2).map fun q => (p.1 :: q.1, q.2) := by
  rw [readText]
  cases readEscapedUnit cs with
  | none => rfl
  | some p =>
    obtain ⟨c, behind⟩ := p
    dsimp only [Option.bind_eq_bind, Option.bind_some]
    cases readText fuel behind <;> rfl

theorem readText_escape (he : simpleEscape? e = some c) (fuel : Nat) (cs : List Char) :
    readText (fuel + 1) ('\\' :: e :: cs) =
      (readText fuel cs).map fun q => (c :: q.1, q.2) := by
  have hu : e ≠ 'u' := by
    rintro rfl
    cases he
  rw [readText, he]
  · cases readText fuel cs <;> rfl
  · exact hu

theorem readText_plain (hquote : c ≠ '"') (hslash : c ≠ '\\') (hcontrol : 32 ≤ c.toNat)
    (fuel : Nat) (cs : List Char) :
    readText (fuel + 1) (c :: cs) = (readText fuel cs).map fun q => (c :: q.1, q.2) := by
  have hplain : ¬(c = '\\' ∨ c.toNat < 32) := by
    rw [not_or]
    exact ⟨hslash, Nat.not_lt.2 hcontrol⟩
  rw [readText, if_neg hplain]
  · cases readText fuel cs <;> rfl
  · exact hquote
  · rintro cs' rfl
    exact absurd rfl hslash
  · rintro e cs' rfl
    exact absurd rfl hslash

/-- Between quotes, whatever is escaped with the letter of units is a unit. -/
theorem Quoted.unit_cases (h : Quoted cs text) :
    (∀ rest cs', cs ++ '"' :: rest ≠ '\\' :: 'u' :: cs') ∨
      ∃ u n tail, cs = '\\' :: 'u' :: (u ++ tail) ∧ CodeUnit u n := by
  cases h with
  | nil => exact .inl fun rest cs' => by simp
  | plain _ hslash => exact .inl fun rest cs' => by simp [hslash]
  | escape he =>
    refine .inl fun rest cs' heq => ?_
    simp only [List.cons_append, List.cons.injEq, true_and] at heq
    rw [heq.1] at he
    cases he
  | unit hu => exact .inr ⟨_, _, _, rfl, hu⟩
  | pair hu => exact .inr ⟨_, _, _, rfl, hu⟩

theorem readEscapedUnit_of_quoted (h : Quoted cs text) (hu : CodeUnit u n)
    (halone : isHighUnit n = true → ¬StartsLow cs) (rest : List Char) :
    readEscapedUnit (u ++ (cs ++ '"' :: rest)) = some (unitChar n, cs ++ '"' :: rest) := by
  by_cases hhigh : isHighUnit n = true
  · rcases h.unit_cases with hplain | ⟨u', low, tail, rfl, hu'⟩
    · exact readEscapedUnit_alone hu fun _ => hplain rest
    · have hlow : ¬isLowUnit low = true := fun hlow =>
        halone hhigh ⟨u', low, tail, rfl, hu', hlow⟩
      simp only [List.cons_append, List.append_assoc]
      rw [readEscapedUnit_pair hu hhigh hu', if_neg hlow]
  · exact readEscapedUnit_alone hu fun hn => absurd hn hhigh

/-- Each character takes one unit of fuel and at least one character of the text. -/
theorem readText_of_quoted (h : Quoted cs text) (hfuel : cs.length < fuel) (rest : List Char) :
    readText fuel (cs ++ '"' :: rest) = some (text, rest) := by
  induction h generalizing fuel with
  | nil =>
    obtain ⟨fuel, rfl⟩ := Nat.exists_eq_add_one.2 (Nat.zero_lt_of_lt hfuel)
    exact readText_quote fuel rest
  | plain hquote hslash hcontrol tail ih =>
    obtain ⟨fuel, rfl⟩ := Nat.exists_eq_add_one.2 (Nat.zero_lt_of_lt hfuel)
    simp only [List.length_cons] at hfuel
    rw [List.cons_append, readText_plain hquote hslash hcontrol, ih (by omega)]
    rfl
  | escape he tail ih =>
    obtain ⟨fuel, rfl⟩ := Nat.exists_eq_add_one.2 (Nat.zero_lt_of_lt hfuel)
    simp only [List.length_cons] at hfuel
    rw [List.cons_append, List.cons_append, readText_escape he, ih (by omega)]
    rfl
  | unit hu halone tail ih =>
    obtain ⟨fuel, rfl⟩ := Nat.exists_eq_add_one.2 (Nat.zero_lt_of_lt hfuel)
    simp only [List.length_cons, List.length_append] at hfuel
    simp only [List.cons_append, List.append_assoc]
    rw [readText_unit, readEscapedUnit_of_quoted tail hu halone, Option.bind_some, ih (by omega)]
    rfl
  | pair hu hhigh hu' hlow tail ih =>
    obtain ⟨fuel, rfl⟩ := Nat.exists_eq_add_one.2 (Nat.zero_lt_of_lt hfuel)
    simp only [List.length_cons, List.length_append] at hfuel
    simp only [List.cons_append, List.append_assoc]
    rw [readText_unit, readEscapedUnit_pair hu hhigh hu', if_pos hlow, Option.bind_some,
      ih (by omega), Option.map_some]

theorem quoted_of_readText (h : readText fuel cs = some (text, rest)) :
    ∃ w, cs = w ++ '"' :: rest ∧ Quoted w text := by
  fun_induction readText fuel cs generalizing text rest with
  | case1 | case2 => cases h
  | case3 fuel cs =>
    cases h
    exact ⟨[], rfl, .nil⟩
  | case4 fuel cs ih =>
    simp only [Option.bind_eq_bind, Option.bind_eq_some_iff] at h
    obtain ⟨⟨c, behind⟩, hunit, ⟨text', rest'⟩, htext, h⟩ := h
    cases h
    obtain ⟨w, rfl, hw⟩ := ih _ htext
    rcases escapedUnit_cases hunit with
      ⟨u, n, rfl, hu, rfl, halone⟩ | ⟨u, u', high, low, rfl, hu, hhigh, hu', hlow, hc⟩
    · refine ⟨_, ?_, .unit hu (fun hn hstarts => halone hn ?_) hw⟩
      · simp
      · obtain ⟨u', low, tail, rfl, hu', hlow⟩ := hstarts
        exact ⟨u', low, tail ++ '"' :: rest', by simp, hu', hlow⟩
    · have hpair := Quoted.pair hu hhigh hu' hlow hw
      rw [← hc] at hpair
      refine ⟨_, ?_, hpair⟩
      simp
  | case5 fuel e cs hu ih =>
    simp only [Option.bind_eq_bind, Option.bind_eq_some_iff] at h
    obtain ⟨c, he, ⟨text', rest'⟩, htext, h⟩ := h
    cases h
    obtain ⟨w, rfl, hw⟩ := ih htext
    exact ⟨'\\' :: e :: w, rfl, .escape he hw⟩
  | case6 => cases h
  | case7 fuel c cs hquote _ _ hplain ih =>
    simp only [Option.bind_eq_bind, Option.bind_eq_some_iff] at h
    obtain ⟨⟨text', rest'⟩, htext, h⟩ := h
    cases h
    obtain ⟨w, rfl, hw⟩ := ih htext
    obtain ⟨hslash, hcontrol⟩ := not_or.1 hplain
    exact ⟨c :: w, rfl, .plain hquote hslash (Nat.not_lt.1 hcontrol) hw⟩

theorem readString_of_quoted (h : Quoted cs text) (hfuel : cs.length < fuel) (rest : List Char) :
    readString fuel (cs ++ '"' :: rest) = some (String.ofList text, rest) := by
  rw [readString, readText_of_quoted h hfuel]
  rfl

theorem quoted_of_readString {s : String} (h : readString fuel cs = some (s, rest)) :
    ∃ w text, cs = w ++ '"' :: rest ∧ Quoted w text ∧ s = String.ofList text := by
  rw [readString] at h
  obtain ⟨⟨text, rest'⟩, htext, h⟩ := Option.bind_eq_some_iff.1 h
  cases h
  obtain ⟨w, hw, hquoted⟩ := quoted_of_readText htext
  exact ⟨w, text, hw, hquoted, rfl⟩

/-! ### Writing -/

theorem hexValue_digitChar : ∀ n < 16, hexValue? (digitChar n) = some n := by decide

theorem codeUnit_hexadecimal (h : n < 0x10000) : CodeUnit (hexadecimal 4 n) n := by
  have hdigit (m : Nat) : hexValue? (digitChar (m % 16)) = some (m % 16) :=
    hexValue_digitChar _ (Nat.mod_lt _ (by decide))
  have hunit := CodeUnit.mk (hdigit (n / 16 / 16 / 16)) (hdigit (n / 16 / 16)) (hdigit (n / 16))
    (hdigit n)
  have hvalue : ((n / 16 / 16 / 16 % 16 * 16 + n / 16 / 16 % 16) * 16 + n / 16 % 16) * 16 +
      n % 16 = n := by omega
  rwa [hvalue] at hunit

theorem isScalar_toNat (c : Char) : c.toNat < 0xD800 ∨ 0xDFFF < c.toNat ∧ c.toNat < 0x110000 :=
  c.valid

theorem not_half_toNat (c : Char) : isHighUnit c.toNat = false ∧ isLowUnit c.toNat = false := by
  have hscalar := isScalar_toNat c
  simp only [isHighUnit, isLowUnit, Bool.and_eq_false_iff, decide_eq_false_iff_not]
  omega

theorem unitChar_toNat (c : Char) : unitChar c.toNat = c := by
  obtain ⟨hhigh, hlow⟩ := not_half_toNat c
  rw [unitChar, hhigh, hlow]
  exact Char.ofNat_toNat c

/-- A character beyond the range of one unit is made of the two halves that are written for it. -/
theorem pairChar_halves (h : 0x10000 ≤ c.toNat) :
    pairChar (0xD800 + (c.toNat - 0x10000) / 0x400) (0xDC00 + (c.toNat - 0x10000) % 0x400) = c := by
  have hvalue : 0x10000 + (0xD800 + (c.toNat - 0x10000) / 0x400 - 0xD800) * 0x400 +
      (0xDC00 + (c.toNat - 0x10000) % 0x400 - 0xDC00) = c.toNat := by omega
  rw [pairChar, hvalue]
  exact Char.ofNat_toNat c

/-- All ways in which a character is written. -/
theorem escaped_cases (c : Char) :
    (∃ e, escaped c = ['\\', e] ∧ simpleEscape? e = some c) ∨
    (escaped c = [c] ∧ c ≠ '"' ∧ c ≠ '\\' ∧ 32 ≤ c.toNat) ∨
    (escaped c = escapedUnit c.toNat ∧ c.toNat < 0x10000) ∨
    (escaped c = escapedUnit (0xD800 + (c.toNat - 0x10000) / 0x400) ++
      escapedUnit (0xDC00 + (c.toNat - 0x10000) % 0x400) ∧ 0x10000 ≤ c.toNat) := by
  by_cases hmem : c ∈ ['"', '\\', '\n', '\r', '\t', '\x08', '\x0c']
  · simp only [List.mem_cons, List.not_mem_nil, or_false] at hmem
    rcases hmem with rfl | rfl | rfl | rfl | rfl | rfl | rfl <;> exact .inl ⟨_, rfl, rfl⟩
  · simp only [List.mem_cons, List.not_mem_nil, or_false, not_or] at hmem
    obtain ⟨hquote, hslash, hnewline, hreturn, htab, hback, hfeed⟩ := hmem
    have hback' : c.toNat ≠ 8 := fun h => hback (Char.toNat_inj.1 h)
    have hfeed' : c.toNat ≠ 12 := fun h => hfeed (Char.toNat_inj.1 h)
    simp only [escaped, hquote, hslash, hnewline, hreturn, htab, hback', hfeed', if_false]
    by_cases hprint : 32 ≤ c.toNat ∧ c.toNat ≤ 126
    · exact .inr (.inl ⟨if_pos (by simpa using hprint), hquote, hslash, hprint.1⟩)
    rw [if_neg (by simpa using hprint)]
    by_cases hunit : c.toNat < 0x10000
    · exact .inr (.inr (.inl ⟨if_pos hunit, hunit⟩))
    · exact .inr (.inr (.inr ⟨if_neg hunit, Nat.not_lt.1 hunit⟩))

theorem quoted_escaped_append (c : Char) (tail : Quoted cs text) :
    Quoted (escaped c ++ cs) (c :: text) := by
  have hscalar := isScalar_toNat c
  rcases escaped_cases c with
    ⟨e, heq, he⟩ | ⟨heq, hquote, hslash, hcontrol⟩ | ⟨heq, hsmall⟩ | ⟨heq, hlarge⟩
  · rw [heq]
    exact .escape he tail
  · rw [heq]
    exact .plain hquote hslash hcontrol tail
  · have hunit := Quoted.unit (codeUnit_hexadecimal hsmall)
      (fun hhigh => absurd hhigh (by simp [not_half_toNat c])) tail
    rw [unitChar_toNat] at hunit
    rwa [heq]
  · have hpair := Quoted.pair
      (codeUnit_hexadecimal (n := 0xD800 + (c.toNat - 0x10000) / 0x400) (by omega))
      (by simp only [isHighUnit, Bool.and_eq_true, decide_eq_true_eq]; omega)
      (codeUnit_hexadecimal (n := 0xDC00 + (c.toNat - 0x10000) % 0x400) (by omega))
      (by simp only [isLowUnit, Bool.and_eq_true, decide_eq_true_eq]; omega) tail
    rw [pairChar_halves hlarge] at hpair
    simpa [heq, escapedUnit] using hpair

theorem quoted_flatMap_escaped (text : List Char) : Quoted (text.flatMap escaped) text := by
  induction text with
  | nil => exact .nil
  | cons c text ih =>
    rw [List.flatMap_cons]
    exact quoted_escaped_append c ih

end StateCheck.Json
