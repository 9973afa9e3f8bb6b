import StateCheck.Proofs.Json.Numbers
import StateCheck.Proofs.Json.Strings

/-!
Which texts are read, and as which values: exactly those that the grammar has, each as the value
that it spells.
-/

namespace StateCheck.Json

variable {cs cs' rest behind s t w : List Char} {c : Char} {k : String} {v : Value}
  {vs : List Value} {ms : List (String × Value)} {p : Part} {fuel : Nat}

/-! ### Gaps -/

theorem gap_nil : Gap [] := fun _ h => absurd h List.not_mem_nil

theorem Gap.append (hs : Gap s) (ht : Gap t) : Gap (s ++ t) :=
  List.forall_mem_append.2 ⟨hs, ht⟩

theorem skipSpace_append (hs : Gap s) (cs : List Char) : skipSpace (s ++ cs) = skipSpace cs :=
  List.dropWhile_append_of_pos hs

theorem skipSpace_cons (hc : isSpace c = false) (cs : List Char) :
    skipSpace (c :: cs) = c :: cs := by
  rw [skipSpace, List.dropWhile_cons, hc]
  rfl

theorem gap_skipSpace (cs : List Char) : ∃ s, cs = s ++ skipSpace cs ∧ Gap s :=
  ⟨cs.takeWhile isSpace, List.takeWhile_append_dropWhile.symm,
    fun _ hc => List.mem_takeWhile_imp hc⟩

/-- A gap may be made longer in front of everything but a value. -/
theorem Spells.gap (h : Spells cs p) (hp : ∀ v, p ≠ .value v) (hs : Gap s) :
    Spells (s ++ cs) p := by
  induction h with
  | element hs' hw ht =>
    rw [← List.append_assoc]
    exact .element (hs.append hs') hw ht
  | lastElement _ ih => exact .lastElement (ih nofun)
  | elements _ htail ih =>
    rw [← List.append_assoc]
    exact .elements (ih nofun) htail
  | member hs' hk ht hv =>
    rw [← List.append_assoc]
    exact .member (hs.append hs') hk ht hv
  | lastMember _ ih => exact .lastMember (ih nofun)
  | members _ htail ih =>
    rw [← List.append_assoc]
    exact .members (ih nofun) htail
  | _ => exact absurd rfl (hp _)

/-! ### Ends -/

/-- Nothing follows, or else what separates or closes the parts of an array or an object. -/
def Ends (rest : List Char) : Prop := ∀ c ∈ rest.head?, c = ',' ∨ c = ']' ∨ c = '}'

theorem skipSpace_of_ends (h : Ends rest) : skipSpace rest = rest := by
  cases rest with
  | nil => rfl
  | cons c rest =>
    apply skipSpace_cons
    rcases h c rfl with rfl | rfl | rfl <;> decide

theorem stops_of_ends (ht : Gap t) (h : Ends rest) : Stops (t ++ rest) := by
  intro c hc
  cases t with
  | nil => rcases h c hc with rfl | rfl | rfl <;> decide
  | cons d t =>
    cases hc
    have hspace := ht c List.mem_cons_self
    simp only [isSpace, Bool.or_eq_true, decide_eq_true_eq] at hspace
    rcases hspace with ((rfl | rfl) | rfl) | rfl <;> decide

theorem not_isSpace_of_isDigit (h : isDigit c = true) : isSpace c = false := by
  simp only [isSpace, Bool.or_eq_false_iff, decide_eq_false_iff_not]
  refine ⟨⟨⟨?_, ?_⟩, ?_⟩, ?_⟩ <;> exact ne_of_isDigit h (by decide)

/-- A value does not begin with a space. -/
theorem Spells.exists_cons (h : Spells w (.value v)) :
    ∃ c w', w = c :: w' ∧ isSpace c = false := by
  cases h with
  | number h =>
    obtain ⟨d, w', rfl, hd | rfl⟩ := h.exists_cons
    · exact ⟨d, w', rfl, not_isSpace_of_isDigit hd⟩
    · exact ⟨_, _, rfl, by decide⟩
  | _ => exact ⟨_, _, rfl, by decide⟩

/-! ### One step of the reader -/

theorem readValue_number (h : isDigit c = true ∨ c = '-') (cs : List Char) :
    readValue (fuel + 1) (c :: cs) = readNumber (c :: cs) := by
  have hne (d : Char) (hd : isDigit d = false) (hminus : d ≠ '-') : c ≠ d := by
    rintro rfl
    rcases h with h | h
    · exact ne_of_isDigit h hd rfl
    · exact hminus h
  unfold readValue
  split
  case h_9 => rfl
  all_goals
    next heq => exact absurd (List.cons.inj heq).1 (hne _ (by decide) (by decide))

theorem readItems_eq_some_iff : readItems (fuel + 1) cs = some (vs, rest) ↔
    ∃ v behind, readValue fuel cs = some (v, behind) ∧
      ((skipSpace behind = ']' :: rest ∧ vs = [v]) ∨
        ∃ cs' vs', skipSpace behind = ',' :: cs' ∧
          readItems fuel (skipSpace cs') = some (vs', rest) ∧ vs = v :: vs') := by
  rw [readItems, Option.bind_eq_bind, Option.bind_eq_some_iff]
  constructor
  · rintro ⟨⟨v, behind⟩, hv, h⟩
    refine ⟨v, behind, hv, ?_⟩
    dsimp only at h
    split at h
    · next heq =>
      cases h
      exact .inl ⟨heq, rfl⟩
    · next cs' heq =>
      obtain ⟨⟨vs', rest'⟩, hvs, h⟩ := Option.bind_eq_some_iff.1 h
      cases h
      exact .inr ⟨cs', vs', heq, hvs, rfl⟩
    · cases h
  · rintro ⟨v, behind, hv, ⟨heq, rfl⟩ | ⟨cs', vs', heq, hvs, rfl⟩⟩
    · refine ⟨(v, behind), hv, ?_⟩
      simp only [heq]
    · refine ⟨(v, behind), hv, ?_⟩
      simp only [heq, hvs]
      rfl

/-- A key, a colon and a value are read, up to the text behind them. -/
def ReadsMember (fuel : Nat) (cs : List Char) (k : String) (v : Value)
    (behind : List Char) : Prop :=
  ∃ inner afterKey afterColon, cs = '"' :: inner ∧ readString fuel inner = some (k, afterKey) ∧
    skipSpace afterKey = ':' :: afterColon ∧
    readValue fuel (skipSpace afterColon) = some (v, behind)

theorem readMembers_eq_some_iff : readMembers (fuel + 1) cs = some (ms, rest) ↔
    ∃ k v behind, ReadsMember fuel cs k v behind ∧
      ((skipSpace behind = '}' :: rest ∧ ms = [(k, v)]) ∨
        ∃ cs' ms', skipSpace behind = ',' :: cs' ∧
          readMembers fuel (skipSpace cs') = some (ms', rest) ∧ ms = (k, v) :: ms') := by
  constructor
  · intro h
    unfold readMembers at h
    dsimp only at h
    split at h
    · next inner =>
      obtain ⟨⟨k, afterKey⟩, hk, hbehindKey⟩ := Option.bind_eq_some_iff.1 h
      dsimp only at hbehindKey
      split at hbehindKey
      · next afterColon hcolon =>
        rw [Option.bind_eq_bind, Option.bind_some] at hbehindKey
        obtain ⟨⟨v, behind⟩, hv, hbehind⟩ := Option.bind_eq_some_iff.1 hbehindKey
        refine ⟨k, v, behind, ⟨inner, afterKey, afterColon, rfl, hk, hcolon, hv⟩, ?_⟩
        dsimp only at hbehind
        split at hbehind
        · next heq =>
          cases hbehind
          exact .inl ⟨heq, rfl⟩
        · next cs' heq =>
          obtain ⟨⟨ms', rest'⟩, hms, hrest⟩ := Option.bind_eq_some_iff.1 hbehind
          cases hrest
          exact .inr ⟨cs', ms', heq, hms, rfl⟩
        · cases hbehind
      · cases hbehindKey
    · cases h
  · rintro ⟨k, v, behind, ⟨inner, afterKey, afterColon, rfl, hk, hcolon, hv⟩, hend⟩
    unfold readMembers
    simp only [Option.bind_eq_bind, hk, Option.bind_some, hcolon, hv]
    rcases hend with ⟨heq, rfl⟩ | ⟨cs', ms', heq, hms, rfl⟩
    · simp only [heq]
    · simp only [heq, hms]
      rfl

/-- No item begins with the bracket that closes an empty array. -/
theorem readItems_close (fuel : Nat) (cs : List Char) :
    readItems (fuel + 2) (']' :: cs) = none := rfl

theorem readMembers_close (fuel : Nat) (cs : List Char) :
    readMembers (fuel + 1) ('}' :: cs) = none := rfl

/-! ### Texts of the grammar are read -/

/-- How a part of a text is read in front of what follows it, with fuel for its characters. -/
def Part.IsRead (cs : List Char) : Part → Prop
  | .value v => ∀ fuel rest, 2 * cs.length ≤ fuel + 1 → Stops rest →
      readValue (fuel + 1) (cs ++ rest) = some (v, rest)
  | .element v => ∀ fuel rest, 2 * cs.length ≤ fuel + 1 → Ends rest →
      ∃ behind, readValue (fuel + 1) (skipSpace (cs ++ rest)) = some (v, behind) ∧
        skipSpace behind = rest
  | .elements vs => ∀ fuel rest, 2 * cs.length ≤ fuel + 1 →
      readItems (fuel + 2) (skipSpace (cs ++ ']' :: rest)) = some (vs, rest)
  | .member k v => ∀ fuel rest, 2 * cs.length ≤ fuel + 1 → Ends rest →
      ∃ behind, ReadsMember (fuel + 1) (skipSpace (cs ++ rest)) k v behind ∧
        skipSpace behind = rest
  | .members ms => ∀ fuel rest, 2 * cs.length ≤ fuel + 1 →
      readMembers (fuel + 2) (skipSpace (cs ++ '}' :: rest)) = some (ms, rest)

theorem Part.IsRead.number (h : Number w v) : (Part.value v).IsRead w := by
  intro fuel rest _ hrest
  have hread := readNumber_of_number h hrest
  obtain ⟨c, w', rfl, hc⟩ := h.exists_cons
  rw [List.cons_append, readValue_number hc]
  exact hread

theorem Part.IsRead.string {text : List Char} (h : Quoted cs text) :
    (Part.value (.string (String.ofList text))).IsRead ('"' :: (cs ++ ['"'])) := by
  intro fuel rest hfuel _
  simp only [List.length_cons, List.length_append, List.length_nil] at hfuel
  rw [List.cons_append, List.append_assoc, readValue, List.singleton_append,
    readString_of_quoted h (by omega)]
  rfl

theorem Part.IsRead.emptyArray (hs : Gap s) :
    (Part.value (.array [])).IsRead ('[' :: (s ++ [']'])) := by
  intro fuel rest _ _
  rw [List.cons_append, List.append_assoc, readValue, skipSpace_append hs]
  rfl

theorem Part.IsRead.emptyObject (hs : Gap s) :
    (Part.value (.object [])).IsRead ('{' :: (s ++ ['}'])) := by
  intro fuel rest _ _
  rw [List.cons_append, List.append_assoc, readValue, skipSpace_append hs]
  rfl

theorem Part.IsRead.array (h : (Part.elements vs).IsRead cs) :
    (Part.value (.array vs)).IsRead ('[' :: (cs ++ [']'])) := by
  intro fuel rest hfuel _
  simp only [List.length_cons, List.length_append, List.length_nil] at hfuel
  obtain ⟨fuel, rfl⟩ : ∃ m, fuel = m + 2 := ⟨fuel - 2, by omega⟩
  have hread := h fuel rest (by omega)
  rw [List.cons_append, List.append_assoc, readValue, List.singleton_append]
  split
  · next heq =>
    rw [heq, readItems_close] at hread
    cases hread
  · rw [hread]
    rfl

theorem Part.IsRead.object (h : (Part.members ms).IsRead cs) :
    (Part.value (.object (Value.ofMembers ms))).IsRead ('{' :: (cs ++ ['}'])) := by
  intro fuel rest hfuel _
  simp only [List.length_cons, List.length_append, List.length_nil] at hfuel
  obtain ⟨fuel, rfl⟩ : ∃ m, fuel = m + 2 := ⟨fuel - 2, by omega⟩
  have hread := h fuel rest (by omega)
  rw [List.cons_append, List.append_assoc, readValue, List.singleton_append]
  split
  · next heq =>
    rw [heq, readMembers_close] at hread
    cases hread
  · rw [hread]
    rfl

theorem Part.IsRead.element (hs : Gap s) (hw : Spells w (.value v))
    (h : (Part.value v).IsRead w) (ht : Gap t) : (Part.element v).IsRead (s ++ (w ++ t)) := by
  intro fuel rest hfuel hrest
  simp only [List.length_append] at hfuel
  obtain ⟨c, w', rfl, hspace⟩ := hw.exists_cons
  refine ⟨t ++ rest, ?_, ?_⟩
  · rw [List.append_assoc, List.append_assoc, skipSpace_append hs, List.cons_append,
      skipSpace_cons hspace]
    exact h fuel _ (by omega) (stops_of_ends ht hrest)
  · rw [skipSpace_append ht, skipSpace_of_ends hrest]

theorem Part.IsRead.lastElement (h : (Part.element v).IsRead cs) :
    (Part.elements [v]).IsRead cs := by
  intro fuel rest hfuel
  obtain ⟨behind, hv, hbehind⟩ := h fuel (']' :: rest) hfuel (by simp [Ends])
  exact readItems_eq_some_iff.2 ⟨v, behind, hv, .inl ⟨hbehind, rfl⟩⟩

theorem Part.IsRead.elements (h : (Part.element v).IsRead cs) (h' : (Part.elements vs).IsRead cs') :
    (Part.elements (v :: vs)).IsRead (cs ++ ',' :: cs') := by
  intro fuel rest hfuel
  simp only [List.length_cons, List.length_append] at hfuel
  obtain ⟨fuel, rfl⟩ : ∃ m, fuel = m + 1 := ⟨fuel - 1, by omega⟩
  obtain ⟨behind, hv, hbehind⟩ :=
    h (fuel + 1) (',' :: (cs' ++ ']' :: rest)) (by omega) (by simp [Ends])
  rw [List.append_assoc, List.cons_append]
  apply readItems_eq_some_iff.2
  exact ⟨v, behind, hv, .inr ⟨_, vs, hbehind, h' fuel rest (by omega), rfl⟩⟩

theorem Part.IsRead.member {key text : List Char} (hs : Gap s) (hk : Quoted key text) (ht : Gap t)
    (h : (Part.element v).IsRead cs) : (Part.member (String.ofList text) v).IsRead
      (s ++ '"' :: (key ++ '"' :: (t ++ ':' :: cs))) := by
  intro fuel rest hfuel hrest
  simp only [List.length_cons, List.length_append] at hfuel
  obtain ⟨behind, hv, hbehind⟩ := h fuel rest (by omega) hrest
  refine ⟨behind, ⟨_, t ++ ':' :: (cs ++ rest), cs ++ rest, ?_,
    readString_of_quoted hk (by omega) _, ?_, hv⟩, hbehind⟩
  · simp only [List.append_assoc, List.cons_append]
    rw [skipSpace_append hs, skipSpace_cons (by decide)]
  · rw [skipSpace_append ht, skipSpace_cons (by decide)]

theorem Part.IsRead.lastMember (h : (Part.member k v).IsRead cs) :
    (Part.members [(k, v)]).IsRead cs := by
  intro fuel rest hfuel
  obtain ⟨behind, hm, hbehind⟩ := h fuel ('}' :: rest) hfuel (by simp [Ends])
  exact readMembers_eq_some_iff.2 ⟨k, v, behind, hm, .inl ⟨hbehind, rfl⟩⟩

theorem Part.IsRead.members (h : (Part.member k v).IsRead cs) (h' : (Part.members ms).IsRead cs') :
    (Part.members ((k, v) :: ms)).IsRead (cs ++ ',' :: cs') := by
  intro fuel rest hfuel
  simp only [List.length_cons, List.length_append] at hfuel
  obtain ⟨fuel, rfl⟩ : ∃ m, fuel = m + 1 := ⟨fuel - 1, by omega⟩
  obtain ⟨behind, hm, hbehind⟩ :=
    h (fuel + 1) (',' :: (cs' ++ '}' :: rest)) (by omega) (by simp [Ends])
  rw [List.append_assoc, List.cons_append]
  apply readMembers_eq_some_iff.2
  exact ⟨k, v, behind, hm, .inr ⟨_, ms, hbehind, h' fuel rest (by omega), rfl⟩⟩

theorem isRead_of_spells (h : Spells cs p) : p.IsRead cs := by
  induction h with
  | null | yes | no | nan | infinite => exact fun _ _ _ _ => rfl
  | number h => exact .number h
  | string h => exact .string h
  | emptyArray hs => exact .emptyArray hs
  | array _ ih => exact .array ih
  | emptyObject hs => exact .emptyObject hs
  | object _ ih => exact .object ih
  | element hs h ht ih => exact .element hs h ih ht
  | lastElement _ ih => exact .lastElement ih
  | elements _ _ ih ihtail => exact .elements ih ihtail
  | member hs hk ht _ ih => exact .member hs hk ht ih
  | lastMember _ ih => exact .lastMember ih
  | members _ _ ih ihtail => exact .members ih ihtail

/-! ### Texts that are read are of the grammar -/

/-- What is read with some fuel is spelled by the characters that are read over. -/
structure Derives (fuel : Nat) : Prop where
  value : ∀ {cs v rest}, readValue fuel cs = some (v, rest) →
    ∃ w, cs = w ++ rest ∧ Spells w (.value v)
  items : ∀ {cs vs rest}, readItems fuel cs = some (vs, rest) →
    ∃ w, cs = w ++ ']' :: rest ∧ Spells w (.elements vs)
  members : ∀ {cs ms rest}, readMembers fuel cs = some (ms, rest) →
    ∃ w, cs = w ++ '}' :: rest ∧ Spells w (.members ms)

theorem Derives.value_succ (h : Derives fuel) (hr : readValue (fuel + 1) cs = some (v, rest)) :
    ∃ w, cs = w ++ rest ∧ Spells w (.value v) := by
  rw [readValue.eq_def] at hr
  dsimp only at hr
  split at hr
  · obtain ⟨⟨k, rest'⟩, hk, hr⟩ := Option.map_eq_some_iff.1 hr
    cases hr
    obtain ⟨w, text, rfl, hw, rfl⟩ := quoted_of_readString hk
    exact ⟨_, by simp, .string hw⟩
  · next cs =>
    obtain ⟨s, hs, hgap⟩ := gap_skipSpace cs
    split at hr
    · next heq =>
      cases hr
      exact ⟨_, by rw [hs, heq]; simp, .emptyArray hgap⟩
    · obtain ⟨⟨vs, rest'⟩, hvs, hr⟩ := Option.map_eq_some_iff.1 hr
      cases hr
      obtain ⟨w, hw, hspells⟩ := h.items hvs
      exact ⟨_, by rw [hs, hw]; simp, .array (hspells.gap nofun hgap)⟩
  · next cs =>
    obtain ⟨s, hs, hgap⟩ := gap_skipSpace cs
    split at hr
    · next heq =>
      cases hr
      exact ⟨_, by rw [hs, heq]; simp, .emptyObject hgap⟩
    · obtain ⟨⟨ms, rest'⟩, hms, hr⟩ := Option.map_eq_some_iff.1 hr
      cases hr
      obtain ⟨w, hw, hspells⟩ := h.members hms
      exact ⟨_, by rw [hs, hw]; simp, .object (hspells.gap nofun hgap)⟩
  · cases hr
    exact ⟨_, rfl, .null⟩
  · cases hr
    exact ⟨_, rfl, .yes⟩
  · cases hr
    exact ⟨_, rfl, .no⟩
  · cases hr
    exact ⟨_, rfl, .nan⟩
  · cases hr
    exact ⟨_, rfl, .infinite⟩
  · obtain ⟨w, hw, hnumber⟩ := number_of_readNumber hr
    exact ⟨w, hw, .number hnumber⟩

theorem Derives.items_succ (h : Derives fuel) (hr : readItems (fuel + 1) cs = some (vs, rest)) :
    ∃ w, cs = w ++ ']' :: rest ∧ Spells w (.elements vs) := by
  obtain ⟨v, behind, hv, hend⟩ := readItems_eq_some_iff.1 hr
  obtain ⟨w, rfl, hw⟩ := h.value hv
  obtain ⟨t, ht, hgap⟩ := gap_skipSpace behind
  have helement := Spells.element gap_nil hw hgap
  rcases hend with ⟨heq, rfl⟩ | ⟨cs', vs', heq, hvs, rfl⟩
  · exact ⟨_, by rw [ht, heq]; simp, .lastElement helement⟩
  · obtain ⟨s, hs, hgap'⟩ := gap_skipSpace cs'
    obtain ⟨w', hw', htail⟩ := h.items hvs
    exact ⟨_, by rw [ht, heq, hs, hw']; simp, .elements helement (htail.gap nofun hgap')⟩

theorem Derives.member (h : Derives fuel) (hr : ReadsMember fuel cs k v behind) :
    ∃ w, cs = w ++ skipSpace behind ∧ Spells w (.member k v) := by
  obtain ⟨inner, afterKey, afterColon, rfl, hk, hcolon, hv⟩ := hr
  obtain ⟨key, text, rfl, hkey, rfl⟩ := quoted_of_readString hk
  obtain ⟨s, hs, hgapKey⟩ := gap_skipSpace afterKey
  obtain ⟨s', hs', hgapColon⟩ := gap_skipSpace afterColon
  obtain ⟨w, hw, hvalue⟩ := h.value hv
  obtain ⟨t, ht, hgap⟩ := gap_skipSpace behind
  have hbehind : w ++ behind = w ++ (t ++ skipSpace behind) := by rw [← ht]
  refine ⟨_, ?_, .member gap_nil hkey hgapKey (.element hgapColon hvalue hgap)⟩
  rw [hs, hcolon, hs', hw, hbehind]
  simp

theorem Derives.members_succ (h : Derives fuel) (hr : readMembers (fuel + 1) cs = some (ms, rest)) :
    ∃ w, cs = w ++ '}' :: rest ∧ Spells w (.members ms) := by
  obtain ⟨k, v, behind, hm, hend⟩ := readMembers_eq_some_iff.1 hr
  obtain ⟨w, rfl, hw⟩ := h.member hm
  rcases hend with ⟨heq, rfl⟩ | ⟨cs', ms', heq, hms, rfl⟩
  · exact ⟨w, by rw [heq], .lastMember hw⟩
  · obtain ⟨s, hs, hgap⟩ := gap_skipSpace cs'
    obtain ⟨w', hw', htail⟩ := h.members hms
    exact ⟨_, by rw [heq, hs, hw']; simp, .members hw (htail.gap nofun hgap)⟩

theorem derives (fuel : Nat) : Derives fuel := by
  induction fuel with
  | zero =>
    exact ⟨fun h => by simp [readValue] at h, fun h => by simp [readItems] at h,
      fun h => by simp [readMembers] at h⟩
  | succ fuel ih => exact ⟨ih.value_succ, ih.items_succ, ih.members_succ⟩

/-- A text is read as a value exactly if it spells that value, with gaps around it. -/
theorem read?_eq_some_iff : read? cs = some v ↔ Spells cs (.element v) := by
  constructor
  · intro h
    obtain ⟨⟨v', behind⟩, hv, hend⟩ := Option.bind_eq_some_iff.1 h
    obtain ⟨s, hs, hgap⟩ := gap_skipSpace cs
    obtain ⟨t, ht, hgap'⟩ := gap_skipSpace behind
    obtain ⟨w, hw, hspells⟩ := (derives _).value hv
    dsimp only at hend
    split at hend
    · next hnil =>
      cases hend
      rw [hnil, List.append_nil] at ht
      rw [hs, hw, ht]
      exact .element hgap hspells hgap'
    · cases hend
  · intro h
    obtain ⟨behind, hv, hbehind⟩ := isRead_of_spells h (2 * cs.length + 1) [] (by omega) nofun
    rw [List.append_nil] at hv
    rw [read?, hv]
    simp only [Option.bind_eq_bind, Option.bind_some, hbehind]

end StateCheck.Json
