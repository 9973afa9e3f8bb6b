import Mathlib.Data.List.TakeWhile
import StateCheck.Path.Short

/-!
Short forms of paths: what they stand for, and that expansion and compaction undo each other.
-/

namespace StateCheck.Path

variable {cs text rest : List Char} {f f' : Filling} {k : Shortcut} {p s : String}

/-! ### Texts up to a character -/

/-- A text begins with `c` unless it is empty. -/
def StartsWith (c : Char) (cs : List Char) : Prop := ∀ x ∈ cs.head?, x = c

theorem exists_first (c : Char) (cs : List Char) :
    ∃ text rest, cs = text ++ rest ∧ c ∉ text ∧ StartsWith c rest := by
  induction cs with
  | nil => exact ⟨[], [], rfl, by simp, by simp [StartsWith]⟩
  | cons x cs ih =>
    by_cases hx : x = c
    · exact ⟨[], x :: cs, rfl, by simp, by simp [StartsWith, hx]⟩
    · obtain ⟨text, rest, rfl, ht, hr⟩ := ih
      exact ⟨x :: text, rest, rfl, by simp [ht, Ne.symm hx], hr⟩

theorem takeWhile_first {c : Char} (ht : c ∉ text) (hr : StartsWith c rest) :
    (text ++ rest).takeWhile (· ≠ c) = text ∧ (text ++ rest).dropWhile (· ≠ c) = rest := by
  have hall : ∀ x ∈ text, decide (x ≠ c) = true := by
    intro x hx
    exact decide_eq_true fun he => ht (he ▸ hx)
  rw [List.takeWhile_append_of_pos hall, List.dropWhile_append_of_pos hall]
  cases rest with
  | nil => simp
  | cons x rest => simp [hr x rfl]

theorem first_inj {c : Char} {text' rest' : List Char} (ht : c ∉ text) (hr : StartsWith c rest)
    (ht' : c ∉ text') (hr' : StartsWith c rest') (h : text ++ rest = text' ++ rest') :
    text = text' ∧ rest = rest' := by
  obtain ⟨htake, hdrop⟩ := takeWhile_first ht hr
  obtain ⟨htake', hdrop'⟩ := takeWhile_first ht' hr'
  exact ⟨by rw [← htake, h, htake'], by rw [← hdrop, h, hdrop']⟩

/-! ### Shapes -/

namespace Shape

/-- A line break at the end of the text is passed over. -/
theorem line?_eq_some_iff :
    line? cs = some text ↔ '\n' ∉ text ∧ (cs = text ∨ cs = text ++ ['\n']) := by
  obtain ⟨line, rest, rfl, hline, hrest⟩ := exists_first '\n' cs
  obtain ⟨htake, hdrop⟩ := takeWhile_first hline hrest
  simp only [line?, htake, hdrop]
  constructor
  · intro h
    split at h
    · cases h
      exact ⟨hline, .inl (List.append_nil _)⟩
    · next c =>
      cases h
      exact ⟨hline, .inr (by rw [hrest c rfl])⟩
    · cases h
  · rintro ⟨ht, h | h⟩
    · rw [← List.append_nil text] at h
      obtain ⟨rfl, rfl⟩ := first_inj hline hrest ht (by simp [StartsWith]) h
      rfl
    · obtain ⟨rfl, rfl⟩ := first_inj hline hrest ht (by simp [StartsWith]) h
      rfl

theorem after?_eq_some_iff {start : List Char} :
    after? start cs = some rest ↔ cs = start ++ rest := by
  unfold after?
  split
  · next h =>
    obtain ⟨t, rfl⟩ := List.isPrefixOf_iff_prefix.1 h
    simp
  · next h =>
    constructor
    · intro h'
      cases h'
    · rintro rfl
      simp at h

/-- Where an instance has a place, its name is not empty and has no closing bracket. -/
def Takes : Shape → Filling → Prop
  | keyed .., f => f.instanceName ≠ [] ∧ ']' ∉ f.instanceName
  | plain _, f => f.instanceName = []

/-- A closing bracket comes behind the place of an instance. -/
def isClosed : Shape → Bool
  | keyed _ after => after.toList.head? == some ']'
  | plain _ => true

theorem startsWith_after {before after : String} (h : (keyed before after).isClosed = true)
    (cs : List Char) : StartsWith ']' (after.toList ++ cs) := by
  simp only [isClosed, beq_iff_eq] at h
  intro x hx
  rw [List.head?_append, h] at hx
  exact (Option.some.inj hx).symm

theorem fit?_eq_some_iff {s : Shape} (hs : s.isClosed = true) : s.fit? cs = some f ↔
    s.Takes f ∧ '\n' ∉ f.rest ∧ (cs = s.fill f ∨ cs = s.fill f ++ ['\n']) := by
  obtain ⟨name, rest⟩ := f
  cases s with
  | plain before =>
    simp only [fit?, Option.bind_eq_bind, Option.bind_eq_some_iff, after?_eq_some_iff,
      line?_eq_some_iff, Option.some.injEq, Filling.mk.injEq, Takes, fill]
    constructor
    · rintro ⟨line, rfl, r, ⟨hr, hline⟩, rfl, rfl⟩
      refine ⟨rfl, hr, ?_⟩
      rcases hline with rfl | rfl
      · exact .inl rfl
      · exact .inr (List.append_assoc ..).symm
    · rintro ⟨rfl, hr, rfl | rfl⟩
      · exact ⟨rest, rfl, rest, ⟨hr, .inl rfl⟩, rfl, rfl⟩
      · exact ⟨rest ++ ['\n'], List.append_assoc .., rest, ⟨hr, .inr rfl⟩, rfl, rfl⟩
  | keyed before after =>
    constructor
    · intro h
      simp only [fit?, Option.bind_eq_bind, Option.bind_eq_some_iff, after?_eq_some_iff] at h
      obtain ⟨line, rfl, h⟩ := h
      obtain ⟨name', rest', rfl, hname, hrest⟩ := exists_first ']' line
      obtain ⟨htake, hdrop⟩ := takeWhile_first hname hrest
      simp only [htake, hdrop] at h
      split at h
      · cases h
      · next hne =>
        simp only [Option.bind_eq_some_iff, after?_eq_some_iff, line?_eq_some_iff,
          Option.some.injEq, Filling.mk.injEq] at h
        obtain ⟨line, rfl, r, ⟨hr, hline⟩, rfl, rfl⟩ := h
        refine ⟨⟨by simpa using hne, hname⟩, hr, ?_⟩
        rcases hline with rfl | rfl
        · exact .inl (by simp [fill])
        · exact .inr (by simp [fill])
    · rintro ⟨⟨hne, hname⟩, hr, hcs⟩
      obtain ⟨line, hline, rfl⟩ : ∃ line, line? line = some rest ∧
          cs = before.toList ++ (name ++ (after.toList ++ line)) := by
        rcases hcs with rfl | rfl
        · exact ⟨rest, line?_eq_some_iff.2 ⟨hr, .inl rfl⟩, by simp [fill]⟩
        · exact ⟨rest ++ ['\n'], line?_eq_some_iff.2 ⟨hr, .inr rfl⟩, by simp [fill]⟩
      obtain ⟨htake, hdrop⟩ := takeWhile_first hname (startsWith_after hs line)
      have hname' : name.isEmpty = false := by simpa using hne
      simp only [fit?, after?_eq_some_iff.2 rfl, Option.bind_eq_bind, Option.bind_some, htake,
        hdrop, hline, hname', Bool.false_eq_true, if_false]

/-- The fixed text at the beginning. -/
def opening : Shape → String
  | keyed before _ | plain before => before

/-- The fixed text in front of the rest. -/
def closing : Shape → String
  | keyed _ after => after
  | plain before => before

/-- The texts differ before one of them ends. -/
def diverge (a b : String) : Bool :=
  !a.toList.isPrefixOf b.toList && !b.toList.isPrefixOf a.toList

theorem append_ne_of_diverge {a b : String} (h : diverge a b = true) (x y : List Char) :
    a.toList ++ x ≠ b.toList ++ y := by
  intro he
  have ha : a.toList <+: b.toList ++ y := he ▸ List.prefix_append ..
  simp only [diverge, Bool.and_eq_true, Bool.not_eq_true', ← Bool.not_eq_true,
    List.isPrefixOf_iff_prefix] at h
  rcases List.prefix_or_prefix_of_prefix ha (List.prefix_append ..) with hp | hp
  · exact h.1 hp
  · exact h.2 hp

/-- No text fits both shapes. -/
def apart : Shape → Shape → Bool
  | keyed a b, keyed a' b' => diverge a a' || (a == a' && diverge b b')
  | keyed a _, plain a' | plain a, keyed a' _ | plain a, plain a' => diverge a a'

theorem fill_ne_of_apart {s t : Shape} (h : apart s t = true) (hs : s.isClosed = true)
    (ht : t.isClosed = true) (hf : s.Takes f) (hf' : t.Takes f') (x y : List Char) :
    s.fill f ++ x ≠ t.fill f' ++ y := by
  cases s with
  | plain a => cases t <;> simpa [fill] using append_ne_of_diverge h _ _
  | keyed a b =>
    cases t with
    | plain a' => simpa [fill] using append_ne_of_diverge h _ _
    | keyed a' b' =>
      rcases Bool.or_eq_true .. ▸ h with hd | hd
      · simpa [fill] using append_ne_of_diverge hd _ _
      · obtain ⟨ha, hb⟩ := Bool.and_eq_true .. ▸ hd
        obtain rfl : a = a' := by simpa using ha
        intro he
        simp only [fill, List.append_assoc, List.append_cancel_left_eq] at he
        obtain ⟨-, hafter⟩ :=
          first_inj hf.2 (startsWith_after hs _) hf'.2 (startsWith_after ht _) he
        exact append_ne_of_diverge hb _ _ hafter

end Shape

/-! ### The table -/

/-- The names of the routing protocols with shortcuts, as they stand in paths and as the
identifiers of protocols. -/
def protocols : List (String × String) := [("bgp", "BGP"), ("ospf", "OSPF"), ("isis", "ISIS")]

def others : List Shortcut := [
  ⟨.keyed "interface[" "]/", .keyed "/interfaces/interface[name=" "]/"⟩,
  ⟨.plain "lldp/", .plain "/lldp/"⟩,
  ⟨.plain "system/", .plain "/system/"⟩]

/-- The shortcuts whose canonical shapes are all apart. -/
def distinct : List Shortcut := protocols.map (fun x => protocol x.1 x.2) ++ others

/-- The shortcut whose canonical shape the paths of protocols fit as well. -/
def general : Shortcut :=
  ⟨.keyed "network-instance[" "]/", .keyed "/network-instances/network-instance[name=" "]/"⟩

theorem shortcuts_eq : shortcuts = distinct ++ [general] := rfl

theorem mem_shortcuts (hk : k ∈ distinct) : k ∈ shortcuts := List.mem_append_left _ hk

theorem mem_distinct {x : String × String} (hx : x ∈ protocols) : protocol x.1 x.2 ∈ distinct :=
  List.mem_append_left _ (List.mem_map_of_mem hx)

theorem isClosed_short (hk : k ∈ shortcuts) : k.short.isClosed = true :=
  List.all_eq_true.1 (by decide : shortcuts.all (·.short.isClosed) = true) k hk

theorem isClosed_canonical (hk : k ∈ shortcuts) : k.canonical.isClosed = true :=
  List.all_eq_true.1 (by decide : shortcuts.all (·.canonical.isClosed) = true) k hk

theorem apart_short : shortcuts.Pairwise fun k l => Shape.apart k.short l.short = true := by
  decide +kernel

theorem apart_canonical :
    distinct.Pairwise fun k l => Shape.apart k.canonical l.canonical = true := by
  decide +kernel

theorem isShort_fill (hk : k ∈ shortcuts) (f : Filling) :
    isShort (String.ofList (k.short.fill f)) = true := by
  have hd := List.all_eq_true.1 (by decide : (shortcuts.all fun k =>
    Shape.apart k.short (.plain "/")) = true) k hk
  simp only [isShort, String.toList_ofList, bne_iff_ne]
  intro hh
  obtain ⟨cs, hcs⟩ := List.head?_eq_some_iff.1 hh
  cases hs : k.short with
  | plain a =>
    rw [hs] at hd hcs
    exact Shape.append_ne_of_diverge hd _ cs hcs
  | keyed a b =>
    rw [hs] at hd hcs
    simp only [Shape.fill, List.append_assoc] at hcs
    exact Shape.append_ne_of_diverge hd _ cs hcs

/-- Of several shortcuts that a text fits the first one counts. -/
theorem reshape?_eq_some {source target : Shortcut → Shape} {before after : List Shortcut}
    (hsplit : shortcuts = before ++ k :: after) (hfit : (source k).fit? cs = some f)
    (hnone : ∀ l ∈ before, (source l).fit? cs = none) :
    reshape? source target cs = some ((target k).fill f) := by
  have hbefore : before.findSome? (fun l => ((source l).fit? cs).map (target l).fill) = none :=
    List.findSome?_eq_none_iff.2 fun l hl => by rw [hnone l hl, Option.map_none]
  rw [reshape?, hsplit, List.findSome?_append, hbefore, Option.none_or, List.findSome?_cons, hfit]
  rfl

theorem fit?_eq_none {s t : Shape} (h : Shape.apart s t = true) (hs : s.isClosed = true)
    (ht : t.isClosed = true) (hf : t.Takes f) (hcs : cs = t.fill f ∨ cs = t.fill f ++ ['\n']) :
    s.fit? cs = none := by
  refine Option.eq_none_iff_forall_ne_some.2 fun f' hf' => ?_
  obtain ⟨hname, -, hcs'⟩ := (Shape.fit?_eq_some_iff hs).1 hf'
  have hne := Shape.fill_ne_of_apart h hs ht hname hf
  rcases hcs with rfl | rfl <;> rcases hcs' with he | he
  · exact hne [] [] (by simpa using he.symm)
  · exact hne ['\n'] [] (by simpa using he.symm)
  · exact hne [] ['\n'] (by simpa using he.symm)
  · exact hne ['\n'] ['\n'] he.symm

/-- A text that fits a shape apart from those before it is moved by that shortcut. -/
theorem reshape?_of_apart {source target : Shortcut → Shape} {before after : List Shortcut}
    (hclosed : ∀ l ∈ shortcuts, (source l).isClosed = true)
    (hsplit : shortcuts = before ++ k :: after)
    (hapart : ∀ l ∈ before, Shape.apart (source l) (source k) = true)
    (hfit : (source k).fit? cs = some f) :
    reshape? source target cs = some ((target k).fill f) := by
  have hk : k ∈ shortcuts := by simp [hsplit]
  obtain ⟨hf, -, hcs⟩ := (Shape.fit?_eq_some_iff (hclosed k hk)).1 hfit
  refine reshape?_eq_some hsplit hfit fun l hl => ?_
  exact fit?_eq_none (hapart l hl) (hclosed l (by simp [hsplit, hl])) (hclosed k hk) hf hcs

theorem pairwise_split {R : Shortcut → Shortcut → Prop} {ks : List Shortcut} (h : ks.Pairwise R)
    (hk : k ∈ ks) : ∃ before after, ks = before ++ k :: after ∧ ∀ l ∈ before, R l k := by
  obtain ⟨before, after, rfl⟩ := List.append_of_mem hk
  exact ⟨before, after, rfl, fun l hl => (List.pairwise_append.1 h).2.2 l hl k (by simp)⟩

theorem reshape?_short {target : Shortcut → Shape} (hk : k ∈ shortcuts)
    (hfit : k.short.fit? cs = some f) :
    reshape? Shortcut.short target cs = some ((target k).fill f) := by
  obtain ⟨before, after, hsplit, hapart⟩ := pairwise_split apart_short hk
  exact reshape?_of_apart (fun _ => isClosed_short) hsplit hapart hfit

theorem reshape?_canonical {target : Shortcut → Shape} (hk : k ∈ distinct)
    (hfit : k.canonical.fit? cs = some f) :
    reshape? Shortcut.canonical target cs = some ((target k).fill f) := by
  obtain ⟨before, after, hsplit, hapart⟩ := pairwise_split apart_canonical hk
  have hall : shortcuts = before ++ k :: (after ++ [general]) := by
    rw [shortcuts_eq, hsplit, List.append_assoc, List.cons_append]
  exact reshape?_of_apart (fun _ => isClosed_canonical) hall hapart hfit

theorem takes_iff (hk : k ∈ shortcuts) : k.short.Takes f ↔ k.canonical.Takes f := by
  have hshapes : shortcuts.all (fun k => match k.short, k.canonical with
      | .keyed .., .keyed .. | .plain _, .plain _ => true
      | _, _ => false) = true := by decide +kernel
  have h := List.all_eq_true.1 hshapes k hk
  cases hs : k.short <;> cases hc : k.canonical <;> simp_all [Shape.Takes]

/-- Every filled short shape is expanded by its own shortcut. -/
theorem expand_fill (hk : k ∈ shortcuts) (hf : k.short.Takes f) (hr : '\n' ∉ f.rest) :
    expand (String.ofList (k.short.fill f)) = String.ofList (k.canonical.fill f) := by
  have hfit := (Shape.fit?_eq_some_iff (isClosed_short hk)).2 ⟨hf, hr, .inl rfl⟩
  rw [expand, if_pos (isShort_fill hk f), String.toList_ofList, reshape?_short hk hfit]

/-! ### Expansion after compaction -/

theorem expand_of_rooted (h : p.toList.head? = some '/') : expand p = p := by
  simp [expand, isShort, h]

theorem Shape.exists_fill (s : Shape) (f : Filling) : ∃ cs, s.fill f = s.opening.toList ++ cs := by
  cases s with
  | plain before => exact ⟨_, rfl⟩
  | keyed before after =>
    exact ⟨f.instanceName ++ (after.toList ++ f.rest), by simp [fill, opening]⟩

/-- A short path that differs from all shortcuts in its beginning starts at the root. -/
theorem expand_of_diverge {start : String} (hs : isShort p = true)
    (hd : ∀ k ∈ shortcuts, Shape.diverge k.short.opening start = true)
    (hp : p.toList = start.toList ++ rest) : expand p = "/" ++ p := by
  have hnone : reshape? Shortcut.short Shortcut.canonical p.toList = none := by
    refine List.findSome?_eq_none_iff.2 fun k hk => Option.map_eq_none_iff.2 ?_
    refine Option.eq_none_iff_forall_ne_some.2 fun f hf => ?_
    obtain ⟨-, -, hcs⟩ := (Shape.fit?_eq_some_iff (isClosed_short hk)).1 hf
    obtain ⟨cs, hfill⟩ := k.short.exists_fill f
    rw [hp, hfill] at hcs
    rcases hcs with he | he
    · exact Shape.append_ne_of_diverge (hd k hk) _ _ he.symm
    · exact Shape.append_ne_of_diverge (hd k hk) _ _ (by rw [← List.append_assoc, ← he])
  rw [expand, if_pos hs, hnone]

/-- A path that does not start at the root has no shorter form. -/
theorem compact_of_isShort (hs : isShort p = true) : compact p = p := by
  have hnone : reshape? Shortcut.canonical Shortcut.short p.toList = none := by
    refine List.findSome?_eq_none_iff.2 fun k hk => Option.map_eq_none_iff.2 ?_
    refine Option.eq_none_iff_forall_ne_some.2 fun f hf => ?_
    obtain ⟨-, -, hcs⟩ := (Shape.fit?_eq_some_iff (isClosed_canonical hk)).1 hf
    obtain ⟨cs, hfill⟩ := k.canonical.exists_fill f
    have hroot : k.canonical.opening.toList.head? = some '/' := by
      have hall : shortcuts.all (fun k => k.canonical.opening.toList.head? == some '/') = true := by
        decide
      simpa using List.all_eq_true.1 hall k hk
    have hp : p.toList.head? = some '/' := by
      rcases hcs with he | he <;> simp [he, hfill, List.head?_append, hroot]
    simp [isShort, hp] at hs
  rw [compact, hnone]

/-- Either no shortcut fits a text, or the first one that does moves it and expansion moves it
back, without a line break at its end. -/
theorem compact_cases (p : String) :
    (∀ k ∈ shortcuts, k.canonical.fit? p.toList = none) ∧ compact p = p ∨
    ∃ k ∈ shortcuts, ∃ f, k.canonical.fit? p.toList = some f ∧
      compact p = String.ofList (k.short.fill f) ∧
      expand (compact p) = String.ofList (k.canonical.fill f) := by
  cases hr : reshape? Shortcut.canonical Shortcut.short p.toList with
  | none =>
    refine .inl ⟨fun k hk => ?_, by simp [compact, hr]⟩
    exact Option.map_eq_none_iff.1 (List.findSome?_eq_none_iff.1 hr k hk)
  | some cs =>
    obtain ⟨k, hk, hcs⟩ := List.exists_of_findSome?_eq_some hr
    obtain ⟨f, hfit, rfl⟩ := Option.map_eq_some_iff.1 hcs
    obtain ⟨hf, hline, -⟩ := (Shape.fit?_eq_some_iff (isClosed_canonical hk)).1 hfit
    have hc : compact p = String.ofList (k.short.fill f) := by simp [compact, hr]
    exact .inr ⟨k, hk, f, hfit, hc, hc ▸ expand_fill hk ((takes_iff hk).2 hf) hline⟩

theorem head?_expand (p : String) : (expand p).toList.head? = some '/' := by
  unfold expand
  split
  · split
    · next cs h =>
      obtain ⟨k, hk, hcs⟩ := List.exists_of_findSome?_eq_some h
      obtain ⟨f, -, rfl⟩ := Option.map_eq_some_iff.1 hcs
      have hroot := List.all_eq_true.1 (by decide : (shortcuts.all fun k =>
        k.canonical.opening.toList.head? == some '/') = true) k hk
      cases hc : k.canonical <;> simp_all [Shape.opening, Shape.fill, List.head?_append]
    · simp
  · next h => simpa [isShort] using h

theorem getLast?_fill (hk : k ∈ shortcuts) (hr : '\n' ∉ f.rest) :
    (k.canonical.fill f).getLast? ≠ some '\n' := by
  have hlast := List.all_eq_true.1 (by decide : (shortcuts.all fun k =>
    k.canonical.closing.toList.getLast? == some '/') = true) k hk
  intro hm
  have hrest : f.rest = [] := by
    by_contra hne
    have hlast' : f.rest.getLast? = some '\n' := by
      cases hs : k.canonical <;> simpa [hs, Shape.fill, List.getLast?_append, hne] using hm
    exact hr (List.mem_of_getLast? hlast')
  cases hs : k.canonical <;> simp_all [Shape.closing, Shape.fill, List.getLast?_append]

/-- Compaction is undone by expansion, but for a line break at the end of a path that has a short
form. -/
theorem expand_compact_iff (h : p.toList.head? = some '/') :
    expand (compact p) = p ↔ ¬(p.toList.getLast? = some '\n' ∧ compact p ≠ p) := by
  obtain ⟨-, hc⟩ | ⟨k, hk, f, hfit, hc, he⟩ := compact_cases p
  · simp [hc, expand_of_rooted h]
  · obtain ⟨-, hr, hcs⟩ := (Shape.fit?_eq_some_iff (isClosed_canonical hk)).1 hfit
    have hne : compact p ≠ p := by
      intro heq
      have hshort := isShort_fill hk f
      rw [← hc, heq, isShort, h] at hshort
      cases hshort
    rw [he, ← String.toList_inj, String.toList_ofList]
    rcases hcs with hcs | hcs
    · simp [hcs, getLast?_fill hk hr]
    · simp [hcs, hne]

/-! ### Paths and their short forms -/

/-- The name of an instance that can stand in a short path. -/
def IsInstance (i : String) : Prop := i ≠ "" ∧ ']' ∉ i.toList

/-- The short form of a path of a protocol in an instance. -/
def protocolShort (x : String × String) (i rest : String) : String :=
  x.1 ++ "[" ++ i ++ "]/" ++ rest

/-- Where the paths of a protocol are in an instance. -/
def protocolPart (x : String × String) (rest : String) : String :=
  "protocols/protocol[identifier=" ++ x.2 ++ "][name=" ++ x.2 ++ "]/" ++ x.1 ++ "/" ++ rest

def instanceShort (i rest : String) : String := "network-instance[" ++ i ++ "]/" ++ rest

def instancePath (i rest : String) : String :=
  "/network-instances/network-instance[name=" ++ i ++ "]/" ++ rest

/-- The short path stands for the canonical path. -/
inductive Abbreviates : String → String → Prop
  | protocol {x : String × String} (hx : x ∈ protocols) {i : String} (hi : IsInstance i)
      (rest : String) : Abbreviates (protocolShort x i rest) (instancePath i (protocolPart x rest))
  | interface {i : String} (hi : IsInstance i) (rest : String) :
      Abbreviates ("interface[" ++ i ++ "]/" ++ rest)
        ("/interfaces/interface[name=" ++ i ++ "]/" ++ rest)
  | lldp (rest : String) : Abbreviates ("lldp/" ++ rest) ("/lldp/" ++ rest)
  | system (rest : String) : Abbreviates ("system/" ++ rest) ("/system/" ++ rest)
  | networkInstance {i : String} (hi : IsInstance i) (rest : String) :
      Abbreviates (instanceShort i rest) (instancePath i rest)

/-- A shortcut that is filled the same way in a short path and in a canonical path. -/
def Shortcut.Links (k : Shortcut) (s p : String) : Prop :=
  ∃ f, k.short.Takes f ∧ s.toList = k.short.fill f ∧ p.toList = k.canonical.fill f

theorem protocol_after (x : String × String) (rest : String) :
    ("]/protocols/protocol[identifier=" ++ x.2 ++ "][name=" ++ x.2 ++ "]/" ++ x.1 ++ "/").toList ++
      rest.toList = "]/".toList ++ (protocolPart x rest).toList := by
  have hsplit : "]/protocols/protocol[identifier=".toList =
      "]/".toList ++ "protocols/protocol[identifier=".toList := by decide +kernel
  unfold protocolPart
  simp only [String.toList_append, List.append_assoc, hsplit]

theorem links_protocol {x : String × String} (hx : x ∈ protocols) {i : String}
    (hi : IsInstance i) (rest : String) :
    ∃ k ∈ distinct, k.Links (protocolShort x i rest) (instancePath i (protocolPart x rest)) := by
  refine ⟨protocol x.1 x.2, mem_distinct hx, ⟨i.toList, rest.toList⟩, ?_, ?_, ?_⟩
  · exact ⟨by simpa using hi.1, hi.2⟩
  · simp [protocolShort, protocol, Shape.fill]
  · have hafter := protocol_after x rest
    unfold instancePath protocol Shape.fill
    dsimp only
    rw [List.append_assoc, hafter]
    simp only [String.toList_append, List.append_assoc]

theorem Abbreviates.links (h : Abbreviates s p) :
    (∃ k ∈ distinct, k.Links s p) ∨ general.Links s p := by
  cases h with
  | protocol hx hi rest => exact .inl (links_protocol hx hi rest)
  | @interface i hi rest =>
    refine .inl ⟨⟨.keyed "interface[" "]/", .keyed "/interfaces/interface[name=" "]/"⟩, ?_,
      ⟨i.toList, rest.toList⟩, ⟨by simpa using hi.1, hi.2⟩, ?_, ?_⟩
    · simp [distinct, others]
    · simp [Shape.fill]
    · simp [Shape.fill]
  | lldp rest =>
    refine .inl ⟨⟨.plain "lldp/", .plain "/lldp/"⟩, ?_, ⟨[], rest.toList⟩, rfl, ?_, ?_⟩
    · simp [distinct, others]
    · simp [Shape.fill]
    · simp [Shape.fill]
  | system rest =>
    refine .inl ⟨⟨.plain "system/", .plain "/system/"⟩, ?_, ⟨[], rest.toList⟩, rfl, ?_, ?_⟩
    · simp [distinct, others]
    · simp [Shape.fill]
    · simp [Shape.fill]
  | @networkInstance i hi rest =>
    refine .inr ⟨⟨i.toList, rest.toList⟩, ⟨by simpa using hi.1, hi.2⟩, ?_, ?_⟩
    · unfold instanceShort
      simp [general, Shape.fill]
    · unfold instancePath
      simp [general, Shape.fill]

theorem rest_of_short (hs : '\n' ∉ s.toList) (h : s.toList = k.short.fill f) : '\n' ∉ f.rest := by
  intro hm
  refine hs ?_
  rw [h]
  cases k.short <;> simp [Shape.fill, hm]

theorem Shortcut.Links.expand (h : k.Links s p) (hk : k ∈ shortcuts) (hs : '\n' ∉ s.toList) :
    expand s = p := by
  obtain ⟨f, hf, hshort, hcanonical⟩ := h
  have hr : '\n' ∉ f.rest := rest_of_short hs hshort
  rw [← String.ofList_toList (s := s), ← String.ofList_toList (s := p), hshort, hcanonical]
  exact expand_fill hk hf hr

theorem Shortcut.Links.compact (h : k.Links s p) (hk : k ∈ distinct) (hs : '\n' ∉ s.toList) :
    compact p = s := by
  obtain ⟨f, hf, hshort, hcanonical⟩ := h
  have hr : '\n' ∉ f.rest := rest_of_short hs hshort
  have hfit : k.canonical.fit? p.toList = some f :=
    (Shape.fit?_eq_some_iff (isClosed_canonical (mem_shortcuts hk))).2
      ⟨(takes_iff (mem_shortcuts hk)).1 hf, hr, .inl hcanonical⟩
  rw [Path.compact, reshape?_canonical hk hfit, ← hshort]
  exact String.ofList_toList

theorem general_compact (h : general.Links s p) (hs : '\n' ∉ s.toList)
    (hnone : ∀ x ∈ protocols, (protocol x.1 x.2).canonical.fit? p.toList = none) :
    compact p = s := by
  obtain ⟨f, hf, hshort, hcanonical⟩ := h
  have hk : general ∈ shortcuts := by simp [shortcuts_eq]
  have hcan : general.canonical.Takes f := (takes_iff hk).1 hf
  have hfit : general.canonical.fit? p.toList = some f :=
    (Shape.fit?_eq_some_iff (isClosed_canonical hk)).2
      ⟨hcan, rest_of_short hs hshort, .inl hcanonical⟩
  have hothers : others.all (fun l => Shape.apart l.canonical general.canonical) = true := by
    decide +kernel
  have hbefore : ∀ l ∈ distinct, l.canonical.fit? p.toList = none := by
    intro l hl
    rcases List.mem_append.1 hl with hp | ho
    · obtain ⟨x, hx, rfl⟩ := List.mem_map.1 hp
      exact hnone x hx
    · exact fit?_eq_none (List.all_eq_true.1 hothers l ho) (isClosed_canonical (mem_shortcuts hl))
        (isClosed_canonical hk) hcan (.inl hcanonical)
  rw [Path.compact, reshape?_eq_some shortcuts_eq hfit hbefore, ← hshort]
  exact String.ofList_toList

theorem exists_instanceShort {x : String × String} (hx : x ∈ protocols) (h : general.Links s p)
    (hs : '\n' ∉ s.toList) (hfit : (protocol x.1 x.2).canonical.fit? p.toList = some f) :
    ∃ i rest, IsInstance i ∧ s = instanceShort i (protocolPart x rest) := by
  obtain ⟨g, hg, hshort, hcanonical⟩ := h
  have hk : general ∈ shortcuts := by simp [shortcuts_eq]
  have hx' := mem_shortcuts (mem_distinct hx)
  obtain ⟨hf, -, hcs⟩ := (Shape.fit?_eq_some_iff (isClosed_canonical hx')).1 hfit
  have hfill : general.canonical.fill g = (protocol x.1 x.2).canonical.fill f := by
    rcases hcs with hcs | hcs
    · exact hcanonical ▸ hcs
    · have hlast := getLast?_fill hk (rest_of_short hs hshort)
      rw [← hcanonical, hcs] at hlast
      simp at hlast
  -- The name of the instance ends at the first closing bracket of either text.
  unfold general protocol at hfill
  simp only [Shape.fill, List.append_assoc, List.append_cancel_left_eq] at hfill
  obtain ⟨hname, hrest⟩ := first_inj hg.2 (Shape.startsWith_after (isClosed_short hk) _) hf.2
    (Shape.startsWith_after (isClosed_canonical hx') _) hfill
  refine ⟨String.ofList g.instanceName, String.ofList f.rest, ?_, ?_⟩
  · exact ⟨by simpa using hg.1, by simpa using hg.2⟩
  rw [← String.toList_ofList (l := f.rest), protocol_after, List.append_cancel_left_eq] at hrest
  rw [← String.toList_inj, hshort]
  unfold general instanceShort Shape.fill
  dsimp only
  rw [List.append_assoc, hrest]
  simp only [String.toList_append, String.toList_ofList, List.append_assoc]

theorem Abbreviates.expand (h : Abbreviates s p) (hs : '\n' ∉ s.toList) : expand s = p := by
  rcases h.links with ⟨k, hk, hl⟩ | hl
  · exact hl.expand (mem_shortcuts hk) hs
  · exact hl.expand (by simp [shortcuts_eq]) hs

theorem line_protocolShort {x : String × String} {i rest : String}
    (h : '\n' ∉ (instanceShort i (protocolPart x rest)).toList) :
    '\n' ∉ (protocolShort x i rest).toList := by
  have hbracket : '\n' ∉ "[".toList := by decide
  unfold instanceShort protocolPart at h
  unfold protocolShort
  simp only [String.toList_append, List.mem_append, not_or] at h ⊢
  exact ⟨⟨⟨⟨h.2.1.1.2, hbracket⟩, h.1.1.2⟩, h.1.2⟩, h.2.2⟩

theorem compact_instanceShort {x : String × String} (hx : x ∈ protocols) {i : String}
    (hi : IsInstance i) {rest : String}
    (h : '\n' ∉ (instanceShort i (protocolPart x rest)).toList) :
    compact (expand (instanceShort i (protocolPart x rest))) = protocolShort x i rest ∧
      expand (protocolShort x i rest) = expand (instanceShort i (protocolPart x rest)) := by
  have hline := line_protocolShort h
  obtain ⟨k, hk, hl⟩ := links_protocol hx hi rest
  have hexpand := (Abbreviates.networkInstance hi (protocolPart x rest)).expand h
  exact ⟨by rw [hexpand, hl.compact hk hline],
    by rw [hexpand, hl.expand (mem_shortcuts hk) hline]⟩

/-- Expansion undoes compaction, and compaction undoes expansion unless the short path leads to a
protocol by way of its instance: that has a shorter form. -/
theorem expand_compact_inverse :
    (∀ p : String, p.toList.head? = some '/' → '\n' ∉ p.toList → expand (compact p) = p) ∧
    ∀ s p, Abbreviates s p → '\n' ∉ s.toList → expand s = p ∧
      ((¬∃ x ∈ protocols, ∃ i rest, IsInstance i ∧ s = instanceShort i (protocolPart x rest)) →
        compact (expand s) = s) ∧
      ∀ x ∈ protocols, ∀ i rest, IsInstance i → s = instanceShort i (protocolPart x rest) →
        compact (expand s) = protocolShort x i rest ∧ expand (compact (expand s)) = expand s := by
  constructor
  · intro p hp hline
    exact (expand_compact_iff hp).2 fun h => hline (List.mem_of_getLast? h.1)
  · intro s p h hs
    refine ⟨h.expand hs, fun hno => ?_, ?_⟩
    · rw [h.expand hs]
      rcases h.links with ⟨k, hk, hl⟩ | hl
      · exact hl.compact hk hs
      · refine general_compact hl hs fun x hx =>
          Option.eq_none_iff_forall_ne_some.2 fun f hf => hno ?_
        obtain ⟨i, rest, hi, he⟩ := exists_instanceShort hx hl hs hf
        exact ⟨x, hx, i, rest, hi, he⟩
    · rintro x hx i rest hi rfl
      obtain ⟨hc, he⟩ := compact_instanceShort hx hi hs
      exact ⟨hc, hc ▸ he⟩

theorem expand_compact_inverse_bgp :
    expand (compact "/lldp/interfaces") = "/lldp/interfaces" ∧
    compact (expand "interface[ethernet-1/1]/state") = "interface[ethernet-1/1]/state" ∧
    compact (expand (instanceShort "red" (protocolPart ("bgp", "BGP") "global"))) =
      protocolShort ("bgp", "BGP") "red" "global" := by
  have hinstance : IsInstance "red" := ⟨by decide, by decide⟩
  refine ⟨expand_compact_inverse.1 _ (by decide) (by decide), ?_, ?_⟩
  · have hport : IsInstance "ethernet-1/1" := ⟨by decide, by decide⟩
    refine (expand_compact_inverse.2 _ _ (.interface hport "state") (by decide)).2.1 ?_
    rintro ⟨x, -, i, rest, -, he⟩
    have hhead := congrArg (fun s => s.toList.head?) he
    unfold instanceShort at hhead
    simp at hhead
  · exact ((expand_compact_inverse.2 _ _ (.networkInstance hinstance _) (by decide +kernel)).2.2
      _ (by decide) _ _ hinstance rfl).1

end StateCheck.Path
