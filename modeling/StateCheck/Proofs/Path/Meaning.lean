import StateCheck.Proofs.Path.Grammar
import StateCheck.Proofs.Path.Short

/-!
The elements that short paths stand for.
-/

namespace StateCheck.Path

variable {cs rest w : List Char} {e : Element} {front es : List Element} {name key value : String}
  {s tail : String} {i : Option String} {p q : Path}

/-! ### Elements in front of a text -/

/-- The elements with a slash behind each of them. -/
def frontChars (front : List Element) : List Char := front.flatMap fun e => e.chars ++ ['/']

theorem frontChars_cons (e : Element) (front : List Element) :
    frontChars (e :: front) = e.chars ++ '/' :: frontChars front := by
  simp [frontChars]

theorem segments_frontChars (h : ∀ e ∈ front, e.WellFormed) (cs : List Char) :
    segments (frontChars front ++ cs) = (segments cs).map (front.map Element.chars ++ ·) := by
  induction front with
  | nil => cases hs : segments cs <;> simp [frontChars, hs, Except.map]
  | cons e front ih =>
    obtain ⟨he, hfront⟩ := List.forall_mem_cons.1 h
    have hsplit : frontChars (e :: front) ++ cs = e.chars ++ ['/'] ++ (frontChars front ++ cs) := by
      simp [frontChars_cons]
    rw [hsplit, segments_more (segment_iff.2 ⟨rfl, he⟩), ih hfront, map_map]
    rfl

/-- A well-formed element is known by its text. -/
theorem chars_inj {e' : Element} (he : e.WellFormed) (he' : e'.WellFormed)
    (h : e.chars = e'.chars) : e = e' := by
  have hread := readElement_eq_ok_iff.2 ⟨String.toList_ofList, he.readable⟩
  have hread' := readElement_eq_ok_iff.2 ⟨String.toList_ofList, he'.readable⟩
  rw [h, hread'] at hread
  exact (Except.ok.inj hread).symm

theorem map_chars_inj {es' : List Element} (he : ∀ e ∈ es, e.WellFormed)
    (he' : ∀ e ∈ es', e.WellFormed) (h : es.map Element.chars = es'.map Element.chars) :
    es = es' := by
  induction es generalizing es' with
  | nil => exact (List.map_eq_nil_iff.1 h.symm).symm
  | cons e es ih =>
    obtain ⟨e', es', rfl, hchars, hrest⟩ := List.map_eq_cons_iff.1 h.symm
    obtain ⟨he, hes⟩ := List.forall_mem_cons.1 he
    obtain ⟨he', hes'⟩ := List.forall_mem_cons.1 he'
    rw [chars_inj he he' hchars.symm, ih hes hes' hrest.symm]

/-- Reading goes on behind well-formed elements as it would alone. -/
theorem read_frontChars_iff (h : ∀ e ∈ front, e.WellFormed)
    (hs : s.toList = '/' :: (frontChars front ++ tail.toList)) :
    read s = .ok p ↔ ∃ q, read tail = .ok q ∧ p.elements = front ++ q.elements := by
  have hsegments : segments s.toList =
      (segments tail.toList).map (front.map Element.chars ++ ·) := by
    rw [hs, segments_slash, segments_frontChars h]
  simp only [read_eq_ok_iff, hsegments, WellFormed]
  constructor
  · rintro ⟨hmap, hp⟩
    obtain ⟨ws, hws, hchars⟩ := map_eq_ok hmap
    obtain ⟨es, es', hes, hfront, rfl⟩ := List.map_eq_append_iff.1 hchars.symm
    rw [hes] at hp
    obtain ⟨hp, hp'⟩ := List.forall_mem_append.1 hp
    exact ⟨⟨es'⟩, ⟨hws, hp'⟩, by rw [hes, map_chars_inj hp h hfront]⟩
  · rintro ⟨q, ⟨hq, hwell⟩, hp⟩
    rw [hq, hp, List.map_append]
    exact ⟨rfl, List.forall_mem_append.2 ⟨h, hwell⟩⟩

/-! ### Values in brackets -/

theorem Spells.exists_segment {c : Char} (h : Spells (c :: cs) es) (hc : c ≠ '/') :
    ∃ w e rest, Segment w e ∧ StartsWith '/' rest ∧ c :: cs = w ++ rest := by
  generalize hl : c :: cs = l at h
  cases h with
  | nothing => cases hl
  | @last _ e head => exact ⟨l, e, [], head, by simp [StartsWith], (List.append_nil l).symm⟩
  | skip =>
    cases hl
    exact absurd rfl hc
  | @more w cs e es head tail =>
    exact ⟨w, e, '/' :: cs, head, by simp [StartsWith], by simp⟩

/-- A slash or the end behind a name is no bracket. -/
theorem append_ne_of_startsWith {name name' : List Char} (ho : '[' ∉ name') (hs : '/' ∉ name)
    (hrest : StartsWith '/' rest) (cs : List Char) : name ++ '[' :: cs ≠ name' ++ rest := by
  intro h
  obtain ⟨a, hname, ha⟩ | ⟨a, hname, ha⟩ := List.append_eq_append_iff.1 h
  · cases a with
    | nil => cases hrest '[' (by rw [List.nil_append] at ha; rw [← ha]; rfl)
    | cons x a =>
      cases ha
      exact ho (by simp [hname])
  · cases a with
    | nil => cases hrest '[' (by rw [ha]; rfl)
    | cons x a =>
      have hx : x = '/' := hrest x (by rw [ha]; rfl)
      exact hs (by simp [hname, hx])

/-- A value in brackets that ends at the first closing one holds no opening one. -/
theorem not_mem_of_spells (hne : name ≠ "") (hname : ∀ c ∈ name.toList, c ≠ '/' ∧ c ≠ '[')
    (hkey : ∀ c ∈ key.toList, c ≠ '=' ∧ c ≠ ']') (hvalue : ']' ∉ value.toList)
    (h : Spells (name.toList ++ '[' :: (key.toList ++ '=' :: (value.toList ++ ']' :: cs))) es) :
    '[' ∉ value.toList := by
  have hslash : '/' ∉ name.toList := fun hm => (hname _ hm).1 rfl
  have hopen : '[' ∉ name.toList := fun hm => (hname _ hm).2 rfl
  have hequals : '=' ∉ key.toList := fun hm => (hkey _ hm).1 rfl
  have hclose : ']' ∉ key.toList := fun hm => (hkey _ hm).2 rfl
  obtain ⟨c, cs', hc⟩ := List.exists_cons_of_ne_nil
    (show name.toList ≠ [] by simpa using hne)
  have hstart : c ≠ '/' := fun he => hslash (by simp [hc, he])
  rw [hc, List.cons_append] at h
  obtain ⟨w, e, rest, hw, hrest, heq⟩ := h.exists_segment hstart
  obtain ⟨rfl, he⟩ := segment_iff.1 hw
  rw [← List.cons_append, ← hc, Element.chars, List.append_assoc] at heq
  cases hentries : e.keys.entries with
  | nil =>
    rw [hentries, List.flatMap_nil, List.nil_append] at heq
    exact absurd heq (append_ne_of_startsWith he.readable.name_open hslash hrest _)
  | cons kv kvs =>
    have hkv : kv ∈ e.keys.entries := by simp [hentries]
    have hgroup := he.readable.groups kv hkv
    rw [hentries, List.flatMap_cons, List.append_assoc, groupText_append] at heq
    -- The name, the group and its key end at the first character that ends each of them.
    obtain ⟨-, heq⟩ := first_inj hopen (by simp [StartsWith]) he.readable.name_open
      (by simp [StartsWith]) heq
    have hgroups : (key.toList ++ '=' :: value.toList) ++ ']' :: cs =
        (kv.1.toList ++ '=' :: kv.2.toList) ++ ']' :: (kvs.flatMap Element.groupText ++ rest) := by
      simpa using heq
    obtain ⟨heq, -⟩ := first_inj (c := ']') (by simp [hclose, hvalue]) (by simp [StartsWith])
      (by simp [hgroup.key_close, hgroup.value_close]) (by simp [StartsWith]) hgroups
    obtain ⟨-, heq⟩ := first_inj hequals (by simp [StartsWith]) hgroup.key_equals
      (by simp [StartsWith]) heq
    rw [(List.cons.inj heq).2]
    exact fun hm => (he.value_plain kv hkv _ hm).1 rfl

/-! ### The elements of short paths -/

namespace Element

def bare (name : String) : Element := ⟨name, .empty⟩

/-- The entry of a list that a name selects. -/
def named (list i : String) : Element := ⟨list, ⟨[("name", i)], by simp⟩⟩

/-- The entry of a protocol, which has its identifier for a name too. -/
def ofProtocol (identifier : String) : Element :=
  have hnodup : ["identifier", "name"].Nodup := by simp
  ⟨"protocol", ⟨[("identifier", identifier), ("name", identifier)], hnodup⟩⟩

theorem chars_bare (name : String) : (bare name).chars = name.toList := List.append_nil _

theorem chars_named (list i : String) :
    (named list i).chars = list.toList ++ '[' :: ("name".toList ++ '=' :: (i.toList ++ [']'])) := by
  simp [named, Element.chars, groupText]

theorem chars_ofProtocol (identifier : String) : (ofProtocol identifier).chars =
    "protocol[identifier=".toList ++ (identifier.toList ++ ("][name=".toList ++
      (identifier.toList ++ [']']))) := by
  simp [ofProtocol, Element.chars, groupText]

theorem wellFormed_named {list i : String} (hlist : (bare list).WellFormed)
    (hi : ∀ c ∈ i.toList, c ≠ '[' ∧ c ≠ ']') : (named list i).WellFormed := by
  refine wellFormed_iff.2 ⟨(wellFormed_iff.1 hlist).1, ?_⟩
  simpa [named] using hi

theorem wellFormed_bare {name : String} (hne : name ≠ "")
    (h : ∀ c ∈ name.toList, c ≠ '/' ∧ c ≠ '[' ∧ c ≠ ']') : (bare name).WellFormed :=
  wellFormed_iff.2 ⟨⟨hne, h⟩, by simp [bare, Table.empty]⟩

theorem wellFormed_ofProtocol {identifier : String}
    (h : ∀ c ∈ identifier.toList, c ≠ '[' ∧ c ≠ ']') : (ofProtocol identifier).WellFormed := by
  simpa [wellFormed_iff, ofProtocol] using h

end Element

/-- What a short path stands for: the instance in it, the elements in front, and the text of those
behind them. -/
inductive Means : String → Option String → List Element → String → Prop
  | protocol {x : String × String} (hx : x ∈ protocols) {i : String} (hi : IsInstance i)
      (rest : String) : Means (protocolShort x i rest) (some i)
        [.bare "network-instances", .named "network-instance" i, .bare "protocols",
          .ofProtocol x.2, .bare x.1] rest
  | interface {i : String} (hi : IsInstance i) (rest : String) :
      Means ("interface[" ++ i ++ "]/" ++ rest) (some i) [.bare "interfaces", .named "interface" i]
        rest
  | lldp (rest : String) : Means ("lldp/" ++ rest) none [.bare "lldp"] rest
  | system (rest : String) : Means ("system/" ++ rest) none [.bare "system"] rest
  | networkInstance {i : String} (hi : IsInstance i) (rest : String) :
      Means (instanceShort i rest) (some i)
        [.bare "network-instances", .named "network-instance" i] rest

theorem Means.toList_expand (h : Means s i front tail) (hr : '\n' ∉ tail.toList) :
    (expand s).toList = '/' :: (frontChars front ++ tail.toList) := by
  have hexpand {k : Shortcut} {f : Filling} (hk : k ∈ shortcuts) (hf : k.short.Takes f)
      (hs : s.toList = k.short.fill f) (hrest : f.rest = tail.toList) :
      (expand s).toList = k.canonical.fill f := by
    rw [← String.ofList_toList (s := s), hs, expand_fill hk hf (hrest ▸ hr), String.toList_ofList]
  cases h with
  | @protocol x hx i hi =>
    rw [hexpand (k := Path.protocol x.1 x.2) (f := ⟨i.toList, tail.toList⟩)
      (mem_shortcuts (mem_distinct hx)) ⟨by simpa using hi.1, hi.2⟩
      (by simp [protocolShort, Path.protocol, Shape.fill]) rfl]
    simp [Path.protocol, Shape.fill, frontChars, Element.chars_bare, Element.chars_named,
      Element.chars_ofProtocol]
  | @interface i hi =>
    rw [hexpand (k := ⟨.keyed "interface[" "]/", .keyed "/interfaces/interface[name=" "]/"⟩)
      (f := ⟨i.toList, tail.toList⟩) (by simp [shortcuts]) ⟨by simpa using hi.1, hi.2⟩
      (by simp [Shape.fill]) rfl]
    simp [Shape.fill, frontChars, Element.chars_bare, Element.chars_named]
  | lldp =>
    rw [hexpand (k := ⟨.plain "lldp/", .plain "/lldp/"⟩) (f := ⟨[], tail.toList⟩)
      (by simp [shortcuts]) rfl (by simp [Shape.fill]) rfl]
    simp [Shape.fill, frontChars, Element.chars_bare]
  | system =>
    rw [hexpand (k := ⟨.plain "system/", .plain "/system/"⟩) (f := ⟨[], tail.toList⟩)
      (by simp [shortcuts]) rfl (by simp [Shape.fill]) rfl]
    simp [Shape.fill, frontChars, Element.chars_bare]
  | @networkInstance i hi =>
    rw [hexpand (k := general) (f := ⟨i.toList, tail.toList⟩) (by simp [shortcuts_eq])
      ⟨by simpa using hi.1, hi.2⟩ (by unfold instanceShort; simp [general, Shape.fill]) rfl]
    simp [general, Shape.fill, frontChars, Element.chars_bare, Element.chars_named]

/-- An instance in a short path that can be read has no opening bracket. -/
theorem not_mem_of_read {list i : String} {behind : List Element}
    (hfront : ∀ e ∈ front, e.WellFormed) (hlist : (Element.bare list).WellFormed)
    (hi : ']' ∉ i.toList)
    (hs : s.toList = '/' :: (frontChars (front ++ .named list i :: behind) ++ cs))
    (h : read s = .ok p) : '[' ∉ i.toList := by
  have hsplit : s.toList = '/' :: (frontChars front ++
      (String.ofList (list.toList ++ '[' :: ("name".toList ++ '=' ::
        (i.toList ++ ']' :: ('/' :: frontChars behind ++ cs))))).toList) := by
    rw [hs, String.toList_ofList]
    simp [frontChars, Element.chars_named]
  obtain ⟨q, hq, -⟩ := (read_frontChars_iff hfront hsplit).1 h
  have hspells := ((read_eq_ok_iff_spells _).1 q).1 hq
  rw [String.toList_ofList] at hspells
  have hlist := (Element.wellFormed_iff.1 hlist).1
  exact not_mem_of_spells hlist.1 (fun c hc => ⟨(hlist.2 c hc).1, (hlist.2 c hc).2.1⟩) (by simp)
    hi hspells

/-- The names of the elements that short paths stand for. -/
def names : List String :=
  ["network-instances", "network-instance", "protocols", "bgp", "ospf", "isis", "interfaces",
    "interface", "lldp", "system"]

theorem wellFormed_of_mem (h : name ∈ names) : (Element.bare name).WellFormed := by
  have hall : ∀ name ∈ names, name ≠ "" ∧
      (name.toList.all fun c => c != '/' && c != '[' && c != ']') = true := by decide
  refine Element.wellFormed_bare (hall name h).1 fun c hc => ?_
  simpa [and_assoc] using List.all_eq_true.1 (hall name h).2 c hc

theorem wellFormed_protocol {x : String × String} (hx : x ∈ protocols) :
    (Element.ofProtocol x.2).WellFormed ∧ (Element.bare x.1).WellFormed := by
  have hall : ∀ x ∈ protocols, (x.2.toList.all fun c => c != '[' && c != ']') = true ∧
      x.1 ∈ names := by decide
  refine ⟨Element.wellFormed_ofProtocol fun c hc => ?_, wellFormed_of_mem (hall x hx).2⟩
  simpa using List.all_eq_true.1 (hall x hx).1 c hc

/-- With an instance that has no brackets a short path stands for well-formed elements. -/
theorem Means.wellFormed (h : Means s i front tail) (hi : ∀ j ∈ i, '[' ∉ j.toList) :
    ∀ e ∈ front, e.WellFormed := by
  have hnamed {list j : String} (hj : IsInstance j) (hmem : j ∈ i) (hlist : list ∈ names) :
      (Element.named list j).WellFormed :=
    Element.wellFormed_named (wellFormed_of_mem hlist) fun c hc =>
      ⟨fun he => hi j hmem (he ▸ hc), fun he => hj.2 (he ▸ hc)⟩
  cases h with
  | protocol hx hj =>
    obtain ⟨hprotocol, hname⟩ := wellFormed_protocol hx
    simp only [List.forall_mem_cons, List.not_mem_nil, false_imp_iff, implies_true, and_true]
    exact ⟨wellFormed_of_mem (by simp [names]), hnamed hj rfl (by simp [names]),
      wellFormed_of_mem (by simp [names]), hprotocol, hname⟩
  | interface hj | networkInstance hj =>
    simp only [List.forall_mem_cons, List.not_mem_nil, false_imp_iff, implies_true, and_true]
    exact ⟨wellFormed_of_mem (by simp [names]), hnamed hj rfl (by simp [names])⟩
  | lldp | system => exact List.forall_mem_singleton.2 (wellFormed_of_mem (by simp [names]))

theorem Means.not_mem_of_read (h : Means s i front tail) (hr : '\n' ∉ tail.toList)
    (hp : read (expand s) = .ok p) : ∀ j ∈ i, '[' ∉ j.toList := by
  have hs := h.toList_expand hr
  have hkeyed {plural list j : String} {behind : List Element} (hplural : plural ∈ names)
      (hlist : list ∈ names) (hj : IsInstance j)
      (hfront : front = [.bare plural] ++ .named list j :: behind) : '[' ∉ j.toList :=
    Path.not_mem_of_read (List.forall_mem_singleton.2 (wellFormed_of_mem hplural))
      (wellFormed_of_mem hlist) hj.2 (hfront ▸ hs) hp
  intro j hj
  cases h with
  | lldp | system => cases hj
  | protocol _ hi | interface hi | networkInstance hi =>
    cases hj
    exact hkeyed (by simp [names]) (by simp [names]) hi rfl

/-- A short path can be read if its instance has no opening bracket and the rest can be read, and
then its elements are those that it stands for and those of the rest. -/
theorem read_expand_iff_means (h : Means s i front tail) (hr : '\n' ∉ tail.toList) :
    read (expand s) = .ok p ↔ (∀ j ∈ i, '[' ∉ j.toList) ∧
      ∃ q, read tail = .ok q ∧ p.elements = front ++ q.elements := by
  have hread (hi : ∀ j ∈ i, '[' ∉ j.toList) : read (expand s) = .ok p ↔
      ∃ q, read tail = .ok q ∧ p.elements = front ++ q.elements :=
    read_frontChars_iff (h.wellFormed hi) (h.toList_expand hr)
  constructor
  · intro hp
    have hi := h.not_mem_of_read hr hp
    exact ⟨hi, (hread hi).1 hp⟩
  · rintro ⟨hi, hq⟩
    exact (hread hi).2 hq

/-- A slash in an instance does not end its element, and an equals sign stays in it. -/
theorem read_expand_bgp :
    read (expand (protocolShort ("bgp", "BGP") "a/b=c" "/global//state")) =
      .ok ⟨[.bare "network-instances", .named "network-instance" "a/b=c", .bare "protocols",
        .ofProtocol "BGP", .bare "bgp", .bare "global", .bare "state"]⟩ := by
  have hmeans := Means.protocol (x := ("bgp", "BGP")) (by decide) (i := "a/b=c")
    ⟨by decide, by decide⟩ "/global//state"
  have hrest : read "/global//state" = .ok ⟨[.bare "global", .bare "state"]⟩ := by
    refine read_eq_ok_iff.2 ⟨rfl, List.forall_mem_cons.2 ⟨?_, List.forall_mem_singleton.2 ?_⟩⟩
    · exact Element.wellFormed_bare (by simp) (by simp)
    · exact Element.wellFormed_bare (by simp) (by simp)
  exact (read_expand_iff_means hmeans (by decide)).2 ⟨by decide, _, hrest, rfl⟩

end StateCheck.Path
