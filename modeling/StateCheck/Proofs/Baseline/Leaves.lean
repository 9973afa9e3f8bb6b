import StateCheck.Baseline.Generation
import StateCheck.Proofs.Path.Meaning

/-!
The parts of device state that baselines describe: the paths under which assertions name them, and
the elements that these paths come to once they are read.
-/

namespace StateCheck.Baseline

open StateCheck.Path

/-- A part of the state of a device, with the texts of the device that its path is made of. -/
inductive Leaf
  | session (address : String)
  /-- The name of the family may have a module in front. -/
  | family (address name : String)
  | status (interface : String) (set : interface ≠ "")
  | system (interface : String)
  | adjacency (area interface neighbor : String)
  | hostname
  | version
  | tunnelSource
  | vlan (number : Int)
  | vrf (name : String)

namespace Leaf

/-- The path of the assertion about it. -/
def path : Leaf → String
  | session address =>
    "bgp[default]/neighbors/neighbor[neighbor-address=" ++ address ++ "]" ++ "/state/session-state"
  | family address name =>
    "bgp[default]/neighbors/neighbor[neighbor-address=" ++ address ++ "]" ++
      "/afi-safis/afi-safi[afi-safi-name=" ++ localName name ++ "]/state/active"
  | status interface _ => "interface[" ++ interface ++ "]/state/oper-status"
  | system interface =>
    "lldp/interfaces/interface[name=" ++ interface ++ "]/neighbors/neighbor/state/system-name"
  | adjacency area interface neighbor =>
    "ospf[default]/areas/area[identifier=" ++ area ++ "]/interfaces/interface[id=" ++ interface ++
      "]/neighbors/neighbor[neighbor-id=" ++ neighbor ++ "]/state/adjacency-state"
  | hostname => "system/state/hostname"
  | version => "system/state/software-version"
  | tunnelSource => Vxlan.start ++ "/state/src-ip-intf"
  | vlan number =>
    Vxlan.start ++ "/vlan-to-vnis/vlan-to-vni[vlan=" ++ Vxlan.numberText number ++ "]/state/vni"
  | vrf name => Vxlan.start ++ "/vrf-to-vnis/vrf-to-vni[vrf=" ++ name ++ "]/state/vni"

/-- The texts of the device in the path, each behind the name of the member that holds it. -/
def keys : Leaf → List (String × String)
  | session address => [("neighbor-address", address)]
  | family address name => [("neighbor-address", address), ("afi-safi-name", name)]
  | status interface _ | system interface => [("name", interface)]
  | adjacency area interface neighbor =>
    [("identifier", area), ("id", interface), ("neighbor-id", neighbor)]
  | vrf name => [("vrf", name)]
  | hostname | version | tunnelSource | vlan _ => []

/-! ### Elements -/

def plain (name : String) : Element := ⟨name, .empty⟩

def entry (name key value : String) : Element := ⟨name, ⟨[(key, value)], by simp⟩⟩

@[simp]
theorem chars_plain (name : String) : (plain name).chars = name.toList := Element.chars_bare name

@[simp]
theorem chars_entry (name key value : String) : (entry name key value).chars =
    name.toList ++ '[' :: (key.toList ++ '=' :: (value.toList ++ [']'])) := by
  simp [entry, Element.chars, Element.groupText]

/-- A protocol that goes by its identifier. -/
def protocolEntry (identifier : String) : Element :=
  ⟨"protocol", ⟨[("identifier", identifier), ("name", identifier)], by simp⟩⟩

@[simp]
theorem chars_protocolEntry (identifier : String) : (protocolEntry identifier).chars =
    "protocol[identifier=".toList ++ (identifier.toList ++ ("][name=".toList ++
      (identifier.toList ++ [']']))) := Element.chars_ofProtocol identifier

/-- The way to the state of a protocol in the standard network instance. -/
def protocolElements (name identifier : String) : List Element :=
  [plain "network-instances", entry "network-instance" "name" "default", plain "protocols",
    protocolEntry identifier, plain name]

def tunnelElements : List Element :=
  [plain "interfaces", entry "interface" "name" "Vxlan1", plain "arista-vxlan"]

/-- The elements of the canonical path. -/
def elements : Leaf → List Element
  | session address =>
    protocolElements "bgp" "BGP" ++ [plain "neighbors", entry "neighbor" "neighbor-address" address,
      plain "state", plain "session-state"]
  | family address name =>
    protocolElements "bgp" "BGP" ++ [plain "neighbors", entry "neighbor" "neighbor-address" address,
      plain "afi-safis", entry "afi-safi" "afi-safi-name" (localName name), plain "state",
      plain "active"]
  | status interface _ =>
    [plain "interfaces", entry "interface" "name" interface, plain "state", plain "oper-status"]
  | system interface =>
    [plain "lldp", plain "interfaces", entry "interface" "name" interface, plain "neighbors",
      plain "neighbor", plain "state", plain "system-name"]
  | adjacency area interface neighbor =>
    protocolElements "ospf" "OSPF" ++ [plain "areas", entry "area" "identifier" area,
      plain "interfaces", entry "interface" "id" interface, plain "neighbors",
      entry "neighbor" "neighbor-id" neighbor, plain "state", plain "adjacency-state"]
  | hostname => [plain "system", plain "state", plain "hostname"]
  | version => [plain "system", plain "state", plain "software-version"]
  | tunnelSource => tunnelElements ++ [plain "state", plain "src-ip-intf"]
  | vlan number =>
    tunnelElements ++ [plain "vlan-to-vnis",
      entry "vlan-to-vni" "vlan" (Vxlan.numberText number), plain "state", plain "vni"]
  | vrf name =>
    tunnelElements ++ [plain "vrf-to-vnis", entry "vrf-to-vni" "vrf" name, plain "state",
      plain "vni"]

/-! ### Texts that fit into a path -/

/-- A text without brackets and line breaks. -/
def Smooth (text : String) : Prop := ∀ c ∈ text.toList, c ≠ '[' ∧ c ≠ ']' ∧ c ≠ '\n'

theorem smooth_of_all {text : String}
    (h : (text.toList.all fun c => c != '[' && c != ']' && c != '\n') = true) : Smooth text := by
  intro c hc
  simpa [and_assoc] using List.all_eq_true.1 h c hc

theorem smooth_localName {name : String} (h : Smooth name) : Smooth (localName name) := by
  intro c hc
  simp only [localName, Text.afterLast, String.toList_ofList, List.mem_reverse] at hc
  exact h c (List.mem_reverse.1 ((List.takeWhile_sublist _).subset hc))

theorem digitChar_smooth : ∀ d < 10, Text.digitChar d ≠ '[' ∧ Text.digitChar d ≠ ']' ∧
    Text.digitChar d ≠ '\n' := by decide

theorem decimal_smooth (n : Nat) : ∀ c ∈ Text.decimal n, c ≠ '[' ∧ c ≠ ']' ∧ c ≠ '\n' := by
  induction n using Nat.strong_induction_on with
  | _ n ih =>
    rw [Text.decimal]
    split
    · next hlt => simpa using digitChar_smooth n hlt
    · next hge =>
      simp only [List.mem_append, List.mem_singleton]
      rintro c (hc | rfl)
      · exact ih (n / 10) (by omega) c hc
      · exact digitChar_smooth (n % 10) (by omega)

theorem smooth_numberText (i : Int) : Smooth (Vxlan.numberText i) := by
  intro c hc
  rw [Vxlan.numberText, String.toList_ofList] at hc
  cases i with
  | ofNat n => exact decimal_smooth n c hc
  | negSucc n =>
    rcases List.mem_cons.1 hc with rfl | hc
    · decide
    · exact decimal_smooth (n + 1) c hc

/-! ### Canonical paths -/

variable {leaf : Leaf} {name key value : String}

/-- Characters that a name in a path may hold. -/
def isPlainName (name : String) : Bool :=
  name ≠ "" && name.toList.all fun c => c ≠ '/' && c ≠ '[' && c ≠ ']' && c ≠ '='

theorem wellFormed_plain (h : isPlainName name = true) : (plain name).WellFormed := by
  simp only [isPlainName, Bool.and_eq_true, List.all_eq_true, decide_eq_true_eq] at h
  obtain ⟨hne, hname⟩ := h
  refine Element.wellFormed_bare hne fun c hc => ?_
  obtain ⟨⟨⟨hs, ho⟩, hc⟩, -⟩ := hname c hc
  exact ⟨hs, ho, hc⟩

theorem wellFormed_entry (h : isPlainName name = true) (hk : isPlainName key = true)
    (hv : Smooth value) : (entry name key value).WellFormed := by
  have hplain := Element.wellFormed_iff.1 (wellFormed_plain h)
  simp only [isPlainName, Bool.and_eq_true, List.all_eq_true, decide_eq_true_eq] at hk
  obtain ⟨hne, hkey⟩ := hk
  refine Element.wellFormed_iff.2 ⟨hplain.1, ?_⟩
  simp only [entry, List.mem_singleton, forall_eq]
  refine ⟨hne, fun c hc => ?_, fun c hc => ⟨(hv c hc).1, (hv c hc).2.1⟩⟩
  obtain ⟨⟨⟨-, ho⟩, hc⟩, he⟩ := hkey c hc
  exact ⟨he, ho, hc⟩

theorem wellFormed_protocolElements (name identifier : String) (h : isPlainName name = true)
    (hi : Smooth identifier) : ∀ e ∈ protocolElements name identifier, e.WellFormed := by
  have hdefault : Smooth "default" := smooth_of_all (by decide)
  have hprotocol : (protocolEntry identifier).WellFormed :=
    Element.wellFormed_ofProtocol fun c hc => ⟨(hi c hc).1, (hi c hc).2.1⟩
  simp only [protocolElements, List.forall_mem_cons, List.not_mem_nil, false_imp_iff, implies_true,
    and_true]
  exact ⟨wellFormed_plain (by decide), wellFormed_entry (by decide) (by decide) hdefault,
    wellFormed_plain (by decide), hprotocol, wellFormed_plain h⟩

/-- What the canonical path comes to can be written and read again if the texts of the device
fit. -/
theorem wellFormed_elements (h : ∀ kv ∈ leaf.keys, Smooth kv.2) :
    ∀ e ∈ leaf.elements, e.WellFormed := by
  have hbgp := wellFormed_protocolElements "bgp" "BGP" (by decide) (smooth_of_all (by decide))
  have hospf := wellFormed_protocolElements "ospf" "OSPF" (by decide) (smooth_of_all (by decide))
  have htunnel : Smooth "Vxlan1" := smooth_of_all (by decide)
  cases leaf with
  | session address =>
    simp only [keys, List.mem_singleton, forall_eq] at h
    refine List.forall_mem_append.2 ⟨hbgp, ?_⟩
    simp [wellFormed_plain, wellFormed_entry, isPlainName, h]
  | family address name =>
    simp only [keys, List.forall_mem_cons, List.not_mem_nil] at h
    refine List.forall_mem_append.2 ⟨hbgp, ?_⟩
    simp [wellFormed_plain, wellFormed_entry, isPlainName, h, smooth_localName]
  | adjacency area interface neighbor =>
    simp only [keys, List.forall_mem_cons, List.not_mem_nil] at h
    refine List.forall_mem_append.2 ⟨hospf, ?_⟩
    simp [wellFormed_plain, wellFormed_entry, isPlainName, h]
  | status name | system name | vrf name =>
    simp only [keys, List.mem_singleton, forall_eq] at h
    simp [elements, tunnelElements, wellFormed_plain, wellFormed_entry, isPlainName, h, htunnel]
  | hostname | version | tunnelSource | vlan number =>
    simp [elements, tunnelElements, wellFormed_plain, wellFormed_entry, isPlainName, htunnel,
      smooth_numberText]

/-- The path of the elements. -/
def canonical (leaf : Leaf) : Path := ⟨leaf.elements⟩

theorem Smooth.line {text : String} (h : Smooth text) : '\n' ∉ text.toList :=
  fun hm => (h _ hm).2.2 rfl

theorem toList_start :
    Vxlan.start.toList = "interfaces/interface[name=Vxlan1]/arista-vxlan".toList := by
  decide +kernel

theorem line_start : '\n' ∉ Vxlan.start.toList := by decide +kernel

theorem line_path (h : ∀ kv ∈ leaf.keys, Smooth kv.2) : '\n' ∉ leaf.path.toList := by
  cases leaf with
  | session address | status address | system address | vrf address =>
    simp only [keys, List.mem_singleton, forall_eq] at h
    unfold path
    simp [h.line, line_start]
  | family address name =>
    simp only [keys, List.forall_mem_cons, List.not_mem_nil] at h
    unfold path
    simp [h.1.line, (smooth_localName h.2.1).line]
  | adjacency area interface neighbor =>
    simp only [keys, List.forall_mem_cons, List.not_mem_nil] at h
    unfold path
    simp [h.1.line, h.2.1.line, h.2.2.1.line]
  | hostname | version | tunnelSource | vlan number =>
    unfold path
    simp [(smooth_numberText _).line, line_start]

theorem expand_abbreviated {short long : String} (h : Abbreviates short long)
    (hline : '\n' ∉ leaf.path.toList) (hs : leaf.path.toList = short.toList)
    (hp : leaf.canonical.chars = long.toList) : expand leaf.path = leaf.canonical.text := by
  have hpath : leaf.path = short := String.toList_inj.1 hs
  rw [hpath] at hline ⊢
  rw [h.expand hline, Path.text, hp, String.ofList_toList]

theorem chars_protocol (x : String × String) {es : List Element} {rest : String} (hes : es ≠ [])
    (hp : joinSegments (es.map Element.chars) = rest.toList) :
    (Path.mk (protocolElements x.1 x.2 ++ es)).chars =
      (instancePath "default" (protocolPart x rest)).toList := by
  have hne : es.map Element.chars ≠ [] := by simpa using hes
  unfold instancePath protocolPart
  simp [Path.chars, protocolElements, joinSegments_cons, hne, hp]

theorem expand_tunnel (rest : String) {short : String} {es : List Element} (hes : es ≠ [])
    (hs : short = Vxlan.start ++ "/" ++ rest)
    (hp : joinSegments (es.map Element.chars) = rest.toList) :
    expand short = (Path.mk (tunnelElements ++ es)).text := by
  have hshort : isShort short = true := by simp [isShort, hs, toList_start]
  have hdiverge : ∀ k ∈ shortcuts, Shape.diverge k.short.opening "interfaces/" = true := by
    decide +kernel
  have hsplit : short.toList =
      "interfaces/".toList ++ ("interface[name=Vxlan1]/arista-vxlan/".toList ++ rest.toList) := by
    simp [hs, toList_start]
  have hne : es.map Element.chars ≠ [] := by simpa using hes
  rw [expand_of_diverge hshort hdiverge hsplit, ← String.toList_inj]
  simp [Path.text, Path.chars, tunnelElements, joinSegments_cons, hne, hp, hs, toList_start]

/-- Expansion gives the canonical path if the texts of the device fit. -/
theorem expand_path (h : ∀ kv ∈ leaf.keys, Smooth kv.2) :
    expand leaf.path = leaf.canonical.text := by
  have hbgp : ("bgp", "BGP") ∈ protocols := by decide
  have hospf : ("ospf", "OSPF") ∈ protocols := by decide
  have hdefault : IsInstance "default" := by unfold IsInstance; decide
  have hline := line_path h
  cases leaf with
  | session address =>
    refine expand_abbreviated (.protocol hbgp hdefault
      ("neighbors/neighbor[neighbor-address=" ++ address ++ "]/state/session-state")) hline ?_ ?_
    · unfold path protocolShort
      simp
    · exact chars_protocol ("bgp", "BGP") (by simp) (by simp [joinSegments])
  | family address name =>
    refine expand_abbreviated (.protocol hbgp hdefault ("neighbors/neighbor[neighbor-address=" ++
      address ++ "]/afi-safis/afi-safi[afi-safi-name=" ++ localName name ++ "]/state/active")) hline
      ?_ ?_
    · unfold path protocolShort
      simp
    · exact chars_protocol ("bgp", "BGP") (by simp) (by simp [joinSegments])
  | adjacency area interface neighbor =>
    refine expand_abbreviated (.protocol hospf hdefault ("areas/area[identifier=" ++ area ++
      "]/interfaces/interface[id=" ++ interface ++ "]/neighbors/neighbor[neighbor-id=" ++
      neighbor ++ "]/state/adjacency-state")) hline ?_ ?_
    · unfold path protocolShort
      simp
    · exact chars_protocol ("ospf", "OSPF") (by simp) (by simp [joinSegments])
  | status interface set =>
    simp only [keys, List.mem_singleton, forall_eq] at h
    have hname : IsInstance interface := ⟨set, fun hm => (h _ hm).2.1 rfl⟩
    refine expand_abbreviated (.interface hname "state/oper-status") hline ?_ ?_
    · unfold path
      simp
    · simp [Path.chars, canonical, elements, joinSegments]
  | system interface =>
    refine expand_abbreviated (.lldp ("interfaces/interface[name=" ++ interface ++
      "]/neighbors/neighbor/state/system-name")) hline ?_ ?_
    · unfold path
      simp
    · simp [Path.chars, canonical, elements, joinSegments]
  | hostname =>
    exact expand_abbreviated (.system "state/hostname") hline (by decide +kernel)
      (by decide +kernel)
  | version =>
    exact expand_abbreviated (.system "state/software-version") hline (by decide +kernel)
      (by decide +kernel)
  -- No shortcut fits the paths of the tunnel.
  | tunnelSource =>
    exact expand_tunnel "state/src-ip-intf" (by simp) (by decide +kernel) (by decide +kernel)
  | vlan number =>
    refine expand_tunnel ("vlan-to-vnis/vlan-to-vni[vlan=" ++ Vxlan.numberText number ++
      "]/state/vni") (by simp) ?_ (by simp [joinSegments])
    unfold path
    rw [← String.toList_inj]
    simp
  | vrf name =>
    refine expand_tunnel ("vrf-to-vnis/vrf-to-vni[vrf=" ++ name ++ "]/state/vni") (by simp) ?_
      (by simp [joinSegments])
    unfold path
    rw [← String.toList_inj]
    simp

/-- The path can be read once it is expanded, if the texts of the device fit. -/
theorem exists_read (h : ∀ kv ∈ leaf.keys, Smooth kv.2) :
    ∃ p, Path.read (expand leaf.path) = .ok p := by
  have hp : leaf.canonical.WellFormed := wellFormed_elements h
  refine ⟨leaf.canonical, read_eq_ok_iff.2 ⟨?_, hp⟩⟩
  rw [expand_path h, Path.text, String.toList_ofList, segments_chars hp]

theorem head?_path (leaf : Leaf) : ∃ c, leaf.path.toList.head? = some c ∧ c ≠ '/' := by
  cases leaf <;> unfold path <;> simp [toList_start]

/-- No path of an assertion starts at the root, so that none has a shorter form. -/
theorem compact_path (leaf : Leaf) : compact leaf.path = leaf.path := by
  obtain ⟨c, hc, hne⟩ := leaf.head?_path
  exact compact_of_isShort (by simp [isShort, hc, hne])

theorem path_ne_empty (leaf : Leaf) : leaf.path ≠ "" := by
  obtain ⟨c, hc, -⟩ := leaf.head?_path
  intro hempty
  rw [hempty] at hc
  cases hc

end Leaf

end StateCheck.Baseline
