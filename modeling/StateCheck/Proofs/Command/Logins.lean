import StateCheck.Proofs.Command.ExitCode
import StateCheck.Proofs.Run.Logs

/-!
How commands log in to the members of a group: the credentials with which a baseline is generated
from them, and those with which assertions are evaluated on them.
-/

namespace StateCheck

/-! ### Layers of credentials -/

namespace Credentials

/-- The first text that is set, if there is one. -/
def firstSet (texts : List String) : String := (texts.find? (· != "")).getD ""

/-- What several credentials come to: of each part the first that is set. -/
def layered (layers : List Credentials) : Credentials where
  username := firstSet (layers.map username)
  password := firstSet (layers.map password)
  insecure := layers.any insecure

variable {layers : List Credentials} {c : Credentials}

theorem orElse_firstSet (texts : List String) (s : String) :
    orElse (firstSet texts) s = firstSet (texts ++ [s]) := by
  unfold firstSet
  cases h : texts.find? (· != "") with
  | none => by_cases hs : s = "" <;> simp [List.find?_append, h, orElse, hs]
  | some x =>
    have hx : x ≠ "" := by simpa using List.find?_some h
    simp [List.find?_append, h, orElse, hx]

theorem layered_append (layers : List Credentials) (c : Credentials) :
    layered (layers ++ [c]) = (layered layers).fill c := by
  simp [layered, fill, orElse_firstSet]

theorem layered_singleton (c : Credentials) : layered [c] = c := by
  obtain ⟨username, password, insecure⟩ := c
  by_cases hu : username = "" <;> by_cases hp : password = "" <;>
    simp [layered, firstSet, hu, hp]

theorem fill_assoc (b c d : Credentials) : (b.fill c).fill d = b.fill (c.fill d) := by
  have hor (r s t : String) : orElse (orElse r s) t = orElse r (orElse s t) := by
    by_cases hr : r = "" <;> simp [orElse, hr]
  simp [fill, hor, Bool.or_assoc]

theorem none_fill (c : Credentials) : none.fill c = c := rfl

theorem orElse_eq_self_iff {s t : String} : orElse s t = s ↔ t = "" ∨ s ≠ "" := by
  by_cases hs : s = "" <;> simp [orElse, hs]

theorem firstSet_ne_iff {texts : List String} : firstSet texts ≠ "" ↔ ∃ s ∈ texts, s ≠ "" := by
  unfold firstSet
  cases h : texts.find? (· != "") with
  | none => simpa using h
  | some x =>
    have hx : x ≠ "" := by simpa using List.find?_some h
    exact iff_of_true hx ⟨x, List.mem_of_find?_eq_some h, hx⟩

/-- The last layer sets nothing that is not set before it. -/
structure Spare (layers : List Credentials) (c : Credentials) : Prop where
  username : c.username = "" ∨ ∃ d ∈ layers, d.username ≠ ""
  password : c.password = "" ∨ ∃ d ∈ layers, d.password ≠ ""
  insecure : c.insecure = false ∨ ∃ d ∈ layers, d.insecure = true

theorem layered_append_eq_iff : layered (layers ++ [c]) = layered layers ↔ Spare layers c := by
  have hinsecure : ((layers.any insecure || c.insecure) = layers.any insecure) ↔
      c.insecure = false ∨ ∃ d ∈ layers, d.insecure = true := by
    rw [← List.any_eq_true]
    cases layers.any insecure <;> simp
  have hset (part : Credentials → String) :
      firstSet (layers.map part) ≠ "" ↔ ∃ d ∈ layers, part d ≠ "" := by
    simp [firstSet_ne_iff]
  rw [layered_append]
  simp only [fill, layered, mk.injEq, orElse_eq_self_iff, hset, hinsecure]
  exact ⟨fun ⟨hu, hp, hi⟩ => ⟨hu, hp, hi⟩, fun h => ⟨h.username, h.password, h.insecure⟩⟩

end Credentials

namespace Settings

/-- What settings say about an address, what counts most first. -/
def layers (s : Settings) (address : String) : List Credentials :=
  ((s.overrides.get? address).map fun o =>
    ⟨o.username, o.password, o.insecure.getD false⟩).toList ++ [s.defaults]

theorem credentials_eq (s : Settings) (address : String) :
    s.credentials address = Credentials.layered (s.layers address) := by
  rw [layers, Credentials.layered_append, credentials]
  cases s.overrides.get? address with
  | none => rfl
  | some o =>
    have hsole : Credentials.layered [⟨o.username, o.password, o.insecure.getD false⟩] =
        ⟨o.username, o.password, o.insecure.getD false⟩ := Credentials.layered_singleton _
    exact (congrArg (Credentials.fill · s.defaults) hsole).symm

theorem credentials_fillDefaults (s : Settings) (c : Credentials) (address : String) :
    (s.fillDefaults c).credentials address =
      Credentials.layered (s.layers address ++ [c]) := by
  rw [Credentials.layered_append, ← credentials_eq]
  unfold credentials fillDefaults
  cases s.overrides.get? address with
  | none => rfl
  | some o => exact (Credentials.fill_assoc ..).symm

end Settings

namespace Command

/-! ### Sessions of an action -/

def Deed.session? : Deed → Option Device.Connection
  | .opened c | .refused c => some c
  | .asked .. | .closed _ => none

/-- The sessions that were opened or refused, in their order. -/
def Trace.sessions (t : Trace) : List Device.Connection := t.deeds.filterMap Deed.session?

namespace Action

variable {α β : Type} {a : Action α} {f : α → Action β} {cs ds : List Device.Connection}

/-- The action tries to open these sessions in their order. If it stops before its end, it may
leave out the last of them. -/
def Opens (a : Action α) (cs : List Device.Connection) : Prop :=
  ∀ t, ∃ done, done <+: cs ∧ (a.run t).2.sessions = t.sessions ++ done ∧
    ∀ x, (a.run t).1 = .ok x → done = cs

theorem run_bind (a : Action α) (f : α → Action β) (t : Trace) : (a >>= f).run t =
    match a.run t with
    | (.ok x, t') => (f x).run t'
    | (.error e, t') => (.error e, t') := by
  change (match a.run t with | (r, t') => (ExceptT.bindCont f r) t') = _
  obtain ⟨r, t'⟩ := a.run t
  cases r <;> rfl

theorem Opens.bind (ha : Opens a cs) (hf : ∀ x, Opens (f x) ds) : Opens (a >>= f) (cs ++ ds) := by
  intro t
  obtain ⟨done, hdone, hsessions, hall⟩ := ha t
  rw [run_bind]
  cases hr : a.run t with
  | mk r t' =>
    rw [hr] at hsessions hall
    cases r with
    | error e => exact ⟨done, hdone.trans (List.prefix_append cs ds), hsessions, nofun⟩
    | ok x =>
      obtain ⟨done', hdone', hsessions', hall'⟩ := hf x t'
      obtain rfl := hall x rfl
      refine ⟨done ++ done', List.prefix_append_right_inj done |>.2 hdone', ?_, fun y hy => ?_⟩
      · rw [hsessions', hsessions, List.append_assoc]
      · rw [hall' y hy]

theorem Opens.nil_bind (ha : Opens a []) (hf : ∀ x, Opens (f x) cs) : Opens (a >>= f) cs :=
  ha.bind hf

theorem opens_of_deeds (h : ∀ t, (a.run t).2.deeds = t.deeds) : Opens a [] := by
  intro t
  refine ⟨[], List.nil_prefix, ?_, fun _ _ => rfl⟩
  rw [Trace.sessions, h, List.append_nil, Trace.sessions]

theorem opens_of_error (h : ∀ t, ∃ s, (a.run t).1 = .error s ∧ (a.run t).2.deeds = t.deeds)
    (cs : List Device.Connection) : Opens a cs := by
  intro t
  obtain ⟨s, hs, hdeeds⟩ := h t
  refine ⟨[], List.nil_prefix, ?_, fun x hx => ?_⟩
  · rw [Trace.sessions, hdeeds, List.append_nil, Trace.sessions]
  · rw [hs] at hx
    cases hx

theorem opens_record (deeds : List Deed) :
    Opens (record deeds) (deeds.filterMap Deed.session?) :=
  fun _ => ⟨_, List.prefix_refl _, List.filterMap_append, fun _ _ => rfl⟩

theorem opens_setFiles (x : Except Files.Refusal Files) : Opens (setFiles x) [] := by
  cases x <;> exact opens_of_deeds fun _ => rfl

theorem opens_expect (x : Except Fault α) : Opens (expect x) [] := by
  cases x with
  | ok v => exact opens_of_deeds fun _ => rfl
  | error e => cases e <;> exact opens_of_deeds fun _ => rfl

/-- What goes on with the value of an outcome, if there is one. -/
theorem opens_expect_bind {x : Except Fault α} (hf : ∀ v, x = .ok v → Opens (f v) cs) :
    Opens (expect x >>= f) cs := by
  cases x with
  | ok v => exact hf v rfl
  | error e => cases e <;> exact opens_of_error (fun _ => ⟨_, rfl, rfl⟩) cs

theorem opens_ofNoted_bind {x : Noted α} (hf : ∀ v, x.outcome = .ok v → Opens (f v) cs) :
    Opens (ofNoted x >>= f) cs := by
  have hnote : Opens (note x.notices) [] := opens_of_deeds fun _ => rfl
  rw [ofNoted, bind_assoc]
  exact hnote.nil_bind fun _ => opens_expect_bind hf

theorem opens_inSession (network : Device.Network) (c : Device.Connection) {asked : List Deed}
    (hasked : asked.filterMap Deed.session? = []) (outcome : Except Fault α) :
    Opens (inSession network c asked outcome) [c] := by
  unfold inSession
  cases network.connect c with
  | some e => exact (opens_record [.refused c]).bind fun _ => opens_expect _
  | none =>
    have hrecord := opens_record ([.opened c] ++ asked ++ [.closed c])
    have hdeeds : ([Deed.opened c] ++ asked ++ [Deed.closed c]).filterMap Deed.session? = [c] := by
      simp [hasked, Deed.session?]
    rw [hdeeds] at hrecord
    refine hrecord.bind fun _ => ?_
    dsimp only
    split
    · have hnote : Opens (note ["Error during close in __exit__"]) [] := opens_of_deeds fun _ => rfl
      exact hnote.nil_bind fun _ => opens_expect _
    · exact opens_expect _

end Action

/-! ### Sessions of a baseline -/

variable {here : Surroundings} {o : BaselineOptions} {settings : Settings}
  {limit : Option Binary64} {hosts : List String}

open StateCheck.Command.Action

/-- The connection over which a baseline is generated from a host. -/
def loginTo (settings : Settings) (limit : Option Binary64) (a : Access) (host : String) :
    Device.Connection :=
  { a with target := host }.connection settings limit

theorem connect_eq {a : Access} {c : Device.Connection} (hs : settingsOf here = .ok settings)
    (hl : settings.timeLimit = .ok limit) (h : connect here a = .ok c) :
    c = a.connection settings limit := by
  unfold connect at h
  rw [hs] at h
  change (settings.timeLimit.mapError Fault.ofFailure).bind _ = _ at h
  rw [hl] at h
  exact (Except.ok.inj h).symm

theorem opens_surveyHost (hs : settingsOf here = .ok settings)
    (hl : settings.timeLimit = .ok limit) (a : Access) (names : List String) (host : String) :
    Opens (surveyHost here a names host) [loginTo settings limit a host] := by
  refine opens_expect_bind fun c hc => ?_
  obtain rfl := connect_eq hs hl hc
  refine opens_inSession _ _ ?_ _
  simp [List.filterMap_map, Deed.session?, Function.comp_def]

theorem opens_surveyHosts (hs : settingsOf here = .ok settings)
    (hl : settings.timeLimit = .ok limit) (a : Access) (names : List String) (several : Bool)
    (hosts : List String) :
    Opens (surveyHosts here a names several hosts) (hosts.map (loginTo settings limit a)) := by
  induction hosts with
  | nil => exact opens_of_deeds fun _ => rfl
  | cons host hosts ih =>
    refine (opens_surveyHost hs hl a names host).bind fun f => ?_
    have hrest : Opens (surveyHosts here a names several hosts >>= fun rest =>
        pure (f.targets ++ rest)) (hosts.map (loginTo settings limit a)) := by
      have hbind := ih.bind fun rest => opens_of_deeds (a := pure (f.targets ++ rest)) fun _ => rfl
      rwa [List.append_nil] at hbind
    dsimp only
    split
    · exact (opens_of_deeds fun _ => rfl).nil_bind fun _ => hrest
    · exact hrest

theorem opens_generate (hs : settingsOf here = .ok settings)
    (hl : settings.timeLimit = .ok limit)
    (hhosts : ∀ hosts', (hostsOf here o).outcome = .ok hosts' → hosts' = hosts) :
    Opens (generate here o) (hosts.map (loginTo settings limit o.access)) := by
  refine opens_expect_bind fun names _ => opens_ofNoted_bind fun hosts' heq => ?_
  obtain rfl := hhosts hosts' heq
  have hsurvey := opens_surveyHosts hs hl o.access names (1 < hosts'.length) hosts'
  rw [← List.append_nil (hosts'.map _)]
  refine hsurvey.bind fun targets => ?_
  dsimp only
  split
  · exact opens_of_deeds fun _ => rfl
  · refine (opens_of_deeds fun _ => rfl).nil_bind fun t => ?_
    exact (opens_setFiles _).nil_bind fun _ => opens_of_deeds fun _ => rfl

/-! ### Inventories of both commands -/

variable {r : RunOptions} {setup : Setup} {f : AssertionFile} {t : Target} {group : String}
  {i : Inventory} {members : List String}

/-- What an inventory is wanted for matters only if there is none. -/
theorem requireInventory_congr {file reason reason' : String}
    (h : (requireInventory here file reason).outcome = .ok i) :
    (requireInventory here file reason').outcome = .ok i := by
  unfold requireInventory at h ⊢
  split
  · next hfile =>
    rw [if_pos hfile, Noted.outcome_bind] at h
    rw [Noted.outcome_bind]
    obtain ⟨found, hfound, hi⟩ := bind_eq_ok h
    rw [hfound]
    cases found with
    | some i' => exact hi
    | none => cases hi
  · next hfile => rwa [if_neg hfile] at h

theorem hostsOf_eq {reason : String} (hgroup : Inventory.reference? o.access.target = some group)
    (hi : (requireInventory here o.inventory reason).outcome = .ok i)
    (hm : i.groups.get? group = some members) (h : (hostsOf here o).outcome = .ok hosts) :
    hosts = members.map i.defaults.address := by
  unfold hostsOf at h
  dsimp only at h
  rw [hgroup] at h
  dsimp only at h
  rw [Noted.outcome_bind, requireInventory_congr hi] at h
  dsimp only [Except.bind] at h
  rw [hm] at h
  cases members with
  | nil => cases h
  | cons m ms => exact (Except.ok.inj h).symm

theorem isGroup_of_reference? (h : Inventory.reference? t.host = some group) :
    t.isGroup = true := by
  unfold Inventory.reference? at h
  unfold Target.isGroup
  split at h
  · next hl => rw [hl]; rfl
  · cases h

theorem prepare_inventory (hprepare : (prepare here r).outcome = .ok setup)
    (hf : (AssertionFile.load here.yaml here.files r.file).outcome = .ok f)
    (hrefers : f.targets.any Target.isGroup = true) : ∃ i settings limit reason,
    (requireInventory here r.inventory reason).outcome = .ok i ∧ setup.inventory = some i ∧
      settingsOf here = .ok settings ∧ settings.timeLimit = .ok limit ∧
      setup.settings = settings.fillDefaults i.defaults.credentials := by
  unfold prepare at hprepare
  simp only [Noted.outcome_bind, bind_eq_ok_iff] at hprepare
  obtain ⟨f', hf', inventory, hinventory, h⟩ := hprepare
  obtain rfl := Except.ok.inj (hf.symm.trans hf')
  unfold inventoryFor at hinventory
  dsimp only at hinventory
  rw [hrefers, if_neg (by simp), Noted.outcome_map] at hinventory
  obtain ⟨i, hi, rfl⟩ := map_eq_ok hinventory
  simp only [Noted.outcome_bind, Noted.outcome_pure, bind_eq_ok_iff, Except.ok.injEq] at h
  obtain ⟨g, -, settings, hsettings, limit, hlimit, rfl⟩ := h
  exact ⟨i, settings, limit, _, hi, rfl, hsettings, mapError_eq_ok_iff.1 hlimit, rfl⟩

/-! ### Targets of a group -/

theorem mem_expandTargets {ts us : List Target} (h : (i.expandTargets ts).outcome = .ok us)
    (ht : t ∈ ts) (hgroup : Inventory.reference? t.host = some group)
    (hm : i.groups.get? group = some members) {m : String} (hmem : m ∈ members) :
    { t with host := i.defaults.address m } ∈ us := by
  induction ts generalizing us with
  | nil => cases ht
  | cons t' ts ih =>
    simp only [Inventory.expandTargets, Noted.outcome_bind, bind_eq_ok_iff, Noted.outcome_pure,
      Except.ok.injEq] at h
    obtain ⟨first, hfirst, rest, hrest, rfl⟩ := h
    rcases List.mem_cons.1 ht with rfl | ht
    · simp only [Inventory.expandTarget, hgroup, hm, Noted.outcome_pure, Except.ok.injEq] at hfirst
      rw [← hfirst]
      exact List.mem_append_left _ (List.mem_map_of_mem hmem)
    · exact List.mem_append_right _ (ih hrest ht)

/-- Every member of a group that is not restricted away is a target. -/
theorem mem_expandFile {g : AssertionFile} {only : String}
    (h : (i.expandFile f only).outcome = .ok g) (ht : t ∈ f.targets)
    (hgroup : Inventory.reference? t.host = some group)
    (hm : i.groups.get? group = some members) (honly : only = "" ∨ only = group) {m : String}
    (hmem : m ∈ members) : { t with host := i.defaults.address m } ∈ g.targets := by
  unfold Inventory.expandFile at h
  rw [Noted.outcome_bind] at h
  obtain ⟨ts, hts, h⟩ := bind_eq_ok h
  have ht' := mem_expandTargets hts ht hgroup hm hmem
  by_cases hempty : only = ""
  · rw [if_pos hempty] at h
    cases h
    exact ht'
  · obtain rfl := honly.resolve_left hempty
    simp only [if_neg hempty, Inventory.restrict, hm, Noted.outcome_bind, Noted.outcome_pure,
      Except.bind, Except.ok.injEq] at h
    rw [← h]
    exact List.mem_filter.2 ⟨ht', by simpa using ⟨m, hmem, rfl⟩⟩

/-! ### Logins -/

theorem credentials_connection (settings : Settings) (timeout : Binary64)
    (hnone : t.credentials = .none) :
    (Run.connection (some settings) timeout t).credentials = settings.credentials t.host := by
  change t.credentials.fill _ = _
  rw [hnone, Credentials.none_fill]

theorem loginTo_eq {a : Access} (hnone : a.credentials = .none) (host : String) :
    loginTo settings limit a host =
      ⟨host, .layered (settings.layers host), timeLimit a.timeout limit,
        Device.Connection.standardTransport⟩ := by
  rw [← Settings.credentials_eq, ← Credentials.none_fill (settings.credentials host), ← hnone]
  rfl

/-- A baseline is generated from the members of a group with what the settings say about each of
them. Assertions are evaluated on the same members with what the settings say and, behind that,
the defaults of the inventory. The two agree exactly for the members for which these defaults set
nothing that the settings leave open. -/
theorem logins_of_members (here : Surroundings) (o : BaselineOptions) (r : RunOptions)
    (hinventory : r.inventory = o.inventory)
    (hgroup : Inventory.reference? o.access.target = some group)
    (hnone : o.access.credentials = .none)
    (hprepare : (prepare here r).outcome = .ok setup)
    (hf : (AssertionFile.load here.yaml here.files r.file).outcome = .ok f) (ht : t ∈ f.targets)
    (htgroup : Inventory.reference? t.host = some group) (htnone : t.credentials = .none) :
    ∃ i settings limit, setup.inventory = some i ∧ settingsOf here = .ok settings ∧
      settings.timeLimit = .ok limit ∧ ∀ members, i.groups.get? group = some members →
        let host := i.defaults.address
        let layers := fun m => settings.layers (host m)
        (generate here o).Opens (members.map fun m =>
          ⟨host m, .layered (layers m), timeLimit o.access.timeout limit,
            Device.Connection.standardTransport⟩) ∧
        ∀ m ∈ members,
          (r.group = "" ∨ r.group = group →
            ∃ k : Nat, setup.file.targets[k]? = some { t with host := host m }) ∧
          (∀ (n : Run.Network) (schedule : List Run.Move) (k : Nat) (ev : Run.Event)
              (c : Device.Connection), setup.file.targets[k]? = some { t with host := host m } →
            ev ∈ (following n schedule setup.plan setup.listener).events → ev.Tries k c →
            c.address = host m ∧
              c.credentials = .layered (layers m ++ [i.defaults.credentials])) ∧
          (Credentials.layered (layers m ++ [i.defaults.credentials]) = .layered (layers m) ↔
            Credentials.Spare (layers m) i.defaults.credentials) := by
  have hrefers : f.targets.any Target.isGroup = true :=
    List.any_eq_true.2 ⟨t, ht, isGroup_of_reference? htgroup⟩
  -- A run differs in one thing only: `hsettings` puts the defaults of the inventory behind.
  obtain ⟨i, settings, limit, reason, hi, hsetup, hs, hl, hsettings⟩ :=
    prepare_inventory hprepare hf hrefers
  refine ⟨i, settings, limit, hsetup, hs, hl, fun members hm => ⟨?_, fun m hmem => ⟨?_, ?_, ?_⟩⟩⟩
  · have hopens := opens_generate (o := o) hs hl
      fun hosts h => hostsOf_eq hgroup (hinventory ▸ hi) hm h
    simpa only [List.map_map, Function.comp_def, loginTo_eq hnone] using hopens
  · intro honly
    obtain ⟨-, f', hf', hfor⟩ := prepare_eq_ok hprepare
    obtain rfl := Except.ok.inj (hf.symm.trans hf')
    rw [hsetup] at hfor
    exact List.getElem?_of_mem (mem_expandFile hfor ht htgroup hm honly hmem)
  · intro n schedule k ev c hk hev htries
    obtain ⟨t', timeout, ht', rfl⟩ :=
      (Run.logbook_follow setup.plan n setup.listener schedule).reaches hev htries
    obtain rfl := Option.some.inj (hk.symm.trans ht')
    refine ⟨rfl, ?_⟩
    have hcredentials := credentials_connection (t := { t with host := i.defaults.address m })
      setup.settings timeout htnone
    rw [← Settings.credentials_fillDefaults, ← hsettings]
    exact hcredentials
  · exact Credentials.layered_append_eq_iff

/-- An inventory whose defaults hold a username, an assertion file about its group, and no
settings. -/
def groupSurroundings : Surroundings :=
  let text (s : String) : Files.Entry := .file (s.toList.map fun c => c.toNat.toUInt8)
  { smallSurroundings with
    files := .ofList [
      ("inventory.yaml", text "groups: {g: [r]}\ndefaults: {username: admin}\n"),
      ("checks.yaml", text "targets: [\x7bhost: '@g'\x7d]\n")] }

def groupTarget : Target := ⟨"@g", .none, []⟩

def groupBaseline : BaselineOptions := ⟨⟨"@g", .none, none⟩, ["system"], "", ""⟩

/-- What the witness below reads off a run that is set up. -/
def groupView (setup : Setup) : Option (Option (List String) × String × Credentials) :=
  setup.inventory.map fun i => (i.groups.get? "g", i.defaults.address "r", i.defaults.credentials)

theorem logins_of_sole_member : ∃ setup timeout,
    (prepare groupSurroundings smallOptions).outcome = .ok setup ∧
    (generate groupSurroundings groupBaseline).Opens
      [⟨"r", .none, timeout, Device.Connection.standardTransport⟩] ∧
    (∃ k : Nat, setup.file.targets[k]? = some { groupTarget with host := "r" } ∧
      ∀ (n : Run.Network) (schedule : List Run.Move) (ev : Run.Event) (c : Device.Connection),
        ev ∈ (following n schedule setup.plan setup.listener).events → ev.Tries k c →
        c.address = "r" ∧ c.credentials = ⟨"admin", "", false⟩) := by
  have hload : (AssertionFile.load groupSurroundings.yaml groupSurroundings.files
      smallOptions.file).outcome = .ok ⟨[groupTarget]⟩ := toOption_eq_some_iff.1 (by decide +kernel)
  have hview : (prepare groupSurroundings smallOptions).outcome.toOption.map groupView =
      some (some (some ["r"], "r", ⟨"admin", "", false⟩)) := by decide +kernel
  have hgroup : Inventory.reference? groupBaseline.access.target = some "g" := rfl
  have hlayers : (settingsOf groupSurroundings).toOption.map (·.layers "r") = some [.none] := by
    decide +kernel
  obtain ⟨setup, hprepare, hsetup⟩ := Option.map_eq_some_iff.1 hview
  have hprepare := toOption_eq_some_iff.1 hprepare
  obtain ⟨i, settings, limit, hi, hs, -, hlogins⟩ :=
    logins_of_members groupSurroundings groupBaseline smallOptions rfl hgroup rfl hprepare hload
      (List.mem_singleton_self _) rfl rfl
  rw [groupView, hi] at hsetup
  simp only [Option.map_some, Option.some.injEq, Prod.mk.injEq] at hsetup
  obtain ⟨hmembers, haddress, hcredentials⟩ := hsetup
  rw [hs] at hlayers
  have hlayers : settings.layers "r" = [.none] := Option.some.inj hlayers
  obtain ⟨hopens, heach⟩ := hlogins ["r"] hmembers
  obtain ⟨hk, htries, -⟩ := heach "r" (List.mem_singleton_self _)
  simp only [List.map_cons, List.map_nil, haddress, hlayers] at hopens
  rw [haddress] at hk htries
  obtain ⟨k, hk⟩ := hk (.inl rfl)
  refine ⟨setup, _, hprepare, hopens, k, hk, fun n schedule ev c hev htry => ?_⟩
  obtain ⟨ha, hc⟩ := htries n schedule k ev c hk hev htry
  dsimp only at hc
  rw [haddress, hlayers, hcredentials] at hc
  exact ⟨ha, hc⟩

/-- Whom the program logs in to, and how. -/
def loginsOf (args : List String) : List (String × Credentials) :=
  (program groupSurroundings args).trace.sessions.map fun c => (c.address, c.credentials)

/-- The defaults of the inventory reach the evaluation of assertions only. -/
theorem logins_differ :
    loginsOf ["run", "checks.yaml"] = [("r", ⟨"admin", "", false⟩)] ∧
      loginsOf ["generate", "@g", "--gen", "system"] = [("r", ⟨"", "", false⟩)] := by
  decide +kernel

end Command

end StateCheck
