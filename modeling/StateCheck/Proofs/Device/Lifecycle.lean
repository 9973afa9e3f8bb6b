import StateCheck.Device.Client

/-!
The life of a client: whatever is asked of it, in whatever order, however the session library fails
meanwhile, and whenever the threads of its requests get to send them. A session is held exactly
while requests are taken, and a session that was closed is not touched again, but for requests that
were left behind before.
-/

namespace StateCheck.Device

/-- The session that a call is about. -/
def Call.session : Call → Nat
  | .make n _ _ _ | .open n | .get n _ | .close n => n

/-- An error that says that there is no session. -/
def Fault.IsRefusal (e : Fault) : Prop := ∃ f cause, e = .failure f cause ∧ f.kind = .connect

theorem Address.kind_of_split {address : String} {port : Int} {f : Failure}
    (h : Address.split address port = .error f) : f.kind = .connect := by
  unfold Address.split at h
  dsimp only at h
  split at h
  · cases h
  · split at h
    · cases h
    · cases h
      rfl

namespace Client

/-! ### Operations -/

/-- What may be asked of a client. -/
inductive Operation
  | connect
  | fetch (path : String) (timeout : Option Binary64) (cancellation : Option Bool)
  | close

/-- The client does what it is asked; only a fetch gives an answer. -/
def perform (lib : Library) (c : Client) : Operation → Use (Option Answer)
  | .connect =>
    let use := c.connect lib
    ⟨use.client, use.calls, use.left, use.outcome.map fun _ => none⟩
  | .fetch path timeout cancellation =>
    let use := c.fetch lib path timeout cancellation
    ⟨use.client, use.calls, use.left, use.outcome.map some⟩
  | .close =>
    let use := c.close lib
    ⟨use.client, use.calls, use.left, use.outcome.map fun _ => none⟩

/-- One operation: the client as it was before, and what came of it. -/
structure Episode where
  operation : Operation
  before : Client
  use : Use (Option Answer)

/-- What happens next: the client is asked for something, or one of the requests that were left is
sent, for which it does not matter whether an operation is going on. The library may behave in
another way each time. -/
inductive Move
  | ask (lib : Library) (operation : Operation)
  | send (i : Nat)

inductive Event
  | done (x : Episode)
  /-- A request that was left is sent. -/
  | late (r : Request)

/-- The calls that the library gets. -/
def Event.calls : Event → List Call
  | .done x => x.use.calls
  | .late r => [r.call]

/-- The life of a client from a moment on at which some requests are still to be sent. -/
def life (c : Client) (left : List Request) : List Move → List Event
  | [] => []
  | .ask lib operation :: moves =>
    let use := c.perform lib operation
    .done ⟨operation, c, use⟩ :: life use.client (left ++ use.left) moves
  | .send i :: moves =>
    match left[i]? with
    | some r => .late r :: life c (left.eraseIdx i) moves
    | none => life c left moves

variable {lib : Library} {c : Client} {left : List Request} {moves : List Move}
  {operation : Operation} {use : Use (Option Answer)} {x : Episode} {n : Nat}

/-- The calls are about one session only, and none of them closes a session. -/
def AreForOne (n : Nat) (calls : List Call) : Prop :=
  ∀ call ∈ calls, call.session = n ∧ ∀ m, call ≠ .close m

/-- A fetch no longer waits for its response: its time is up, it is cancelled, or there is no end to
the wait. -/
inductive GivesUp (c : Client) : Operation → Except Fault (Option Answer) → Prop
  | timedOut {path : String} {timeout : Option Binary64} {cancellation : Option Bool}
    (text : String) :
    GivesUp c (.fetch path timeout cancellation) (.error (c.timedOut text timeout))
  | cancelled {path : String} {timeout : Option Binary64} {cancellation : Option Bool}
    (text : String) : GivesUp c (.fetch path timeout cancellation) (.error (c.cancelled text))
  | endless {path : String} {timeout : Option Binary64} {cancellation : Option Bool} :
    GivesUp c (.fetch path timeout cancellation) (.error .endless)

/-- All that an operation can do. -/
inductive Does (c : Client) : Operation → Use (Option Answer) → Prop
  | refused {made : Nat} {calls : List Call} {e : Fault} (hmade : c.made ≤ made)
    (hcalls : AreForOne c.made calls) (he : Fault.IsRefusal e) :
    Does c .connect ⟨{ c with made }, calls, [], .error e⟩
  | opened {calls : List Call} (hcalls : AreForOne c.made calls) (hopen : .open c.made ∈ calls) :
    Does c .connect
      ⟨{ c with session := some c.made, connected := true, made := c.made + 1 }, calls, [],
        .ok none⟩
  | rejected {path : String} {timeout : Option Binary64} {cancellation : Option Bool} {e : Fault}
    (h : c.connected = false) (he : Fault.IsRefusal e) :
    Does c (.fetch path timeout cancellation) ⟨c, [], [], .error e⟩
  | unsent {path : String} {timeout : Option Binary64} {cancellation : Option Bool}
    {outcome : Except Fault (Option Answer)} (h : c.connected = true) :
    Does c (.fetch path timeout cancellation) ⟨c, [], [], outcome⟩
  | sent {path : String} {timeout : Option Binary64} {cancellation : Option Bool} {r : Request}
    {outcome : Except Fault (Option Answer)} (h : c.connected = true)
    (hr : c.session = some r.session) :
    Does c (.fetch path timeout cancellation) ⟨c, [r.call], [], outcome⟩
  | left {path : String} {timeout : Option Binary64} {cancellation : Option Bool} {r : Request}
    {outcome : Except Fault (Option Answer)} (h : c.connected = true)
    (hr : c.session = some r.session)
    (hgives : GivesUp c (.fetch path timeout cancellation) outcome) :
    Does c (.fetch path timeout cancellation) ⟨c, [], [r], outcome⟩
  | idle (h : c.session = none) : Does c .close ⟨c, [], [], .ok none⟩
  | closed {n : Nat} (hn : c.session = some n) :
    Does c .close ⟨{ c with session := none, connected := false }, [.close n], [], .ok none⟩

theorem does_connect (lib : Library) (c : Client) : Does c .connect (c.perform lib .connect) := by
  have hmake (host : String) (port : Int) :
      AreForOne c.made [.make c.made host port c.connection] := by
    intro call h
    rw [List.mem_singleton.1 h]
    exact ⟨rfl, nofun⟩
  have hopening (host : String) (port : Int) :
      AreForOne c.made [.make c.made host port c.connection, .open c.made] := by
    intro call h
    rcases List.mem_cons.1 h with rfl | h
    · exact ⟨rfl, nofun⟩
    · rw [List.mem_singleton.1 h]
      exact ⟨rfl, nofun⟩
  unfold perform connect
  dsimp only
  split
  · next f hf => exact .refused (Nat.le_refl _) nofun ⟨f, none, rfl, Address.kind_of_split hf⟩
  · split
    · exact .refused (Nat.le_refl _) nofun ⟨_, none, rfl, rfl⟩
    · split
      · next e _ => exact .refused (Nat.le_refl _) (hmake _ _) ⟨_, some e, rfl, rfl⟩
      · split
        · next e _ => exact .refused (Nat.le_succ _) (hopening _ _) ⟨_, some e, rfl, rfl⟩
        · exact .opened (hopening _ _) (List.mem_cons_of_mem _ List.mem_cons_self)

/-- Without a response in time, there is nothing for a fetch but to give up. -/
theorem givesUp_of_silent {path text : String} {timeout : Option Binary64}
    {cancellation : Option Bool} {listens sent cancels : Bool} :
    GivesUp c (.fetch path timeout cancellation)
      ((c.receive text timeout listens (.silent sent cancels)).map some) := by
  unfold receive
  split
  · exact .endless
  · exact .endless
  · exact .cancelled text
  · exact .timedOut text

theorem does_fetch (lib : Library) (c : Client) (path : String) (timeout : Option Binary64)
    (cancellation : Option Bool) :
    Does c (.fetch path timeout cancellation)
      (c.perform lib (.fetch path timeout cancellation)) := by
  unfold perform fetch
  dsimp only
  cases hc : c.connected with
  | false => exact .rejected hc ⟨_, none, rfl, rfl⟩
  | true =>
    rw [if_neg (by decide)]
    split
    · exact .unsent hc
    · split
      · exact .unsent hc
      · next p hp =>
        unfold start
        cases hn : c.session with
        | none => exact .unsent hc
        | some n =>
          dsimp only
          cases hresponse : lib.response p.text with
          | document v => exact .sent hc hn
          | failed e => exact .sent hc hn
          | silent sent cancels =>
            cases sent with
            | true => exact .sent hc hn
            | false => exact .left hc hn givesUp_of_silent

theorem does_close (lib : Library) (c : Client) : Does c .close (c.perform lib .close) := by
  unfold perform close
  dsimp only
  split
  · next hn => exact .idle hn
  · next n hn =>
    have hclosing : ((lib.closeFault.elim (.ok ()) .error : Except Fault Unit).tryCatch
        fun _ => .ok ()) = .ok () := by
      cases lib.closeFault <;> rfl
    rw [hclosing]
    exact .closed hn

theorem does_perform (lib : Library) (c : Client) (operation : Operation) :
    Does c operation (c.perform lib operation) := by
  cases operation with
  | connect => exact does_connect lib c
  | fetch path timeout cancellation => exact does_fetch lib c path timeout cancellation
  | close => exact does_close lib c

/-! ### Sessions -/

/-- The state of a client. Sessions that are still to be made have new numbers. -/
structure Sound (c : Client) : Prop where
  connected_iff : c.connected = true ↔ ∃ n, c.session = some n
  held_lt : ∀ n, c.session = some n → n < c.made

theorem Sound.step (h : Sound c) (hdoes : Does c operation use) : Sound use.client := by
  cases hdoes with
  | refused hmade hcalls he =>
    exact ⟨h.connected_iff, fun n hn => Nat.lt_of_lt_of_le (h.held_lt n hn) hmade⟩
  | opened hcalls hopen =>
    refine ⟨iff_of_true rfl ⟨_, rfl⟩, fun n hn => ?_⟩
    cases hn
    exact Nat.lt_succ_self _
  | rejected | unsent | sent | left | idle => exact h
  | closed hn => exact ⟨iff_of_false nofun nofun, nofun⟩

/-- A session that was made and is not held: the client will not use it again. -/
structure Gone (n : Nat) (c : Client) : Prop where
  made : n < c.made
  unheld : c.session ≠ some n

/-- An operation on a client that does not hold a session leaves it alone, and starts no request to
it either. -/
theorem Gone.step (h : Gone n c) (hdoes : Does c operation use) :
    Gone n use.client ∧ (∀ call ∈ use.calls, call.session ≠ n) ∧
      ∀ r ∈ use.left, r.session ≠ n := by
  have hnew {calls : List Call} (hcalls : AreForOne c.made calls) :
      ∀ call ∈ calls, call.session ≠ n := fun call hcall => by
    rw [(hcalls call hcall).1]
    exact (Nat.ne_of_lt h.made).symm
  have hheld {r : Request} (hr : c.session = some r.session) : r.session ≠ n := by
    rintro rfl
    exact h.unheld hr
  cases hdoes with
  | refused hmade hcalls he =>
    exact ⟨⟨Nat.lt_of_lt_of_le h.made hmade, h.unheld⟩, hnew hcalls, nofun⟩
  | opened hcalls hopen =>
    refine ⟨⟨Nat.lt_succ_of_lt h.made, fun hn => ?_⟩, hnew hcalls, nofun⟩
    cases hn
    exact Nat.lt_irrefl _ h.made
  | rejected | unsent | idle => exact ⟨h, nofun, nofun⟩
  | sent hc hr =>
    refine ⟨h, fun call hcall => ?_, nofun⟩
    rw [List.mem_singleton.1 hcall]
    exact hheld hr
  | left hc hr hgives =>
    refine ⟨h, nofun, fun r hmem => ?_⟩
    rw [List.mem_singleton.1 hmem]
    exact hheld hr
  | closed hm =>
    refine ⟨⟨h.made, nofun⟩, fun call hcall => ?_, nofun⟩
    rw [List.mem_singleton.1 hcall]
    rintro rfl
    exact h.unheld hm

def Episode.GivesUp (x : Episode) : Prop := Client.GivesUp x.before x.operation x.use.outcome

/-- An event does nothing with a session but send requests to it that were left before. -/
def Event.Spares (n : Nat) (WasLeft : Request → Prop) : Event → Prop
  | .done x => x.before.session ≠ some n ∧ (∀ call ∈ x.use.calls, call.session ≠ n) ∧
      ∀ r ∈ x.use.left, r.session ≠ n
  | .late r => r.session = n → WasLeft r

/-- Nothing is done any more with a session that is gone, but that requests are sent to it that were
left by then. -/
theorem Gone.life {WasLeft : Request → Prop} (h : Gone n c)
    (hleft : ∀ r ∈ left, r.session = n → WasLeft r) (moves : List Move) :
    ∀ event ∈ c.life left moves, event.Spares n WasLeft := by
  induction moves generalizing c left with
  | nil => exact List.forall_mem_nil _
  | cons move moves ih =>
    cases move with
    | ask lib operation =>
      obtain ⟨hgone, hcalls, hrequests⟩ := h.step (does_perform lib c operation)
      refine List.forall_mem_cons.2 ⟨⟨h.unheld, hcalls, hrequests⟩, ih hgone fun r hr hn => ?_⟩
      rcases List.mem_append.1 hr with hr | hr
      · exact hleft r hr hn
      · exact absurd hn (hrequests r hr)
    | send i =>
      rw [Client.life]
      split
      · next r hr =>
        exact List.forall_mem_cons.2 ⟨hleft r (List.mem_of_getElem? hr),
          ih h fun r' hr' => hleft r' (List.mem_of_mem_eraseIdx hr')⟩
      · exact ih h hleft

/-- What follows on an operation is a life again, of the client as it is then, with requests that
were left by the operations so far. -/
theorem Sound.life {before after : List Event} (h : Sound c)
    (heq : c.life left moves = before ++ .done x :: after) :
    (Sound x.before ∧ Does x.before x.operation x.use) ∧
    ∃ left' moves', after = x.use.client.life left' moves' ∧ ∀ r ∈ left',
      r ∈ left ∨ (∃ y, .done y ∈ before ∧ r ∈ y.use.left) ∨ r ∈ x.use.left := by
  induction moves generalizing c left before with
  | nil => cases before <;> cases heq
  | cons move moves ih =>
    cases move with
    | ask lib operation =>
      have hdoes := does_perform lib c operation
      rw [Client.life] at heq
      rcases List.cons_eq_append_iff.1 heq with ⟨rfl, hcons⟩ | ⟨before, rfl, hrest⟩
      · cases hcons
        refine ⟨⟨h, hdoes⟩, _, moves, rfl, fun r hr => ?_⟩
        rcases List.mem_append.1 hr with hr | hr
        · exact .inl hr
        · exact .inr (.inr hr)
      · obtain ⟨hx, left', moves', hafter, hfrom⟩ := ih (h.step hdoes) hrest
        refine ⟨hx, left', moves', hafter, fun r hr => ?_⟩
        rcases hfrom r hr with hr | ⟨y, hy, hr⟩ | hr
        · rcases List.mem_append.1 hr with hr | hr
          · exact .inl hr
          · exact .inr (.inl ⟨_, List.mem_cons_self, hr⟩)
        · exact .inr (.inl ⟨y, List.mem_cons_of_mem _ hy, hr⟩)
        · exact .inr (.inr hr)
    | send i =>
      rw [Client.life] at heq
      split at heq
      · rcases List.cons_eq_append_iff.1 heq with ⟨rfl, hcons⟩ | ⟨before, rfl, hrest⟩
        · cases hcons
        · obtain ⟨hx, left', moves', hafter, hfrom⟩ := ih h hrest
          refine ⟨hx, left', moves', hafter, fun r hr => ?_⟩
          rcases hfrom r hr with hr | ⟨y, hy, hr⟩ | hr
          · exact .inl (List.mem_of_mem_eraseIdx hr)
          · exact .inr (.inl ⟨y, List.mem_cons_of_mem _ hy, hr⟩)
          · exact .inr (.inr hr)
      · exact ih h heq

end Client

end StateCheck.Device
