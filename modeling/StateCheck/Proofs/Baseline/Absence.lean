import StateCheck.Baseline.Routing
import StateCheck.Proofs.Baseline.Listing
import StateCheck.Proofs.Device.Waiting

/-!
Requests that fail: when a failure means that there is nothing at the path. Where a failure comes
with a status, the status alone decides, both for the client and for the survey that uses it.
-/

namespace StateCheck

open Device

variable {lib : Library} {c : Client} {path : String} {p : Path} {timeout : Option Binary64}
  {cancellation : Option Bool} {e : Fault} {st : Status}

/-! ### Failed requests -/

namespace Device.Client

/-- Requests are taken, and there is a session for them. -/
structure Ready (c : Client) : Prop where
  connected : c.isConnected = true
  session : ∃ n, c.session = some n

/-- The failure that tells of a failed request. -/
def requestFailure (c : Client) (path : String) (timeout : Option Binary64) (e : Fault) : Failure :=
  c.failure .fetch ("get failed: " ++ e.text) [("path", path), ("timeout", timeoutText timeout)]

theorem fetch_of_failed (hc : c.Ready) (hp : Path.read path = .ok p)
    (hcancel : cancellation ≠ some true) (hfail : lib.response p.text = .failed e) :
    (c.fetch lib path timeout cancellation).outcome =
      if meansAbsent e then .ok missing
      else .error (.failure (c.requestFailure p.text timeout e) (some e)) := by
  obtain ⟨hconnected, n, hn⟩ := hc
  have hstart : (c.start lib p.text).response = .failed e := by
    unfold start
    rw [hn, hfail]
    rfl
  have hreceive : c.receive p.text timeout cancellation.isSome (.failed e) =
      c.settle p.text timeout (.failed e) := by
    unfold receive
    rw [Waiting.await_of_answer rfl (fun _ _ => Nat.zero_le _) fun _ _ => Nat.zero_le _]
  have hnot : ¬(!c.connected) = true := by simpa [isConnected] using hconnected
  unfold fetch
  rw [if_neg hnot, if_neg hcancel, hp]
  dsimp only
  rw [hstart, hreceive]
  rfl

/-- The client as the device that a survey asks. -/
def source (lib : Library) (c : Client) : Baseline.Source where
  address := c.connection.address
  answer path := (c.fetch lib path none none).outcome

end Device.Client

/-! ### Texts and statuses -/

/-- One of the marks occurs in the text. -/
def Mentions (marks : List String) (text : String) : Prop :=
  ∃ mark ∈ marks, Text.occursIn mark.toList text.toList = true

theorem meansAbsent_of_status (h : e.status? = some st) :
    meansAbsent e = true ↔ st = .notFound := by
  unfold meansAbsent
  rw [h]
  exact beq_iff_eq

theorem meansAbsent_of_no_status (h : e.status? = none) :
    meansAbsent e = true ↔ Mentions absenceMarks e.text := by
  unfold meansAbsent
  rw [h]
  exact List.any_eq_true

theorem Baseline.Area.isAbsent_of_status (area : Area) (f : Failure) (h : e.status? = some st) :
    area.isAbsent f (some e) = true ↔ st ∈ area.absentStatuses := by
  unfold isAbsent
  rw [Option.bind_some, h]
  exact List.contains_iff_mem

theorem Baseline.Area.isAbsent_of_no_status (area : Area) (f : Failure) (h : e.status? = none) :
    area.isAbsent f (some e) = true ↔ Mentions area.absentMarks f.text := by
  unfold isAbsent
  rw [Option.bind_some, h]
  exact List.any_eq_true

/-! ### Outcomes -/

/-- Nothing is there if the condition holds, and else the outcome is a failure of the given kind. -/
def Concludes {α : Type} (kind : FailureKind) (nothing : α) (Absent : Prop)
    (outcome : Except Fault α) : Prop :=
  (Absent → outcome = .ok nothing) ∧
    (¬Absent → ∃ f cause, outcome = .error (.failure f cause) ∧ f.kind = kind)

theorem concludes_fetch {Absent : Prop} (hc : c.Ready) (hp : Path.read path = .ok p)
    (hcancel : cancellation ≠ some true) (hfail : lib.response p.text = .failed e)
    (habsent : meansAbsent e = true ↔ Absent) :
    Concludes .fetch missing Absent (c.fetch lib path timeout cancellation).outcome := by
  rw [Client.fetch_of_failed hc hp hcancel hfail]
  refine ⟨fun h => if_pos (habsent.2 h), fun h => ?_⟩
  rw [if_neg (mt habsent.1 h)]
  exact ⟨_, _, rfl, rfl⟩

theorem concludes_query {Absent Ignored : Prop} (area : Baseline.Area) (hc : c.Ready)
    (hp : Path.read path = .ok p) (hfail : lib.response p.text = .failed e)
    (habsent : meansAbsent e = true ↔ Absent)
    (hignored : area.isAbsent (c.requestFailure p.text none e) (some e) = true ↔ Ignored) :
    Concludes .generator none (Absent ∨ Ignored) (area.query path (c.source lib)).outcome := by
  have hanswer : (c.source lib).answer path = if meansAbsent e then .ok missing
      else .error (.failure (c.requestFailure p.text none e) (some e)) :=
    Client.fetch_of_failed hc hp nofun hfail
  -- The client decides first, and the survey sees the failure only if the client reports it.
  by_cases hmeans : meansAbsent e = true
  · rw [if_pos hmeans] at hanswer
    rw [Baseline.query_of_not_found area hanswer (by decide)]
    exact ⟨fun _ => rfl, fun h => absurd (.inl (habsent.1 hmeans)) h⟩
  · rw [if_neg hmeans] at hanswer
    rw [Baseline.query_of_failure area hanswer rfl]
    have hiff : Absent ∨ Ignored ↔
        area.isAbsent (c.requestFailure p.text none e) (some e) = true := by
      rw [← habsent, ← hignored, or_iff_right hmeans]
    refine ⟨fun h => if_pos (hiff.1 h), fun h => ?_⟩
    rw [if_neg (mt hiff.2 h)]
    exact ⟨_, _, rfl, rfl⟩

/-- Two requests that fail with the same status come to the same, whatever their texts are and
wherever the status is kept: the client finds nothing exactly if the status says so, and a survey
exactly if the status says so or its area counts the status as absence. Marks in the text decide for
failures without a status. -/
theorem status_outranks_text (hc : c.Ready) (hp : Path.read path = .ok p)
    (hcancel : cancellation ≠ some true) :
    (∀ lib lib' e e' st, lib.response p.text = .failed e → lib'.response p.text = .failed e' →
      e.status? = some st → e'.status? = some st →
      (Concludes .fetch missing (st = .notFound) (c.fetch lib path timeout cancellation).outcome ∧
        Concludes .fetch missing (st = .notFound)
          (c.fetch lib' path timeout cancellation).outcome) ∧
      ∀ area : Baseline.Area,
        Concludes .generator none (st = .notFound ∨ st ∈ area.absentStatuses)
          (area.query path (c.source lib)).outcome ∧
        Concludes .generator none (st = .notFound ∨ st ∈ area.absentStatuses)
          (area.query path (c.source lib')).outcome) ∧
    ∀ lib e, lib.response p.text = .failed e → e.status? = none →
      Concludes .fetch missing (Mentions absenceMarks e.text)
        (c.fetch lib path timeout cancellation).outcome ∧
      ∀ area : Baseline.Area,
        Concludes .generator none (Mentions absenceMarks e.text ∨
            Mentions area.absentMarks (c.requestFailure p.text none e).text)
          (area.query path (c.source lib)).outcome := by
  refine ⟨fun lib lib' e e' st hfail hfail' hst hst' => ⟨⟨?_, ?_⟩, fun area => ⟨?_, ?_⟩⟩,
    fun lib e hfail hst => ⟨?_, fun area => ?_⟩⟩
  · exact concludes_fetch hc hp hcancel hfail (meansAbsent_of_status hst)
  · exact concludes_fetch hc hp hcancel hfail' (meansAbsent_of_status hst')
  · exact concludes_query area hc hp hfail (meansAbsent_of_status hst)
      (area.isAbsent_of_status _ hst)
  · exact concludes_query area hc hp hfail' (meansAbsent_of_status hst')
      (area.isAbsent_of_status _ hst')
  · exact concludes_fetch hc hp hcancel hfail (meansAbsent_of_no_status hst)
  · exact concludes_query area hc hp hfail (meansAbsent_of_no_status hst)
      (area.isAbsent_of_no_status _ hst)

/-- A library whose requests all fail in this way. -/
def Device.Library.failing (e : Fault) : Library :=
  { Library.absent with installed := true, response := fun _ => .failed e }

/-- A client that is refused a path, once in words that sound as if it were not there, once with the
status in the error that is wrapped. -/
theorem status_outranks_text_denied :
    ∃ (c : Client) (p : Path), c.Ready ∧ Path.read "/a" = .ok p ∧
      Concludes .fetch missing (Status.permissionDenied = .notFound)
        (c.fetch (.failing (.call "user not found" .permissionDenied)) "/a" none none).outcome ∧
      Concludes .fetch missing (Status.permissionDenied = .notFound)
        (c.fetch (.failing (.session "denied" (some (.call "" .permissionDenied)))) "/a" none
          none).outcome ∧
      Concludes .generator none
        (Status.permissionDenied = .notFound ∨
          Status.permissionDenied ∈ Baseline.Ospf.area.absentStatuses)
        (Baseline.Ospf.area.query "/a"
          (c.source (.failing (.call "user not found" .permissionDenied)))).outcome ∧
      Concludes .fetch missing (Mentions absenceMarks "user not found")
        (c.fetch (.failing (.plain "user not found")) "/a" none none).outcome := by
  let c : Client := .opened ⟨"r", .none, .zero, "gnmi"⟩
  have hc : c.Ready := ⟨rfl, 0, rfl⟩
  obtain ⟨p, hp⟩ : ∃ p, Path.read "/a" = .ok p := ⟨_, rfl⟩
  have hnone : (none : Option Bool) ≠ some true := nofun
  obtain ⟨hstatus, htext⟩ := @status_outranks_text c "/a" p none none hc hp hnone
  obtain ⟨⟨hcall, hsession⟩, hquery⟩ :=
    hstatus (.failing (.call "user not found" .permissionDenied))
      (.failing (.session "denied" (some (.call "" .permissionDenied)))) _ _ _ rfl rfl rfl rfl
  exact ⟨c, p, hc, hp, hcall, hsession, (hquery Baseline.Ospf.area).1,
    (htext (.failing (.plain "user not found")) _ rfl rfl).1⟩

end StateCheck
