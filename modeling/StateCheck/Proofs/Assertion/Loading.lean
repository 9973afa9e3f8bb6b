import StateCheck.Proofs.Assertion.Selection
import StateCheck.Proofs.Files
import StateCheck.Proofs.Settings

/-!
Loading assertion files: which of them are refused with a failure, and on which loading breaks off.
-/

namespace StateCheck

open Yaml

/-! ### Readers -/

/-- A failure of a file: something in it is refused. -/
def Fault.RefusesFile (e : Fault) : Prop :=
  ∃ f, e = .failure f none ∧ (f.kind = .assertionFile ∨ f.kind = .malformedPath)

/-- A reader comes to an end if all `Passes`, breaks off as in `Breaks`, and refuses all else. -/
structure Noted.Reads {α : Type} (x : Noted α) (Passes : Prop) (Breaks : Breakdown → Prop) :
    Prop where
  passes : (∃ a, x.outcome = .ok a) ↔ Passes
  breaks : ∀ b, x.outcome = .error (.breakdown b) ↔ Breaks b
  otherwise : ∀ e, x.outcome = .error e → (∃ b, e = .breakdown b) ∨ e.RefusesFile

namespace Noted

variable {α β : Type} {x : Noted α} {f : α → Noted β} {P P' Q : Prop} {B B' C : Breakdown → Prop}

theorem reads_pure (a : α) (hP : P) (hB : ∀ b, ¬B b) : Reads (pure a) P B :=
  ⟨iff_of_true ⟨a, rfl⟩ hP, fun b => iff_of_false nofun (hB b), nofun⟩

theorem reads_fail {f : Failure} (hf : f.kind = .assertionFile ∨ f.kind = .malformedPath)
    (hP : ¬P) (hB : ∀ b, ¬B b) : Reads (fail f : Noted α) P B := by
  refine ⟨iff_of_false nofun hP, fun b => iff_of_false nofun (hB b), ?_⟩
  rintro e he
  cases he
  exact .inr ⟨f, rfl, hf⟩

theorem reads_breakOff {b : Breakdown} (hP : ¬P) (hB : ∀ b', b' = b ↔ B b') :
    Reads (breakOff b : Noted α) P B := by
  refine ⟨iff_of_false nofun hP, fun b' => ?_, ?_⟩
  · rw [← hB]
    exact ⟨fun h => by cases h; rfl, fun h => by rw [h]; rfl⟩
  · rintro e he
    cases he
    exact .inl ⟨b, rfl⟩

theorem Reads.congr (h : Reads x P B) (hP : P ↔ P') (hB : ∀ b, B b ↔ B' b) : Reads x P' B' :=
  ⟨h.passes.trans hP, fun b => (h.breaks b).trans (hB b), h.otherwise⟩

theorem Reads.of_eq {y : Noted α} (h : Reads x P B) (he : y.outcome = x.outcome) : Reads y P B :=
  ⟨he ▸ h.passes, he ▸ h.breaks, he ▸ h.otherwise⟩

/-- What comes behind a reader matters only if the reader comes to an end. -/
theorem Reads.bind (hx : Reads x P B) (hf : ∀ a, x.outcome = .ok a → Reads (f a) Q C) :
    Reads (x >>= f) (P ∧ Q) fun b => B b ∨ P ∧ C b := by
  cases h : x.outcome with
  | error e =>
    have hP : ¬P := fun hP => by
      obtain ⟨a, ha⟩ := hx.passes.2 hP
      cases h.symm.trans ha
    have he : (x >>= f).outcome = .error e := by
      rw [outcome_bind, h]
      rfl
    have hsame (e' : Fault) : (x >>= f).outcome = .error e' ↔ x.outcome = .error e' := by
      rw [he, h, Except.error.injEq, Except.error.injEq]
    refine ⟨iff_of_false (fun ⟨b, hb⟩ => nomatch he.symm.trans hb) fun hPQ => hP hPQ.1,
      fun b => ?_, fun e' he' => hx.otherwise e' ((hsame e').1 he')⟩
    rw [hsame, hx.breaks]
    exact (or_iff_left fun hPC => hP hPC.1).symm
  | ok a =>
    have hP : P := hx.passes.1 ⟨a, h⟩
    have hB (b : Breakdown) : ¬B b := fun hb => by
      cases h.symm.trans ((hx.breaks b).2 hb)
    have he : (x >>= f).outcome = (f a).outcome := by
      rw [outcome_bind, h]
      rfl
    refine ((hf a h).of_eq he).congr (iff_and_self.2 fun _ => hP) fun b => ?_
    simp [hP, hB b]

theorem Reads.map (hx : Reads x P B) (g : α → β) : Reads (g <$> x) P B := by
  have h : Reads (x >>= fun a => pure (g a)) (P ∧ True) fun b => B b ∨ P ∧ False :=
    hx.bind fun a _ => reads_pure (g a) trivial fun _ => not_false
  exact h.congr (by rw [and_true]) fun b => by simp

theorem reads_each {f : Nat → α → Noted β} {Passes : α → Prop} {Breaks : α → Breakdown → Prop}
    (h : ∀ i a, Reads (f i a) (Passes a) (Breaks a)) (as : List α) :
    Reads (each f as) (∀ a ∈ as, Passes a) (EndsAt Passes Breaks as) := by
  unfold each
  generalize 0 = i
  induction as generalizing i with
  | nil => exact reads_pure [] (List.forall_mem_nil _) nofun
  | cons a as ih =>
    refine ((h i a).bind fun b _ => (ih (i + 1)).map (b :: ·)).congr ?_ fun b => ?_
    · exact List.forall_mem_cons.symm
    · exact endsAt_cons_iff.symm

theorem reads_orBreakOff {x : Except Breakdown α} (h : ∀ b, x = .error b ↔ B b) :
    Reads (orBreakOff x) (∀ b, ¬B b) B := by
  have herror (e : Fault) :
      (orBreakOff x).outcome = .error e ↔ ∃ b, x = .error b ∧ .breakdown b = e :=
    mapError_eq_error_iff
  refine ⟨?_, fun b => ?_, fun e he => ?_⟩
  · rw [← exists_eq_ok_iff h]
    exact exists_congr fun a => mapError_eq_ok_iff
  · rw [herror, ← h]
    simp
  · obtain ⟨b, -, hb⟩ := (herror e).1 he
    exact .inl ⟨b, hb.symm⟩

end Noted

namespace AssertionFile

open Yaml.Value

variable {doc : Value} {name place host : String} {b : Breakdown} {i j : Nat}

/-! ### Documents of assertions -/

/-- A number in a member is too long for a text. -/
def HasLong (doc : Value) (name : String) : Prop :=
  ∃ v, doc.get? name = some v ∧ v.isWritable = false

theorem written_eq_error_iff {v : Value} :
    v.written = .error b ↔ b = .unreadable ∧ v.isWritable = false := by
  unfold written
  cases v.isWritable with
  | true => exact iff_of_false nofun nofun
  | false => simp [eq_comm]

theorem labelText_eq_error_iff {v? : Option Value} : labelText v? = .error b ↔
    b = .unreadable ∧ ∃ v, v? = some v ∧ v.isWritable = false := by
  unfold labelText
  split
  · exact iff_of_false nofun fun h => by simp at h
  · exact iff_of_false nofun fun h => by simp [isWritable] at h
  · exact iff_of_false nofun fun h => by simp [isWritable] at h
  · rw [written_eq_error_iff]
    simp

theorem reads_label (doc : Value) (name : String) :
    (Noted.orBreakOff (labelText (doc.get? name))).Reads (¬HasLong doc name)
      fun b => b = .unreadable ∧ HasLong doc name :=
  (Noted.reads_orBreakOff fun _ => labelText_eq_error_iff).congr
    ⟨fun h hlong => h _ ⟨rfl, hlong⟩, fun h _ hb => h hb.2⟩ fun _ => .rfl

/-- An assertion with a path that can be read. -/
def Located (doc : Value) : Prop :=
  ∃ path, labelText (doc.get? "path") = .ok path ∧ path ≠ "" ∧
    ∃ elements, Path.read (Path.expand path) = .ok elements

/-- An assertion that is read. -/
structure AssertionReads (doc : Value) : Prop where
  path : Located doc
  accepted : ¬doc.IsRejected
  writable : ¬doc.IsUnwritable
  name : ¬HasLong doc "name"
  description : ¬HasLong doc "description"

/-- An assertion on which loading breaks off, on a number that is too long for a text: in its path,
in what it compares with, or in what it is called. -/
inductive AssertionBreaks (doc : Value) : Breakdown → Prop
  | path (h : HasLong doc "path") : AssertionBreaks doc .unreadable
  | operand (hpath : Located doc) (h : doc.IsUnwritable) : AssertionBreaks doc .unreadable
  | label (hpath : Located doc) (haccepted : ¬doc.IsRejected)
      (h : HasLong doc "name" ∨ HasLong doc "description") : AssertionBreaks doc .unreadable

theorem reads_predicate (place host : String) (doc : Value) : (readPredicate place host doc).Reads
    (¬doc.IsRejected ∧ ¬doc.IsUnwritable) fun b => b = .unreadable ∧ doc.IsUnwritable := by
  rcases readPredicate_cases place host doc with
    ⟨p, hout, -, hr, hw⟩ | ⟨f, hout, hf, hr, hw⟩ | ⟨hout, hw, hr⟩
  · exact (Noted.reads_pure p ⟨hr, hw⟩ fun b hb => hw hb.2).of_eq hout
  · exact (Noted.reads_fail (.inl hf) (fun h => h.1 hr) fun b hb => hw hb.2).of_eq hout
  · have hbreaks : ∀ b, (.error .unreadable : Except Breakdown (Option Predicate)) = .error b ↔
        b = .unreadable ∧ doc.IsUnwritable := fun b => by simp [hw, eq_comm]
    exact ((Noted.reads_orBreakOff hbreaks).of_eq hout).congr
      (iff_of_false (fun h => h _ ⟨rfl, hw⟩) fun h => h.2 hw) fun b => .rfl

/-- The readers behind the path of an assertion. -/
theorem reads_rest (doc : Value) (p : Option Predicate → String → String → Assertion) :
    (do
      let predicate ← readPredicate place host doc
      let name ← Noted.orBreakOff (labelText (doc.get? "name"))
      let description ← Noted.orBreakOff (labelText (doc.get? "description"))
      pure (p predicate name description)).Reads
    ((¬doc.IsRejected ∧ ¬doc.IsUnwritable) ∧ ¬HasLong doc "name" ∧ ¬HasLong doc "description")
    fun b => b = Breakdown.unreadable ∧ (doc.IsUnwritable ∨
      ¬doc.IsRejected ∧ (HasLong doc "name" ∨ HasLong doc "description")) := by
  refine ((reads_predicate place host doc).bind fun _ _ => (reads_label doc "name").bind fun _ _ =>
    (reads_label doc "description").bind fun _ _ =>
      Noted.reads_pure _ trivial fun _ => not_false).congr ?_ fun b => ?_
  · simp only [and_true]
  · grind

theorem assertionReads_iff : AssertionReads doc ↔ Located doc ∧
    (¬doc.IsRejected ∧ ¬doc.IsUnwritable) ∧ ¬HasLong doc "name" ∧ ¬HasLong doc "description" :=
  ⟨fun ⟨hpath, hr, hw, hname, hdescription⟩ => ⟨hpath, ⟨hr, hw⟩, hname, hdescription⟩,
    fun ⟨hpath, ⟨hr, hw⟩, hname, hdescription⟩ => ⟨hpath, hr, hw, hname, hdescription⟩⟩

theorem assertionBreaks_iff : AssertionBreaks doc b ↔ b = .unreadable ∧ (HasLong doc "path" ∨
    Located doc ∧ (doc.IsUnwritable ∨
      ¬doc.IsRejected ∧ (HasLong doc "name" ∨ HasLong doc "description"))) := by
  constructor
  · intro h
    cases h with
    | path h => exact ⟨rfl, .inl h⟩
    | operand hpath h => exact ⟨rfl, .inr ⟨hpath, .inl h⟩⟩
    | label hpath hr h => exact ⟨rfl, .inr ⟨hpath, .inr ⟨hr, h⟩⟩⟩
  · rintro ⟨rfl, h | ⟨hpath, h | ⟨hr, h⟩⟩⟩
    · exact .path h
    · exact .operand hpath h
    · exact .label hpath hr h

theorem not_hasLong_of_located (h : Located doc) : ¬HasLong doc "path" := fun hlong => by
  obtain ⟨path, hpath, -⟩ := h
  cases hpath.symm.trans (labelText_eq_error_iff.2 ⟨rfl, hlong⟩)

theorem located_iff {path : String} (h : labelText (doc.get? "path") = .ok path) : Located doc ↔
    path ≠ "" ∧ ∃ elements, Path.read (Path.expand path) = .ok elements := by
  simp [Located, h]

theorem get?_of_not_mapping (h : ∀ ms, doc ≠ .mapping ms) (name : String) :
    doc.get? name = none := by
  cases doc with
  | mapping ms => exact absurd rfl (h ms)
  | _ => rfl

theorem not_hasLong (h : ∀ ms, doc ≠ .mapping ms) (name : String) : ¬HasLong doc name := by
  simp [HasLong, get?_of_not_mapping h]

theorem not_located (h : ∀ ms, doc ≠ .mapping ms) : ¬Located doc := by
  simp [Located, get?_of_not_mapping h, labelText]

theorem reads_assertion (i : Nat) (host : String) (j : Nat) (doc : Value) :
    (readAssertion i host j doc).Reads (AssertionReads doc) (AssertionBreaks doc) := by
  by_cases hm : ∃ ms, doc = .mapping ms
  · obtain ⟨ms, hdoc⟩ := hm
    have hbehind : (readAssertion i host j doc).Reads (¬HasLong doc "path" ∧ AssertionReads doc)
        fun b => b = .unreadable ∧ HasLong doc "path" ∨
          ¬HasLong doc "path" ∧ Located doc ∧ AssertionBreaks doc b := by
      unfold readAssertion
      subst hdoc
      refine (reads_label (.mapping ms) "path").bind fun path hpath => ?_
      have hlocated := located_iff (mapError_eq_ok_iff.1 hpath)
      split
      · next hempty =>
        have hpath : ¬Located (.mapping ms) := fun h => (hlocated.1 h).1 hempty
        exact Noted.reads_fail (.inl rfl) (fun h => hpath h.path) fun b h => hpath h.1
      · next hne =>
        dsimp only
        split
        · next e he =>
          have hpath : ¬Located (.mapping ms) := fun h => by
            obtain ⟨-, elements, hread⟩ := hlocated.1 h
            cases he.symm.trans hread
          exact Noted.reads_fail (.inr rfl) (fun h => hpath h.path) fun b h => hpath h.1
        · next elements hread =>
          have hpath : Located (.mapping ms) := hlocated.2 ⟨hne, elements, hread⟩
          refine (reads_rest (.mapping ms) (Assertion.mk _)).congr ?_ fun b => ?_
          · rw [assertionReads_iff]
            exact (and_iff_right hpath).symm
          · rw [assertionBreaks_iff]
            simp [hpath, not_hasLong_of_located hpath]
    refine hbehind.congr (and_iff_right_of_imp fun h => not_hasLong_of_located h.path) fun b => ?_
    rw [assertionBreaks_iff]
    have hlocated := @not_hasLong_of_located doc
    grind
  · have hm (ms : List (Value × Value)) : doc ≠ .mapping ms := fun h => hm ⟨ms, h⟩
    unfold readAssertion
    split
    · exact absurd rfl (hm _)
    · refine Noted.reads_fail (.inl rfl) (fun h => not_located hm h.path) fun b h => ?_
      simp [assertionBreaks_iff, not_located hm, not_hasLong hm] at h

/-! ### Documents of targets -/

/-- What stands for the host of a target. -/
def hostIn? (doc : Value) : Option Value := (doc.truthy? "host").or (doc.truthy? "address")

def HasLongHost (doc : Value) : Prop := ∃ v, hostIn? doc = some v ∧ v.isWritable = false

/-- A target with a host. -/
def Hosted (doc : Value) : Prop := ∃ host, hostOf doc = .ok host ∧ host ≠ ""

/-- A target that is read. -/
structure TargetReads (doc : Value) : Prop where
  host : Hosted doc
  username : ¬HasLong doc "username"
  password : ¬HasLong doc "password"
  assertions : ∃ items, doc.items? "assertions" = some items ∧ ∀ a ∈ items, AssertionReads a

/-- A target on which loading breaks off: on a number in its host or its login that is too long for
a text, or on one of its assertions. -/
inductive TargetBreaks (doc : Value) : Breakdown → Prop
  | host (h : HasLongHost doc) : TargetBreaks doc .unreadable
  | login {items : List Value} (hhost : Hosted doc) (hitems : doc.items? "assertions" = some items)
      (h : HasLong doc "username" ∨ HasLong doc "password") : TargetBreaks doc .unreadable
  | assertion {items : List Value} {b : Breakdown} (hhost : Hosted doc)
      (hitems : doc.items? "assertions" = some items) (hu : ¬HasLong doc "username")
      (hp : ¬HasLong doc "password") (h : EndsAt AssertionReads AssertionBreaks items b) :
      TargetBreaks doc b

theorem hostOf_eq (doc : Value) : hostOf doc =
    match hostIn? doc with
    | some v => v.written
    | none => .ok "" := by
  unfold hostOf hostIn?
  cases doc.truthy? "host" <;> cases doc.truthy? "address" <;> rfl

theorem reads_host (doc : Value) : (Noted.orBreakOff (hostOf doc)).Reads (¬HasLongHost doc)
    fun b => b = .unreadable ∧ HasLongHost doc := by
  have hbreaks (b : Breakdown) : hostOf doc = .error b ↔ b = .unreadable ∧ HasLongHost doc := by
    unfold HasLongHost
    rw [hostOf_eq]
    cases hostIn? doc with
    | none => exact iff_of_false nofun fun h => by simp at h
    | some v => simp [written_eq_error_iff]
  exact (Noted.reads_orBreakOff hbreaks).congr
    ⟨fun h hlong => h _ ⟨rfl, hlong⟩, fun h _ hb => h hb.2⟩ fun _ => .rfl

theorem not_hasLongHost_of_hosted (h : Hosted doc) : ¬HasLongHost doc := by
  obtain ⟨host, hhost, -⟩ := h
  refine (reads_host doc).passes.1 ⟨host, ?_⟩
  rw [Noted.outcome_orBreakOff, hhost]
  rfl

theorem targetBreaks_iff : TargetBreaks doc b ↔ b = .unreadable ∧ HasLongHost doc ∨
    Hosted doc ∧ ∃ items, doc.items? "assertions" = some items ∧
      (b = .unreadable ∧ (HasLong doc "username" ∨ HasLong doc "password") ∨
        ¬HasLong doc "username" ∧ ¬HasLong doc "password" ∧
          EndsAt AssertionReads AssertionBreaks items b) := by
  constructor
  · intro h
    cases h with
    | host h => exact .inl ⟨rfl, h⟩
    | login hhost hitems h => exact .inr ⟨hhost, _, hitems, .inl ⟨rfl, h⟩⟩
    | assertion hhost hitems hu hp h => exact .inr ⟨hhost, _, hitems, .inr ⟨hu, hp, h⟩⟩
  · rintro (⟨rfl, h⟩ | ⟨hhost, items, hitems, ⟨rfl, h⟩ | ⟨hu, hp, h⟩⟩)
    · exact .host h
    · exact .login hhost hitems h
    · exact .assertion hhost hitems hu hp h

theorem hostIn?_of_not_mapping (h : ∀ ms, doc ≠ .mapping ms) : hostIn? doc = none := by
  simp [hostIn?, truthy?, get?_of_not_mapping h]

theorem not_hosted (h : ∀ ms, doc ≠ .mapping ms) : ¬Hosted doc := by
  simp [Hosted, hostOf_eq, hostIn?_of_not_mapping h]

theorem not_hasLongHost (h : ∀ ms, doc ≠ .mapping ms) : ¬HasLongHost doc := by
  simp [HasLongHost, hostIn?_of_not_mapping h]

theorem targetReads_iff {items : List Value} (hitems : doc.items? "assertions" = some items) :
    TargetReads doc ↔ Hosted doc ∧ ¬HasLong doc "username" ∧ ¬HasLong doc "password" ∧
      ∀ a ∈ items, AssertionReads a := by
  constructor
  · rintro ⟨hhost, hu, hp, items', hitems', has⟩
    obtain rfl := Option.some.inj (hitems.symm.trans hitems')
    exact ⟨hhost, hu, hp, has⟩
  · rintro ⟨hhost, hu, hp, has⟩
    exact ⟨hhost, hu, hp, items, hitems, has⟩

theorem reads_target (i : Nat) (doc : Value) :
    (readTarget i doc).Reads (TargetReads doc) (TargetBreaks doc) := by
  by_cases hm : ∃ ms, doc = .mapping ms
  · obtain ⟨ms, hdoc⟩ := hm
    have hbehind : (readTarget i doc).Reads (¬HasLongHost doc ∧ TargetReads doc)
        fun b => b = .unreadable ∧ HasLongHost doc ∨
          ¬HasLongHost doc ∧ Hosted doc ∧ TargetBreaks doc b := by
      unfold readTarget
      subst hdoc
      refine (reads_host (.mapping ms)).bind fun host hhost => ?_
      have hhost : hostOf (.mapping ms) = .ok host := mapError_eq_ok_iff.1 hhost
      split
      · next hempty =>
        have hhost : ¬Hosted (.mapping ms) := by
          rintro ⟨host', hhost', hne⟩
          cases hhost.symm.trans hhost'
          exact hne hempty
        exact Noted.reads_fail (.inl rfl) (fun h => hhost h.host) fun b h => hhost h.1
      · next hne =>
        have hhosted : Hosted (.mapping ms) := ⟨host, hhost, hne⟩
        have hlong := not_hasLongHost_of_hosted hhosted
        split
        · next hnone =>
          refine Noted.reads_fail (.inl rfl) (fun h => ?_) fun b h => ?_
          · obtain ⟨items, hitems, -⟩ := h.assertions
            cases hnone.symm.trans hitems
          · simp [targetBreaks_iff, hlong, hnone] at h
        · next items hitems =>
          refine ((reads_label _ "username").bind fun _ _ => (reads_label _ "password").bind
            fun _ _ => (Noted.reads_each (reads_assertion i host) items).bind fun _ _ =>
              Noted.reads_pure _ trivial fun _ => not_false).congr ?_ fun b => ?_
          · rw [targetReads_iff hitems]
            simp [hhosted]
          · rw [targetBreaks_iff]
            simp only [hitems, hhosted, hlong]
            grind
    refine hbehind.congr (and_iff_right_of_imp fun h => not_hasLongHost_of_hosted h.host)
      fun b => ?_
    rw [targetBreaks_iff]
    have hhosted := @not_hasLongHost_of_hosted doc
    grind
  · have hm (ms : List (Value × Value)) : doc ≠ .mapping ms := fun h => hm ⟨ms, h⟩
    unfold readTarget
    split
    · exact absurd rfl (hm _)
    · refine Noted.reads_fail (.inl rfl) (fun h => not_hosted hm h.host) fun b h => ?_
      simp [targetBreaks_iff, not_hosted hm, not_hasLongHost hm] at h

/-! ### Files -/

/-- A document of a file that is read. -/
structure DocumentReads (doc : Value) : Prop where
  shape : doc.isTruthy = false ∨ ∃ ms, doc = .mapping ms
  targets : ∃ items, doc.items? "targets" = some items ∧ ∀ t ∈ items, TargetReads t

/-- A document on which loading breaks off, on one of its targets. -/
def DocumentBreaks (doc : Value) (b : Breakdown) : Prop :=
  ∃ items, doc.items? "targets" = some items ∧ EndsAt TargetReads TargetBreaks items b

theorem items?_of_none {name : String} (h : doc.get? name = none) : doc.items? name = some [] := by
  unfold items? truthy?
  rw [h]
  rfl

theorem reads_document (doc : Value) :
    (ofDocument doc).Reads (DocumentReads doc) (DocumentBreaks doc) := by
  unfold ofDocument
  cases ht : doc.isTruthy with
  | false =>
    have hitems := items?_of_none (Value.get?_of_not_truthy ht "targets")
    refine Noted.reads_pure _ ⟨.inl ht, [], hitems, List.forall_mem_nil _⟩ fun b h => ?_
    obtain ⟨items, hitems', hb⟩ := h
    cases hitems.symm.trans hitems'
    cases hb
  | true =>
    rw [if_neg (by simp)]
    split
    · next ms =>
      split
      · next hnone =>
        refine Noted.reads_fail (.inl rfl) (fun h => ?_) fun b h => ?_
        · obtain ⟨items, hitems, -⟩ := h.targets
          cases hnone.symm.trans hitems
        · obtain ⟨items, hitems, -⟩ := h
          cases hnone.symm.trans hitems
      · next items hitems =>
        refine ((Noted.reads_each reads_target items).map _).congr ⟨fun h => ?_, fun h => ?_⟩
          fun b => ⟨fun h => ⟨items, hitems, h⟩, fun h => ?_⟩
        · exact ⟨.inr ⟨ms, rfl⟩, items, hitems, h⟩
        · obtain ⟨items', hitems', hreads⟩ := h.targets
          cases hitems.symm.trans hitems'
          exact hreads
        · obtain ⟨items', hitems', hb⟩ := h
          cases hitems.symm.trans hitems'
          exact hb
    · next hm =>
      refine Noted.reads_fail (.inl rfl) (fun h => ?_) fun b h => ?_
      · rcases h.shape with hfalse | ⟨ms, rfl⟩
        · cases ht.symm.trans hfalse
        · exact hm ms rfl
      · obtain ⟨items, hitems, hb⟩ := h
        cases (items?_of_none (get?_of_not_mapping hm "targets")).symm.trans hitems
        cases hb

/-- A text on which loading breaks off: the reader does, or its document makes it. -/
inductive Breaks (yaml : Reader) (text : List Char) : Breakdown → Prop
  | text {b : Breakdown} (h : yaml text = .error (.breakdown b)) : Breaks yaml text b
  | document {b : Breakdown} {doc : Value} (h : yaml text = .ok doc)
      (hb : DocumentBreaks doc b) : Breaks yaml text b

theorem reads_text (yaml : Reader) (text : List Char) : (read yaml text).Reads
    (∃ doc, yaml text = .ok doc ∧ DocumentReads doc) (Breaks yaml text) := by
  unfold read
  split
  · next doc hdoc =>
    refine (reads_document doc).congr ⟨fun h => ⟨doc, hdoc, h⟩, ?_⟩ fun b => ⟨.document hdoc, ?_⟩
    · rintro ⟨doc', hdoc', h⟩
      cases hdoc.symm.trans hdoc'
      exact h
    · intro h
      cases h with
      | text h => cases hdoc.symm.trans h
      | document h hb =>
        cases hdoc.symm.trans h
        exact hb
  · next he =>
    refine Noted.reads_fail (.inl rfl) (fun ⟨doc, hdoc, _⟩ => nomatch he.symm.trans hdoc) ?_
    intro b h
    cases h with
    | text h => cases he.symm.trans h
    | document h hb => cases he.symm.trans h
  · next b he =>
    refine Noted.reads_breakOff ?_ fun b' => ⟨fun h => ?_, fun h => ?_⟩
    · rintro ⟨doc, hdoc, -⟩
      cases he.symm.trans hdoc
    · rw [h]
      exact .text he
    · cases h with
      | text h =>
        cases he.symm.trans h
        rfl
      | document h hb => cases he.symm.trans h

/-- A file on which loading breaks off: no file can have its name, its bytes are no text, or the
text breaks it off. -/
inductive Derails (yaml : Reader) (files : Files) (path : String) : Breakdown → Prop
  | name (h : '\x00' ∈ path.toList) : Derails yaml files path .unreadable
  | bytes {bytes : List UInt8} (hname : '\x00' ∉ path.toList)
      (hentry : files.entry path = .ok (.file bytes)) (hb : Text.Utf8.decode? bytes = none) :
      Derails yaml files path .notUtf8
  | text {text : List Char} {b : Breakdown} (ht : files.readText path = .ok text)
      (hb : Breaks yaml text b) : Derails yaml files path b

theorem load_of_text {yaml : Reader} {files : Files} {path : String} {text : List Char}
    (ht : files.readText path = .ok text) : load yaml files path = read yaml text := by
  unfold load
  rw [Files.readText_normal, ht]

/-- A file derails loading if it has a text that does, or has no text for a reason that is no
refusal of the system. -/
theorem derails_iff {yaml : Reader} {files : Files} {path : String} : Derails yaml files path b ↔
    (files.readText path = .error .badName ∧ b = .unreadable) ∨
      (files.readText path = .error .notUtf8 ∧ b = .notUtf8) ∨
      ∃ text, files.readText path = .ok text ∧ Breaks yaml text b := by
  simp only [Files.readText_eq_badName_iff, Files.readText_eq_notUtf8_iff]
  constructor
  · intro h
    cases h with
    | name h => exact .inl ⟨h, rfl⟩
    | bytes hname hentry hb => exact .inr (.inl ⟨⟨hname, _, hentry, hb⟩, rfl⟩)
    | text ht hb => exact .inr (.inr ⟨_, ht, hb⟩)
  · rintro (⟨h, rfl⟩ | ⟨⟨hname, bytes, hentry, hb⟩, rfl⟩ | ⟨text, ht, hb⟩)
    · exact .name h
    · exact .bytes hname hentry hb
    · exact .text ht hb

theorem reads_file (yaml : Reader) (files : Files) (path : String) : (load yaml files path).Reads
    (∃ text doc, files.readText path = .ok text ∧ yaml text = .ok doc ∧ DocumentReads doc)
    (Derails yaml files path) := by
  cases hread : files.readText path with
  | ok text =>
    rw [load_of_text hread]
    refine (reads_text yaml text).congr (by simp) fun b => ?_
    simp [derails_iff, hread]
  | error e =>
    unfold load
    rw [Files.readText_normal, hread]
    cases e with
    | badName => exact Noted.reads_breakOff (by simp) fun b => by simp [derails_iff, hread]
    | notUtf8 => exact Noted.reads_breakOff (by simp) fun b => by simp [derails_iff, hread]
    | refused r => exact Noted.reads_fail (.inl rfl) (by simp) fun b => by simp [derails_iff, hread]

theorem AssertionBreaks.eq_unreadable (h : AssertionBreaks doc b) : b = .unreadable := by
  cases h <;> rfl

theorem TargetBreaks.eq_unreadable (h : TargetBreaks doc b) : b = .unreadable := by
  cases h with
  | host | login => rfl
  | assertion hhost hitems hu hp h =>
    obtain ⟨a, -, ha⟩ := h.exists_mem
    exact ha.eq_unreadable

/-- A file derails loading in two ways, or in one of the reader's own. -/
theorem Derails.eq_or_reader {yaml : Reader} {files : Files} {path : String}
    (h : Derails yaml files path b) : b = .unreadable ∨ b = .notUtf8 ∨
      ∃ text, files.readText path = .ok text ∧ yaml text = .error (.breakdown b) := by
  cases h with
  | name => exact .inl rfl
  | bytes => exact .inr (.inl rfl)
  | text ht hb =>
    cases hb with
    | text h => exact .inr (.inr ⟨_, ht, h⟩)
    | document h hb =>
      obtain ⟨items, -, hends⟩ := hb
      obtain ⟨t, -, ht⟩ := hends.exists_mem
      exact .inl ht.eq_unreadable

end AssertionFile

end StateCheck
