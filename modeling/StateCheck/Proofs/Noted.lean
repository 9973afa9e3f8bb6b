import Mathlib.Data.List.Forall2
import StateCheck.Noted
import StateCheck.Proofs.Except

/-!
The outcomes of computations that give notices.
-/

namespace StateCheck.Noted

variable {α β γ : Type}

@[simp]
theorem outcome_pure (a : α) : (pure a : Noted α).outcome = .ok a := rfl

@[simp]
theorem outcome_bind (x : Noted α) (f : α → Noted β) :
    (x >>= f).outcome = x.outcome.bind fun a => (f a).outcome := by
  change (x.bind f).outcome = _
  unfold Noted.bind
  cases x.outcome <;> rfl

@[simp]
theorem outcome_note (notice : String) : (note notice).outcome = .ok () := rfl

theorem outcome_note_bind (notice : String) (f : Unit → Noted β) :
    (note notice >>= f).outcome = (f ()).outcome := by
  rw [outcome_bind]
  rfl

@[simp]
theorem outcome_fail (f : Failure) : (fail f : Noted α).outcome = .error (.failure f none) := rfl

@[simp]
theorem outcome_orBreakOff (x : Except Breakdown α) :
    (orBreakOff x).outcome = x.mapError .breakdown := rfl

theorem bind_of_error {x : Noted α} {e : Fault} (h : x.outcome = .error e) (f : α → Noted β) :
    x >>= f = ⟨x.notices, .error e⟩ := by
  obtain ⟨notices, outcome⟩ := x
  cases h
  rfl

theorem bind_pure (x : Noted α) : x >>= pure = x := by
  obtain ⟨notices, outcome⟩ := x
  cases outcome with
  | error e => rfl
  | ok a => exact congrArg (Noted.mk · (.ok a)) (List.append_nil notices)

theorem outcome_map (g : α → β) (x : Noted α) : (g <$> x).outcome = x.outcome.map g := by
  change (x.bind (pure ∘ g)).outcome = _
  unfold Noted.bind
  cases x.outcome <;> rfl

/-! ### Lists -/

theorem outcome_eachFrom_cons {f : Nat → α → Noted β} {i : Nat} {a : α} {as : List α}
    {bs : List β} : (eachFrom f i (a :: as)).outcome = .ok bs ↔
      ∃ b bs', bs = b :: bs' ∧ (f i a).outcome = .ok b ∧
        (eachFrom f (i + 1) as).outcome = .ok bs' := by
  simp only [eachFrom, outcome_bind, bind_eq_ok_iff, outcome_pure, Except.ok.injEq]
  constructor
  · rintro ⟨b, hb, bs', hbs, rfl⟩
    exact ⟨b, bs', rfl, hb, hbs⟩
  · rintro ⟨b, bs', rfl, hb, hbs⟩
    exact ⟨b, hb, bs', hbs, rfl⟩

/-- What every member that is read satisfies. -/
theorem forall_of_eachFrom {f : Nat → α → Noted β} {P : β → Prop}
    (hf : ∀ i a b, (f i a).outcome = .ok b → P b) {i : Nat} {as : List α} {bs : List β}
    (h : (eachFrom f i as).outcome = .ok bs) : ∀ b ∈ bs, P b := by
  induction as generalizing i bs with
  | nil =>
    cases h
    simp
  | cons a as ih =>
    obtain ⟨b, bs', rfl, hb, hbs⟩ := outcome_eachFrom_cons.1 h
    exact List.forall_mem_cons.2 ⟨hf i a b hb, ih hbs⟩

/-- What is read stands to what it is read from as each member does. -/
theorem forall₂_of_eachFrom {f : Nat → α → Noted β} {R : α → β → Prop}
    (hf : ∀ i a b, (f i a).outcome = .ok b → R a b) {i : Nat} {as : List α} {bs : List β}
    (h : (eachFrom f i as).outcome = .ok bs) : List.Forall₂ R as bs := by
  induction as generalizing i bs with
  | nil =>
    cases h
    exact .nil
  | cons a as ih =>
    obtain ⟨b, bs', rfl, hb, hbs⟩ := outcome_eachFrom_cons.1 h
    exact .cons (hf i a b hb) (ih hbs)

/-- The members of a list are read from what they are written as. -/
theorem eachFrom_map_iff {f : Nat → α → Noted β} {g : β → α} {P : β → Prop} {bs : List β}
    (hf : ∀ b ∈ bs, ∀ i, (f i (g b)).outcome = .ok b ↔ P b) (i : Nat) :
    (eachFrom f i (bs.map g)).outcome = .ok bs ↔ ∀ b ∈ bs, P b := by
  induction bs generalizing i with
  | nil => simp [eachFrom]
  | cons b bs ih =>
    obtain ⟨hb, hbs⟩ := List.forall_mem_cons.1 hf
    rw [List.map_cons, outcome_eachFrom_cons, List.forall_mem_cons, ← hb i, ← ih hbs (i + 1)]
    constructor
    · rintro ⟨b', bs', he, hb', hbs'⟩
      cases he
      exact ⟨hb', hbs'⟩
    · rintro ⟨hb', hbs'⟩
      exact ⟨b, bs, rfl, hb', hbs'⟩

/-- Members that are written are all read as what they come to, or reading them fails as it does
for one of them. -/
theorem eachFrom_map_cases {f : Nat → α → Noted β} {g : γ → α} {r : γ → β}
    {E : γ → Fault → Prop} {cs : List γ}
    (hf : ∀ c ∈ cs, ∀ i, (f i (g c)).outcome = .ok (r c) ∨
      ∃ e, (f i (g c)).outcome = .error e ∧ E c e) (i : Nat) :
    (eachFrom f i (cs.map g)).outcome = .ok (cs.map r) ∨
      ∃ c ∈ cs, ∃ e, (eachFrom f i (cs.map g)).outcome = .error e ∧ E c e := by
  induction cs generalizing i with
  | nil => exact .inl rfl
  | cons c cs ih =>
    obtain ⟨hc, hcs⟩ := List.forall_mem_cons.1 hf
    simp only [List.map_cons, eachFrom, outcome_bind, outcome_pure]
    rcases hc i with hok | ⟨e, herror, he⟩
    · rw [hok]
      rcases ih hcs (i + 1) with hoks | ⟨c', hc', e, herror, he⟩
      · rw [hoks]
        exact .inl rfl
      · rw [herror]
        exact .inr ⟨c', List.mem_cons_of_mem _ hc', e, rfl, he⟩
    · rw [herror]
      exact .inr ⟨c, List.mem_cons_self, e, rfl, he⟩

end StateCheck.Noted
