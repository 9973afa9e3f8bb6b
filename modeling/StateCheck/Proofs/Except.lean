/-!
Computations that can fail.
-/

namespace StateCheck

variable {ε δ α β γ : Type} {x : Except ε α} {b : β}

theorem map_eq_ok {f : α → β} (h : x.map f = .ok b) : ∃ a, x = .ok a ∧ f a = b := by
  cases x with
  | error e => cases h
  | ok a => exact ⟨a, rfl, Except.ok.inj h⟩

theorem map_eq_error {f : α → β} {e : ε} (h : x.map f = .error e) : x = .error e := by
  cases x with
  | error e' => exact congrArg Except.error (Except.error.inj h)
  | ok a => cases h

theorem exists_map_ok (f : α → β) (h : ∃ a, x = .ok a) : ∃ b, x.map f = .ok b := by
  obtain ⟨a, rfl⟩ := h
  exact ⟨f a, rfl⟩

theorem bind_eq_ok {f : α → Except ε β} (h : x.bind f = .ok b) : ∃ a, x = .ok a ∧ f a = .ok b := by
  cases x with
  | error e => cases h
  | ok a => exact ⟨a, rfl, h⟩

theorem bind_eq_ok_iff {f : α → Except ε β} :
    x.bind f = .ok b ↔ ∃ a, x = .ok a ∧ f a = .ok b := by
  refine ⟨bind_eq_ok, ?_⟩
  rintro ⟨a, rfl, h⟩
  exact h

theorem bind_eq_error_iff {f : α → Except ε β} {e : ε} :
    x.bind f = .error e ↔ x = .error e ∨ ∃ a, x = .ok a ∧ f a = .error e := by
  cases x with
  | error e' => simp [Except.bind]
  | ok a => simp [Except.bind]

theorem exists_eq_ok_iff {Fails : ε → Prop} (h : ∀ e, x = .error e ↔ Fails e) :
    (∃ a, x = .ok a) ↔ ∀ e, ¬Fails e := by
  cases x with
  | error e => exact iff_of_false nofun fun hnone => hnone e ((h e).1 rfl)
  | ok a => exact iff_of_true ⟨a, rfl⟩ fun e he => nomatch (h e).2 he

/-- What cannot fail itself fails as what comes before it. -/
theorem bind_eq_error_iff_of_ne {f : α → Except ε β} {e : ε} (h : ∀ a, f a ≠ .error e) :
    x.bind f = .error e ↔ x = .error e :=
  bind_eq_error_iff.trans (or_iff_left fun ⟨a, _, hf⟩ => h a hf)

/-- What fails as `y` does, whatever it is given. -/
theorem bind_eq_error_iff_of_iff {f : α → Except ε β} {y : Except ε γ} {e : ε}
    (h : ∀ a, f a = .error e ↔ y = .error e) :
    x.bind f = .error e ↔ x = .error e ∨ (∃ a, x = .ok a) ∧ y = .error e := by
  refine bind_eq_error_iff.trans (or_congr_right ⟨?_, ?_⟩)
  · rintro ⟨a, ha, hf⟩
    exact ⟨⟨a, ha⟩, (h a).1 hf⟩
  · rintro ⟨⟨a, ha⟩, hy⟩
    exact ⟨a, ha, (h a).2 hy⟩

theorem mapError_ok (g : ε → δ) (a : α) : (Except.ok a : Except ε α).mapError g = .ok a := rfl

theorem mapError_error (g : ε → δ) (e : ε) :
    (Except.error e : Except ε α).mapError g = .error (g e) := rfl

theorem mapError_eq_ok_iff {g : ε → δ} {a : α} : x.mapError g = .ok a ↔ x = .ok a := by
  cases x with
  | error e => exact ⟨nofun, nofun⟩
  | ok b => simp [mapError_ok]

theorem toOption_eq_some_iff {a : α} : x.toOption = some a ↔ x = .ok a := by
  cases x <;> simp [Except.toOption]

/-- The error of a computation, if it failed. -/
def error? : Except ε α → Option ε
  | .error e => some e
  | .ok _ => none

theorem error?_eq_some_iff {e : ε} : error? x = some e ↔ x = .error e := by
  cases x <;> simp [error?]

theorem mapError_eq_error_iff {g : ε → δ} {d : δ} :
    x.mapError g = .error d ↔ ∃ e, x = .error e ∧ g e = d := by
  cases x with
  | error e => simp [mapError_error]
  | ok a => simp [mapError_ok]

theorem map_map (f : α → β) (g : β → γ) (x : Except ε α) : (x.map f).map g = x.map (g ∘ f) := by
  cases x <;> rfl

/-! ### Lists that are gone through -/

/-- Going through a list ends in this way at some member, before which all pass. -/
inductive EndsAt (Passes : α → Prop) (Ends : α → ε → Prop) : List α → ε → Prop
  | here {a : α} {e : ε} (h : Ends a e) (as : List α) : EndsAt Passes Ends (a :: as) e
  | later {a : α} {as : List α} {e : ε} (h : Passes a) (hlater : EndsAt Passes Ends as e) :
    EndsAt Passes Ends (a :: as) e

theorem endsAt_cons_iff {Passes : α → Prop} {Ends : α → ε → Prop} {a : α} {as : List α} {e : ε} :
    EndsAt Passes Ends (a :: as) e ↔ Ends a e ∨ Passes a ∧ EndsAt Passes Ends as e := by
  constructor
  · intro h
    cases h with
    | here h => exact .inl h
    | later h hlater => exact .inr ⟨h, hlater⟩
  · rintro (h | ⟨h, hlater⟩)
    · exact .here h as
    · exact .later h hlater

theorem EndsAt.exists_mem {Passes : α → Prop} {Ends : α → ε → Prop} {as : List α} {e : ε}
    (h : EndsAt Passes Ends as e) : ∃ a ∈ as, Ends a e := by
  induction h with
  | here h as => exact ⟨_, List.mem_cons_self, h⟩
  | later h hlater ih =>
    obtain ⟨a, ha, hends⟩ := ih
    exact ⟨a, List.mem_cons_of_mem _ ha, hends⟩

/-- If all that does not pass ends it, a list comes to its end if all members pass. -/
theorem forall_not_endsAt_iff {Ends : α → ε → Prop} {as : List α} :
    (∀ e, ¬EndsAt (fun a => ∀ e, ¬Ends a e) Ends as e) ↔ ∀ a ∈ as, ∀ e, ¬Ends a e := by
  induction as with
  | nil => exact iff_of_true nofun (List.forall_mem_nil _)
  | cons a as ih =>
    simp only [endsAt_cons_iff, not_or, not_and, forall_and, List.forall_mem_cons, ← ih]
    exact and_congr_right fun h => ⟨fun hrest e => hrest e h, fun hrest e _ => hrest e⟩

end StateCheck
