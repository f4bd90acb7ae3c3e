import Mathlib.Data.List.Forall2

/-!
# Lists gone through up to a first failure

* `exists_first_cons_iff`: where the first element of a kind stands in a list;
* `exists_mem_of_forall₂`: what is paired with an element of a list;
* `isEmpty_eq_of_forall₂`, `map_eq_map_of_forall₂`: paired lists are empty together, and two
  functions that agree on paired elements give one list;
* `mapM_eq_some_map`, `mapM_eq_some_iff`: a function that has a result for each element gives the
  results of all;
* `bind_eq_ok_iff`, `bind_pure_eq_error_iff`: two steps succeed when each of them does, and fail
  with the first if the second cannot; `mapError_eq_ok_iff`, `mapError_eq_error_iff`: an error may
  be told in other words;
* `mapM_eq_ok_iff`, `mapM_eq_error_iff`: a function applied to each element gives the results of
  all, or the failure of the first that fails;
* `foldlM_eq_error_iff`: steps taken one after another fail with the first element that no state
  takes a step with.
-/

namespace MarketQuery

/-- An element behind such ones only is the head, or the head is such a one and the element stands
behind it. -/
theorem exists_first_cons_iff {α : Type} {Before Here : α → Prop} {a : α} {l : List α} :
    (∃ before x after, a :: l = before ++ x :: after ∧ (∀ y ∈ before, Before y) ∧ Here x) ↔
      Here a ∨ (Before a ∧
        ∃ before x after, l = before ++ x :: after ∧ (∀ y ∈ before, Before y) ∧ Here x) := by
  constructor
  · rintro ⟨before, x, after, hl, hb, hx⟩
    cases before with
    | nil =>
      obtain ⟨rfl, -⟩ := List.cons.inj hl
      exact .inl hx
    | cons y before =>
      obtain ⟨rfl, rfl⟩ := List.cons.inj hl
      obtain ⟨ha, hb⟩ := List.forall_mem_cons.1 hb
      exact .inr ⟨ha, before, x, after, rfl, hb, hx⟩
  · rintro (hx | ⟨ha, before, x, after, rfl, hb, hx⟩)
    · exact ⟨[], a, l, rfl, by simp, hx⟩
    · exact ⟨a :: before, x, after, rfl, List.forall_mem_cons.2 ⟨ha, hb⟩, hx⟩

theorem exists_mem_of_forall₂ {α β : Type} {R : α → β → Prop} {l : List α} {l' : List β} {a : α}
    (h : List.Forall₂ R l l') (ha : a ∈ l) : ∃ b ∈ l', R a b := by
  induction h with
  | nil => cases ha
  | cons hab _ ih =>
    rcases List.mem_cons.1 ha with rfl | ha
    · exact ⟨_, List.mem_cons_self, hab⟩
    · obtain ⟨b, hb, hr⟩ := ih ha
      exact ⟨b, List.mem_cons_of_mem _ hb, hr⟩

theorem isEmpty_eq_of_forall₂ {α β : Type} {R : α → β → Prop} {l : List α} {l' : List β}
    (h : List.Forall₂ R l l') : l.isEmpty = l'.isEmpty := by
  cases h with
  | nil => rfl
  | cons _ _ => rfl

theorem map_eq_map_of_forall₂ {α β γ : Type} {R : α → β → Prop} {f : α → γ} {g : β → γ} {l : List α}
    {l' : List β} (h : List.Forall₂ R l l') (hfg : ∀ a ∈ l, ∀ b ∈ l', R a b → f a = g b) :
    l.map f = l'.map g := by
  induction h with
  | nil => rfl
  | cons hab _ ih =>
    rw [List.map_cons, List.map_cons, hfg _ List.mem_cons_self _ List.mem_cons_self hab, ih]
    exact fun a ha b hb => hfg a (List.mem_cons_of_mem _ ha) b (List.mem_cons_of_mem _ hb)

theorem mapM_eq_some_map {α β : Type} {f : α → Option β} {g : α → β} {l : List α}
    (h : ∀ a ∈ l, f a = some (g a)) : l.mapM f = some (l.map g) := by
  induction l with
  | nil => rfl
  | cons a l ih =>
    obtain ⟨ha, hl⟩ := List.forall_mem_cons.1 h
    rw [List.mapM_cons, ha, ih hl]
    rfl

theorem mapM_eq_some_iff {α β : Type} {f : α → Option β} {l : List α} {l' : List β} :
    l.mapM f = some l' ↔ List.Forall₂ (fun a b => f a = some b) l l' := by
  induction l generalizing l' with
  | nil => cases l' <;> simp
  | cons a l ih =>
    rw [List.mapM_cons]
    simp only [Option.bind_eq_bind, Option.bind_eq_some_iff, ih]
    constructor
    · rintro ⟨b, hb, rest, hrest, h⟩
      obtain rfl := Option.some.inj h
      exact .cons hb hrest
    · intro h
      cases h with
      | cons hb hrest => exact ⟨_, hb, _, hrest, rfl⟩

section Results

variable {ε α β : Type}

theorem bind_eq_ok_iff {x : Except ε α} {f : α → Except ε β} {b : β} :
    x >>= f = .ok b ↔ ∃ a, x = .ok a ∧ f a = .ok b := by
  cases x with
  | error e => simp [bind, Except.bind]
  | ok a => simp [bind, Except.bind]

theorem bind_pure_eq_error_iff {x : Except ε α} {g : α → β} {e : ε} :
    (x >>= fun a => pure (g a)) = .error e ↔ x = .error e := by
  cases x <;> simp [bind, Except.bind, pure, Except.pure]

theorem mapError_eq_ok_iff {ε' : Type} {x : Except ε α} {f : ε → ε'} {a : α} :
    x.mapError f = .ok a ↔ x = .ok a := by
  cases x with
  | error e =>
    show (Except.error (f e) : Except ε' α) = .ok a ↔ _
    simp
  | ok b =>
    show (Except.ok b : Except ε' α) = .ok a ↔ _
    simp

theorem mapError_eq_error_iff {ε' : Type} {x : Except ε α} {f : ε → ε'} {e' : ε'} :
    x.mapError f = .error e' ↔ ∃ e, x = .error e ∧ e' = f e := by
  cases x with
  | error e =>
    show (Except.error (f e) : Except ε' α) = .error e' ↔ _
    simp [eq_comm]
  | ok b =>
    show (Except.ok b : Except ε' α) = .error e' ↔ _
    simp

variable {f : α → Except ε β} {l : List α}

theorem mapM_eq_ok_iff {l' : List β} :
    l.mapM f = .ok l' ↔ List.Forall₂ (fun a b => f a = .ok b) l l' := by
  induction l generalizing l' with
  | nil => cases l' <;> simp [pure, Except.pure]
  | cons a l ih =>
    rw [List.mapM_cons]
    simp only [bind_eq_ok_iff, ih]
    constructor
    · rintro ⟨b, hb, rest, hrest, h⟩
      obtain rfl := Except.ok.inj h
      exact .cons hb hrest
    · intro h
      cases h with
      | cons hb hrest => exact ⟨_, hb, _, hrest, rfl⟩

theorem mapM_eq_error_iff {e : ε} : l.mapM f = .error e ↔
    ∃ before a after, l = before ++ a :: after ∧ (∀ x ∈ before, ∃ y, f x = .ok y) ∧
      f a = .error e := by
  induction l with
  | nil => simp [pure, Except.pure]
  | cons a l ih =>
    rw [exists_first_cons_iff, ← ih, List.mapM_cons]
    cases ha : f a with
    | error e' => simp [bind, Except.bind]
    | ok b => cases l.mapM f <;> simp [bind, Except.bind, pure, Except.pure]

theorem foldlM_eq_error_iff {step : β → α → Except ε β} {Fails : α → ε → Prop}
    (hstep : ∀ b a e, step b a = .error e ↔ Fails a e) {b : β} {e : ε} :
    l.foldlM step b = .error e ↔
      ∃ before a after, l = before ++ a :: after ∧ (∀ x ∈ before, ∀ e', ¬ Fails x e') ∧
        Fails a e := by
  induction l generalizing b with
  | nil => simp [pure, Except.pure]
  | cons a l ih =>
    rw [exists_first_cons_iff, List.foldlM_cons]
    -- A step fails from every state or from none, so the rest may be taken from any state.
    cases ha : step b a with
    | error e' =>
      have hbad : Fails a e' := (hstep b a e').1 ha
      rw [← hstep b a e, ha]
      exact (or_iff_left fun h => h.1 e' hbad).symm
    | ok b' =>
      have hgood (e' : ε) : ¬ Fails a e' := by
        rw [← hstep b a e', ha]
        simp
      rw [or_iff_right (hgood e), and_iff_right hgood, ← ih (b := b')]
      rfl

end Results

end MarketQuery
