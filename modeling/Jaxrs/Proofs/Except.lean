import Mathlib.Data.List.Forall2

/-!
Computations that may fail, opened. A sequence of computations succeeds if each of its parts does
(`mapM_eq_ok_iff`), and otherwise fails as the first part that fails (`mapM_eq_error_iff`). What is
to hold of all results can be asked of the parts that they come from (`forall_mem_iff_of_forall₂`,
`exists_mem_of_forall₂`).
-/

set_option autoImplicit false

namespace Jaxrs

theorem forall_mem_iff_of_forall₂ {α β : Type} {R : α → β → Prop} {P : β → Prop}
    {Q : α → Prop} {as : List α} {bs : List β} (hlist : List.Forall₂ R as bs)
    (h : ∀ a ∈ as, ∀ b, R a b → (P b ↔ Q a)) : (∀ b ∈ bs, P b) ↔ ∀ a ∈ as, Q a := by
  induction hlist with
  | nil => simp
  | @cons a b as bs hab _ ih =>
    have hrest := ih fun a' ha' ↦ h a' (List.mem_cons_of_mem a ha')
    rw [List.forall_mem_cons, List.forall_mem_cons, h a List.mem_cons_self b hab, hrest]

theorem exists_mem_of_forall₂ {α β : Type} {R : α → β → Prop} {as : List α} {bs : List β}
    (hlist : List.Forall₂ R as bs) {b : β} (hb : b ∈ bs) : ∃ a ∈ as, R a b := by
  induction hlist with
  | nil => exact absurd hb List.not_mem_nil
  | @cons a b' as bs hab _ ih =>
    rcases List.mem_cons.mp hb with rfl | hb
    · exact ⟨a, List.mem_cons_self, hab⟩
    · obtain ⟨a', ha', hrelated⟩ := ih hb
      exact ⟨a', List.mem_cons_of_mem a ha', hrelated⟩

namespace Except

variable {ε ε' α β : Type}

theorem bind_eq_ok_iff {x : Except ε α} {f : α → Except ε β} {b : β} :
    (x >>= f) = .ok b ↔ ∃ a, x = .ok a ∧ f a = .ok b := by
  cases x with
  | error e => simp [bind, Except.bind]
  | ok a => simp [bind, Except.bind]

theorem bind_eq_error_iff {x : Except ε α} {f : α → Except ε β} {e : ε} :
    (x >>= f) = .error e ↔ x = .error e ∨ ∃ a, x = .ok a ∧ f a = .error e := by
  cases x with
  | error e' => simp [bind, Except.bind]
  | ok a => simp [bind, Except.bind]

theorem map_eq_ok_iff {x : Except ε α} {f : α → β} {b : β} :
    x.map f = .ok b ↔ ∃ a, x = .ok a ∧ f a = b := by
  cases x <;> simp [Except.map]

theorem mapError_eq_ok_iff {x : Except ε α} {f : ε → ε'} {a : α} :
    x.mapError f = .ok a ↔ x = .ok a := by
  cases x <;> simp [Except.mapError]

theorem mapError_eq_error_iff {x : Except ε α} {f : ε → ε'} {e : ε'} :
    x.mapError f = .error e ↔ ∃ e₀, x = .error e₀ ∧ f e₀ = e := by
  cases x <;> simp [Except.mapError]

/-- A check that throws lets through exactly what it does not throw for. -/
theorem throw_if_eq_ok_iff {c : Prop} [Decidable c] {e : ε} :
    (if c then throw e else pure () : Except ε Unit) = .ok () ↔ ¬ c := by
  by_cases hc : c
  · simp [hc, throw, throwThe, MonadExceptOf.throw]
  · simp [hc, pure, Except.pure]

theorem throw_if_bind_eq_ok_iff {c : Prop} [Decidable c] {e : ε} {f : Unit → Except ε β} {b : β} :
    (if c then throw e >>= f else f ()) = .ok b ↔ ¬ c ∧ f () = .ok b := by
  by_cases hc : c
  · simp [hc, throw, throwThe, MonadExceptOf.throw, bind, Except.bind]
  · simp [hc]

theorem ok_or_error (x : Except ε α) : (∃ a, x = .ok a) ∨ ∃ e, x = .error e := by
  cases x with
  | error e => exact Or.inr ⟨e, rfl⟩
  | ok a => exact Or.inl ⟨a, rfl⟩

theorem forM_eq_ok_iff {l : List α} {f : α → Except ε Unit} :
    l.forM f = .ok () ↔ ∀ a ∈ l, f a = .ok () := by
  induction l with
  | nil => simp [List.forM, pure, Except.pure]
  | cons a rest ih =>
    have hcons : (a :: rest).forM f = f a >>= fun _ ↦ rest.forM f := rfl
    rw [hcons, bind_eq_ok_iff, List.forall_mem_cons]
    constructor
    · rintro ⟨_, ha, hrest⟩
      exact ⟨ha, ih.mp hrest⟩
    · rintro ⟨ha, hrest⟩
      exact ⟨(), ha, ih.mpr hrest⟩

theorem mapM_eq_ok_iff {l : List α} {f : α → Except ε β} {bs : List β} :
    l.mapM f = .ok bs ↔ List.Forall₂ (fun a b ↦ f a = .ok b) l bs := by
  induction l generalizing bs with
  | nil => simp [pure, Except.pure, eq_comm]
  | cons a rest ih =>
    rw [List.mapM_cons, bind_eq_ok_iff]
    constructor
    · rintro ⟨b, ha, h⟩
      obtain ⟨bs', hrest, heq⟩ := bind_eq_ok_iff.mp h
      cases heq
      exact List.Forall₂.cons ha (ih.mp hrest)
    · intro h
      cases h with
      | @cons _ b _ bs' ha hrest =>
        exact ⟨b, ha, bind_eq_ok_iff.mpr ⟨bs', ih.mpr hrest, rfl⟩⟩

/-- The failure is that of the first part that fails. -/
theorem mapM_eq_error_iff {l : List α} {f : α → Except ε β} {e : ε} :
    l.mapM f = .error e ↔ ∃ before a after, l = before ++ a :: after ∧
      (∀ x ∈ before, ∃ b, f x = .ok b) ∧ f a = .error e := by
  induction l with
  | nil => simp [pure, Except.pure]
  | cons a rest ih =>
    rw [List.mapM_cons, bind_eq_error_iff]
    constructor
    · rintro (ha | ⟨b, ha, hrest⟩)
      · exact ⟨[], a, rest, rfl, by simp, ha⟩
      · rcases bind_eq_error_iff.mp hrest with hrest | ⟨_, _, heq⟩
        · obtain ⟨before, x, after, rfl, hbefore, hx⟩ := ih.mp hrest
          exact ⟨a :: before, x, after, rfl, List.forall_mem_cons.mpr ⟨⟨b, ha⟩, hbefore⟩, hx⟩
        · cases heq
    · rintro ⟨before, x, after, heq, hbefore, hx⟩
      cases before with
      | nil =>
        obtain ⟨rfl, rfl⟩ := List.cons.inj heq
        exact Or.inl hx
      | cons y before =>
        obtain ⟨rfl, rfl⟩ := List.cons.inj heq
        obtain ⟨⟨b, hb⟩, hbefore⟩ := List.forall_mem_cons.mp hbefore
        refine Or.inr ⟨b, hb, bind_eq_error_iff.mpr (Or.inl ?_)⟩
        exact ih.mpr ⟨before, x, after, rfl, hbefore, hx⟩

theorem exists_mapM_eq_ok_iff {l : List α} {f : α → Except ε β} :
    (∃ bs, l.mapM f = .ok bs) ↔ ∀ a ∈ l, ∃ b, f a = .ok b := by
  constructor
  · rintro ⟨bs, h⟩
    have hparts := mapM_eq_ok_iff.mp h
    clear h
    induction hparts with
    | nil => simp
    | cons hb _ ih => exact List.forall_mem_cons.mpr ⟨⟨_, hb⟩, ih⟩
  · intro h
    rcases ok_or_error (l.mapM f) with hok | ⟨e, herror⟩
    · exact hok
    · obtain ⟨before, a, after, rfl, _, ha⟩ := mapM_eq_error_iff.mp herror
      obtain ⟨b, hb⟩ := h a (by simp)
      rw [ha] at hb
      cases hb

end Except

end Jaxrs
