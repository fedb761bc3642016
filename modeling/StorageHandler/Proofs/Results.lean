import Mathlib.Data.List.Forall2
import Mathlib.Data.List.Perm.Basic

/-!
# Results one by one

`List.mapM` asks for the results of items one after the other. There is a list of results exactly if
every item has one (`mapM_eq_ok_iff_forall₂`). Otherwise the first item that has none says why
(`mapM_eq_error_iff`).

A program over a state that fails keeps what it has done until then (`run_run_bind_of_error`), also
where the failure is caught (`run_run_tryCatch_of_error`). If it does not, the next one starts from
what it leaves (`run_run_bind_of_ok`).
-/

namespace StorageHandler

universe u

section Lists

variable {ε α β : Type u} {f : α → Except ε β}

theorem mapM_eq_ok_iff_forall₂ {as : List α} {bs : List β} :
    as.mapM f = .ok bs ↔ List.Forall₂ (fun a b => f a = .ok b) as bs := by
  induction as generalizing bs with
  | nil =>
    rw [List.mapM_nil, List.forall₂_nil_left_iff]
    exact ⟨fun h => (Except.ok.inj h).symm, fun h => h ▸ rfl⟩
  | cons a as ih =>
    rw [List.mapM_cons]
    constructor
    · intro h
      cases ha : f a with
      | error e =>
        rw [ha] at h
        cases h
      | ok b =>
        cases has : as.mapM f with
        | error e =>
          rw [ha, has] at h
          cases h
        | ok bs =>
          rw [ha, has] at h
          obtain rfl := Except.ok.inj h
          exact .cons ha (ih.1 has)
    · rintro (_ | ⟨ha, has⟩)
      rw [ha, ih.2 has]
      rfl

/-- What is said of a failure does not change the result. -/
theorem mapError_eq_ok_iff {ε' : Type u} {g : ε → ε'} {r : Except ε α} {a : α} :
    r.mapError g = .ok a ↔ r = .ok a := by
  cases r <;> simp [Except.mapError]

theorem exists_mapM_eq_ok {as : List α} (h : ∀ a ∈ as, ∃ b, f a = .ok b) :
    ∃ bs, as.mapM f = .ok bs := by
  induction as with
  | nil => exact ⟨[], rfl⟩
  | cons a as ih =>
    obtain ⟨⟨b, hb⟩, has⟩ := List.forall_mem_cons.1 h
    obtain ⟨bs, hbs⟩ := ih has
    refine ⟨b :: bs, ?_⟩
    rw [List.mapM_cons, hb, hbs]
    rfl

/-- In another order there are the same results in another order. -/
theorem exists_mapM_eq_ok_of_perm {as as' : List α} {bs : List β} (hperm : as.Perm as')
    (h : as.mapM f = .ok bs) : ∃ bs', as'.mapM f = .ok bs' ∧ bs.Perm bs' := by
  obtain ⟨bs', hbs', hperm'⟩ := List.perm_comp_forall₂ hperm.symm (mapM_eq_ok_iff_forall₂.1 h)
  exact ⟨bs', mapM_eq_ok_iff_forall₂.2 hbs', hperm'.symm⟩

/-- There are no results exactly if an item has none after items that have. -/
theorem mapM_eq_error_iff {as : List α} {e : ε} :
    as.mapM f = .error e ↔ ∃ pre a post, as = pre ++ a :: post ∧
      (∀ a' ∈ pre, ∃ b, f a' = .ok b) ∧ f a = .error e := by
  constructor
  · intro h
    induction as with
    | nil => cases h
    | cons a as ih =>
      rw [List.mapM_cons] at h
      cases ha : f a with
      | error e' =>
        rw [ha] at h
        obtain rfl := Except.error.inj h
        exact ⟨[], a, as, rfl, List.forall_mem_nil _, ha⟩
      | ok b =>
        cases has : as.mapM f with
        | ok bs =>
          rw [ha, has] at h
          cases h
        | error e' =>
          rw [ha, has] at h
          obtain rfl := Except.error.inj h
          obtain ⟨pre, a', post, rfl, hpre, ha'⟩ := ih has
          exact ⟨a :: pre, a', post, rfl, List.forall_mem_cons.2 ⟨⟨b, ha⟩, hpre⟩, ha'⟩
  · rintro ⟨pre, a, post, rfl, hpre, ha⟩
    obtain ⟨bs, hbs⟩ := exists_mapM_eq_ok hpre
    rw [List.mapM_append, hbs, List.mapM_cons, ha]
    rfl

/-- What goes with a list that has an item in it has a counterpart of that item in it. -/
theorem exists_append_cons_of_forall₂ {R : α → β → Prop} {pre post : List α} {a : α} {bs : List β}
    (h : List.Forall₂ R (pre ++ a :: post) bs) :
    ∃ pre' b post', bs = pre' ++ b :: post' ∧ R a b ∧ List.Forall₂ R post post' := by
  induction pre generalizing bs with
  | nil =>
    obtain ⟨b, post', hab, hpost, rfl⟩ := List.forall₂_cons_left_iff.1 h
    exact ⟨[], b, post', rfl, hab, hpost⟩
  | cons a' pre ih =>
    obtain ⟨b', bs, -, hrest, rfl⟩ := List.forall₂_cons_left_iff.1 h
    obtain ⟨pre', b, post', rfl, hab, hpost⟩ := ih hrest
    exact ⟨b' :: pre', b, post', rfl, hab, hpost⟩

/-- Optional results are lacking exactly if an item has none. -/
theorem mapM_eq_none_iff {f : α → Option β} {as : List α} :
    as.mapM f = none ↔ ∃ a ∈ as, f a = none := by
  induction as with
  | nil => simp
  | cons a as ih =>
    simp only [List.mapM_cons, List.mem_cons, exists_eq_or_imp, ← ih]
    cases f a <;> cases as.mapM f <;> simp

end Lists

section Programs

variable {ε σ α β : Type u} {p : ExceptT ε (StateM σ) α} {s s' : σ}

theorem run_run_bind_of_ok {a : α} (h : p.run.run s = (.ok a, s'))
    (f : α → ExceptT ε (StateM σ) β) : (p >>= f).run.run s = (f a).run.run s' := by
  rw [ExceptT.run_bind, StateT.run_bind, h]
  rfl

theorem run_run_bind_of_error {e : ε} (h : p.run.run s = (.error e, s'))
    (f : α → ExceptT ε (StateM σ) β) : (p >>= f).run.run s = (.error e, s') := by
  rw [ExceptT.run_bind, StateT.run_bind, h]
  rfl

theorem run_run_tryCatch_of_ok {a : α} (h : p.run.run s = (.ok a, s'))
    (handle : ε → ExceptT ε (StateM σ) α) : (tryCatch p handle).run.run s = (.ok a, s') := by
  rw [ExceptT.run_tryCatch, StateT.run_bind, h]
  rfl

theorem run_run_tryCatch_of_error {e : ε} (h : p.run.run s = (.error e, s'))
    (handle : ε → ExceptT ε (StateM σ) α) :
    (tryCatch p handle).run.run s = (handle e).run.run s' := by
  rw [ExceptT.run_tryCatch, StateT.run_bind, h]
  rfl

end Programs

end StorageHandler
