import Mathlib.Data.List.Forall2
/-!
Runs of computations that may fail in a state. `runFrom` gives the result together with the state
that is left, and there is one equation for each kind of step. A computation is `Confined` by a
property of states and one of failures if it keeps the former and fails only with the latter.
-/
namespace QueryBinding

/-! ### Results -/

theorem bind_eq_ok {x : Except ε α} {f : α → Except ε β} {b : β} :
    (x >>= f) = .ok b ↔ ∃ a, x = .ok a ∧ f a = .ok b := by
  cases x <;> simp [bind, Except.bind]

theorem bind_eq_error {x : Except ε α} {f : α → Except ε β} {failure : ε} :
    (x >>= f) = .error failure ↔ x = .error failure ∨ ∃ a, x = .ok a ∧ f a = .error failure := by
  cases x <;> simp [bind, Except.bind]

theorem map_eq_ok {x : Except ε α} {f : α → β} {b : β} :
    x.map f = .ok b ↔ ∃ a, x = .ok a ∧ f a = b := by
  cases x <;> simp [Except.map]

theorem map_eq_error {x : Except ε α} {f : α → β} {failure : ε} :
    x.map f = .error failure ↔ x = .error failure := by
  cases x <;> simp [Except.map]

theorem mapError_eq_ok {x : Except ε α} {f : ε → ε'} {a : α} :
    x.mapError f = .ok a ↔ x = .ok a := by
  cases x with
  | ok b =>
    change (.ok b : Except ε' α) = .ok a ↔ _
    simp only [Except.ok.injEq]
  | error cause =>
    change (.error (f cause) : Except ε' α) = .ok a ↔ _
    simp only [reduceCtorEq]

theorem mapError_eq_error {x : Except ε α} {f : ε → ε'} {failure : ε'} :
    x.mapError f = .error failure ↔ ∃ cause, x = .error cause ∧ f cause = failure := by
  cases x with
  | ok b =>
    change (.ok b : Except ε' α) = .error failure ↔ _
    simp only [reduceCtorEq, false_and, exists_false]
  | error cause =>
    change (.error (f cause) : Except ε' α) = .error failure ↔ _
    simp only [Except.error.injEq, exists_eq_left']

theorem mapM_eq_ok {f : α → Except ε β} {as : List α} {bs : List β} :
    as.mapM f = .ok bs ↔ as.map f = bs.map .ok := by
  induction as generalizing bs with
  | nil => cases bs <;> simp [pure, Except.pure]
  | cons a as ih =>
    simp only [List.mapM_cons, bind_eq_ok, ih, List.map_cons]
    constructor
    · rintro ⟨b, head, rest, tail, same⟩
      cases same
      rw [head, tail, List.map_cons]
    · intro maps
      obtain ⟨b, rest, rfl, head, tail⟩ := List.map_eq_cons_iff.1 maps.symm
      exact ⟨b, head.symm, rest, tail.symm, rfl⟩

theorem mapM_eq_ok_iff_forall₂ {f : α → Except ε β} {as : List α} {bs : List β} :
    as.mapM f = .ok bs ↔ List.Forall₂ (fun a b => f a = .ok b) as bs := by
  rw [mapM_eq_ok, ← List.forall₂_eq_eq_eq, List.forall₂_map_left_iff, List.forall₂_map_right_iff]

theorem mapM_eq_some_iff_forall₂ {f : α → Option β} {as : List α} {bs : List β} :
    as.mapM f = some bs ↔ List.Forall₂ (fun a b => f a = some b) as bs := by
  induction as generalizing bs with
  | nil => cases bs <;> simp
  | cons a as ih => cases bs <;> simp [Option.bind_eq_some_iff, ih]

/-- A list is related to another one if each of its elements is related to something. -/
theorem exists_forall₂_iff {R : α → β → Prop} {as : List α} :
    (∃ bs, List.Forall₂ R as bs) ↔ ∀ a ∈ as, ∃ b, R a b := by
  induction as with
  | nil => simp
  | cons a as ih =>
    rw [List.forall_mem_cons, ← ih]
    constructor
    · rintro ⟨_, _ | ⟨head, tail⟩⟩
      exact ⟨⟨_, head⟩, _, tail⟩
    · rintro ⟨⟨b, head⟩, bs, tail⟩
      exact ⟨b :: bs, .cons head tail⟩

theorem length_of_mapM_eq_ok {f : α → Except ε β} {as : List α} {bs : List β}
    (maps : as.mapM f = .ok bs) : bs.length = as.length := by
  have lengths := congrArg List.length (mapM_eq_ok.1 maps)
  rw [List.length_map, List.length_map] at lengths
  exact lengths.symm

/-- Elements fail by the first of them that fails. -/
theorem mapM_eq_error {f : α → Except ε β} {as : List α} {failure : ε} :
    as.mapM f = .error failure ↔ ∃ before a after, as = before ++ a :: after ∧
      (∀ b ∈ before, ∃ c, f b = .ok c) ∧ f a = .error failure := by
  induction as with
  | nil => simp [pure, Except.pure]
  | cons a as ih =>
    simp only [List.mapM_cons, bind_eq_error, ih, pure, Except.pure, reduceCtorEq, and_false,
      exists_false, or_false]
    constructor
    · rintro (fails | ⟨c, succeeds, before, b, after, rfl, good, fails⟩)
      · exact ⟨[], a, as, rfl, by simp, fails⟩
      · exact ⟨a :: before, b, after, rfl, List.forall_mem_cons.2 ⟨⟨c, succeeds⟩, good⟩, fails⟩
    · rintro ⟨before, b, after, joined, good, fails⟩
      cases before with
      | nil =>
        cases joined
        exact .inl fails
      | cons d before =>
        cases joined
        obtain ⟨⟨c, succeeds⟩, good⟩ := List.forall_mem_cons.1 good
        exact .inr ⟨c, succeeds, before, b, after, rfl, good, fails⟩

theorem mapM_flatMap {f : β → Except ε γ} {g : α → List β} (as : List α) :
    (as.flatMap g).mapM f = (as.mapM fun a => (g a).mapM f).map List.flatten := by
  induction as with
  | nil => rfl
  | cons a as ih =>
    rw [List.flatMap_cons, List.mapM_append, ih, List.mapM_cons]
    cases (g a).mapM f with
    | error failure => rfl
    | ok head => cases as.mapM fun a => (g a).mapM f <;> rfl

/-- All elements have a property, or there is a first one that has not. -/
theorem forall_or_exists_first (p : α → Prop) (as : List α) :
    (∀ a ∈ as, p a) ∨
      ∃ before a after, as = before ++ a :: after ∧ (∀ b ∈ before, p b) ∧ ¬p a := by
  induction as with
  | nil => exact .inl (by simp)
  | cons a as ih =>
    by_cases holds : p a
    · rcases ih with all | ⟨before, b, after, rfl, good, bad⟩
      · exact .inl (List.forall_mem_cons.2 ⟨holds, all⟩)
      · exact .inr ⟨a :: before, b, after, rfl, List.forall_mem_cons.2 ⟨holds, good⟩, bad⟩
    · exact .inr ⟨[], a, as, rfl, by simp, holds⟩

/-- Fails with no failures but allowed ones. -/
def FailsOnly (allowed : ε → Prop) (x : Except ε α) : Prop :=
  ∀ failure, x = .error failure → allowed failure

namespace FailsOnly

variable {allowed : ε → Prop}

theorem ok (a : α) : FailsOnly allowed (.ok a) := by
  intro failure fails
  cases fails

theorem error {failure : ε} (h : allowed failure) :
    FailsOnly allowed (.error failure : Except ε α) := by
  intro other fails
  cases fails
  exact h

theorem mono {other : ε → Prop} {x : Except ε α} (h : FailsOnly allowed x)
    (weaker : ∀ failure, allowed failure → other failure) : FailsOnly other x :=
  fun failure fails => weaker failure (h failure fails)

theorem bind {x : Except ε α} {f : α → Except ε β} (first : FailsOnly allowed x)
    (rest : ∀ a, FailsOnly allowed (f a)) : FailsOnly allowed (x >>= f) := by
  cases x with
  | error failure => exact error (first failure rfl)
  | ok a => exact rest a

theorem map {x : Except ε α} (f : α → β) (h : FailsOnly allowed x) :
    FailsOnly allowed (x.map f) := by
  cases x with
  | error failure => exact error (h failure rfl)
  | ok a => exact ok (f a)

theorem mapM {f : α → Except ε β} {as : List α} (each : ∀ a ∈ as, FailsOnly allowed (f a)) :
    FailsOnly allowed (as.mapM f) := by
  induction as with
  | nil => exact ok []
  | cons a as ih =>
    rw [List.mapM_cons]
    obtain ⟨head, tail⟩ := List.forall_mem_cons.1 each
    exact head.bind fun _ => (ih tail).bind fun _ => ok _

end FailsOnly

/-! ### Steps -/

/-- What a computation gives in a state, and the state that it leaves. -/
def runFrom (m : ExceptT ε (StateM σ) α) (s : σ) : Except ε α × σ := m.run.run s

section Steps

variable {σ ε α β : Type}

theorem runFrom_bind (m : ExceptT ε (StateM σ) α) (f : α → ExceptT ε (StateM σ) β) (s : σ) :
    runFrom (m >>= f) s =
      match runFrom m s with
      | (.ok a, t) => runFrom (f a) t
      | (.error failure, t) => (.error failure, t) := by
  change (ExceptT.bindCont f (m.run.run s).1).run (m.run.run s).2 = _
  unfold runFrom
  rcases StateT.run m.run s with ⟨_ | _, t⟩ <;> rfl

theorem runFrom_bind_ok {m : ExceptT ε (StateM σ) α} {f : α → ExceptT ε (StateM σ) β} {s t : σ}
    {a : α} (first : runFrom m s = (.ok a, t)) : runFrom (m >>= f) s = runFrom (f a) t := by
  rw [runFrom_bind, first]

theorem runFrom_map (g : α → β) (m : ExceptT ε (StateM σ) α) (s : σ) :
    runFrom (g <$> m) s = ((runFrom m s).1.map g, (runFrom m s).2) := by
  rw [map_eq_pure_bind, runFrom_bind]
  rcases runFrom m s with ⟨_ | _, t⟩ <;> rfl

theorem runFrom_discard (m : ExceptT ε (StateM σ) α) (s : σ) :
    runFrom (discard m) s = ((runFrom m s).1.map fun _ => (), (runFrom m s).2) :=
  runFrom_map (fun _ => PUnit.unit) m s

theorem runFrom_tryCatch (m : ExceptT ε (StateM σ) α) (recover : ε → ExceptT ε (StateM σ) α)
    (s : σ) :
    runFrom (tryCatch m recover) s =
      match runFrom m s with
      | (.ok a, t) => (.ok a, t)
      | (.error failure, t) => runFrom (recover failure) t := by
  change StateT.run ((tryCatch m recover).run) s = _
  rw [ExceptT.run_tryCatch, StateT.run_bind]
  unfold runFrom
  rcases StateT.run m.run s with ⟨_ | _, t⟩ <;> rfl

@[simp] theorem runFrom_pure (a : α) (s : σ) :
    runFrom (pure a : ExceptT ε (StateM σ) α) s = (.ok a, s) := rfl

@[simp] theorem runFrom_throw (failure : ε) (s : σ) :
    runFrom (throw failure : ExceptT ε (StateM σ) α) s = (.error failure, s) := rfl

@[simp] theorem runFrom_get (s : σ) :
    runFrom (get : ExceptT ε (StateM σ) σ) s = (.ok s, s) := rfl

@[simp] theorem runFrom_modify (f : σ → σ) (s : σ) :
    runFrom (modify f : ExceptT ε (StateM σ) Unit) s = (.ok (), f s) := rfl

@[simp] theorem runFrom_lift (x : Except ε α) (s : σ) :
    runFrom (liftM x : ExceptT ε (StateM σ) α) s = (x, s) := rfl

@[simp] theorem runFrom_liftState (m : StateM σ α) (s : σ) :
    runFrom (liftM m : ExceptT ε (StateM σ) α) s = (.ok (m.run s).1, (m.run s).2) := rfl

theorem lift_ok_bind (a : α) (f : α → ExceptT ε (StateM σ) β) :
    (liftM (Except.ok a : Except ε α) >>= f) = f a := rfl

theorem lift_bind (x : Except ε α) (f : α → Except ε β) :
    (liftM (x >>= f) : ExceptT ε (StateM σ) β) = liftM x >>= fun a => liftM (f a) := by
  cases x <;> rfl

theorem lift_pure (a : α) :
    (liftM (pure a : Except ε α) : ExceptT ε (StateM σ) α) = pure a := rfl

theorem forM_congr {as : List γ} {f g : γ → ExceptT ε (StateM σ) Unit}
    (same : ∀ a ∈ as, f a = g a) : as.forM f = as.forM g := by
  induction as with
  | nil => rfl
  | cons a as ih =>
    obtain ⟨head, tail⟩ := List.forall_mem_cons.1 same
    have rest := ih tail
    simp only [List.forM_eq_forM, List.forM_cons] at rest ⊢
    rw [head, rest]

theorem forM_eq_pure {as : List γ} {f : γ → ExceptT ε (StateM σ) Unit}
    (idle : ∀ a ∈ as, f a = pure ()) : as.forM f = pure () := by
  induction as with
  | nil => rfl
  | cons a as ih =>
    obtain ⟨head, tail⟩ := List.forall_mem_cons.1 idle
    have rest := ih tail
    simp only [List.forM_eq_forM, List.forM_cons] at rest ⊢
    rw [head, rest, pure_bind]

theorem lift_error_bind (failure : ε) (f : α → ExceptT ε (StateM σ) β) :
    (liftM (Except.error failure : Except ε α) >>= f) = throw failure := rfl

end Steps

/-! ### Invariants -/

/-- Keeps `kept` in every run, and fails only with `allowed` failures. -/
def Confined (kept : σ → Prop) (allowed : ε → Prop) (m : ExceptT ε (StateM σ) α) : Prop :=
  ∀ s, kept s → kept (runFrom m s).2 ∧ ∀ failure, (runFrom m s).1 = .error failure → allowed failure

namespace Confined

variable {σ ε α β : Type} {kept : σ → Prop} {allowed : ε → Prop}

theorem pure (a : α) : Confined kept allowed (Pure.pure a : ExceptT ε (StateM σ) α) := by
  intro s hs
  exact ⟨hs, fun failure h => by cases h⟩

theorem throw {failure : ε} (h : allowed failure) :
    Confined kept allowed (MonadExcept.throw failure : ExceptT ε (StateM σ) α) := by
  intro s hs
  refine ⟨hs, fun _ thrown => ?_⟩
  cases thrown
  exact h

theorem lift {x : Except ε α} (h : ∀ failure, x = .error failure → allowed failure) :
    Confined kept allowed (liftM x : ExceptT ε (StateM σ) α) := fun _ hs => ⟨hs, h⟩

theorem modify {f : σ → σ} (h : ∀ s, kept s → kept (f s)) :
    Confined kept allowed (modify f : ExceptT ε (StateM σ) Unit) := by
  intro s hs
  exact ⟨h s hs, fun failure thrown => by cases thrown⟩

theorem bind {m : ExceptT ε (StateM σ) α} {f : α → ExceptT ε (StateM σ) β}
    (first : Confined kept allowed m) (rest : ∀ a, Confined kept allowed (f a)) :
    Confined kept allowed (m >>= f) := by
  intro s hs
  obtain ⟨keeps, fails⟩ := first s hs
  rw [runFrom_bind]
  rcases h : runFrom m s with ⟨failure | a, t⟩
  · rw [h] at keeps fails
    refine ⟨keeps, fun _ thrown => ?_⟩
    cases thrown
    exact fails failure rfl
  · rw [h] at keeps
    exact rest a t keeps

theorem tryCatch {m : ExceptT ε (StateM σ) α} {recover : ε → ExceptT ε (StateM σ) α}
    {raised : ε → Prop} (first : Confined kept raised m)
    (rest : ∀ failure, Confined kept allowed (recover failure)) :
    Confined kept allowed (MonadExcept.tryCatch m recover) := by
  intro s hs
  have keeps := (first s hs).1
  rw [runFrom_tryCatch]
  rcases h : runFrom m s with ⟨failure | a, t⟩
  · rw [h] at keeps
    exact rest failure t keeps
  · rw [h] at keeps
    exact ⟨keeps, fun _ thrown => by cases thrown⟩

theorem map {m : ExceptT ε (StateM σ) α} (g : α → β) (h : Confined kept allowed m) :
    Confined kept allowed (g <$> m) := by
  rw [map_eq_pure_bind]
  exact h.bind fun a => pure (g a)

/-- A computation that is refused under a condition. -/
theorem refuse {c : Prop} [Decidable c] {failure : ε} {m : ExceptT ε (StateM σ) β}
    (h : allowed failure) (rest : Confined kept allowed m) :
    Confined kept allowed
      (if c then (MonadExcept.throw failure : ExceptT ε (StateM σ) α) >>= fun _ => m else m) := by
  split
  · exact (throw h).bind fun _ => rest
  · exact rest

/-- A computation that begins by looking at the state may use what is known of it. -/
theorem get_bind {f : σ → ExceptT ε (StateM σ) β}
    (h : ∀ s, kept s → kept (runFrom (f s) s).2 ∧
      ∀ failure, (runFrom (f s) s).1 = .error failure → allowed failure) :
    Confined kept allowed (get >>= f) := fun s hs => by
  rw [runFrom_bind_ok (runFrom_get s)]
  exact h s hs

theorem forM {f : α → ExceptT ε (StateM σ) Unit} {as : List α}
    (each : ∀ a ∈ as, Confined kept allowed (f a)) : Confined kept allowed (as.forM f) := by
  induction as with
  | nil => exact pure ()
  | cons a as ih =>
    have rest := ih fun b mem => each b (List.mem_cons_of_mem _ mem)
    exact (each a List.mem_cons_self).bind fun _ => rest

end Confined

/-! ### Transitions -/

/-- Leaves the state as it is. -/
def Silent (m : ExceptT ε (StateM σ) α) : Prop := ∀ s, (runFrom m s).2 = s

/-- Every success leads to a state that is related to the former one. -/
def Leads (related : σ → σ → Prop) (m : ExceptT ε (StateM σ) α) : Prop :=
  ∀ s a t, runFrom m s = (.ok a, t) → related s t

section Transitions

variable {σ ε α β : Type} {related : σ → σ → Prop} {m : ExceptT ε (StateM σ) α}
  {f : α → ExceptT ε (StateM σ) β}

theorem Silent.pure (a : α) : Silent (Pure.pure a : ExceptT ε (StateM σ) α) := fun _ => rfl

theorem Silent.throw (failure : ε) :
    Silent (MonadExcept.throw failure : ExceptT ε (StateM σ) α) := fun _ => rfl

theorem Silent.lift (x : Except ε α) : Silent (liftM x : ExceptT ε (StateM σ) α) := fun _ => rfl

theorem Silent.get : Silent (MonadState.get : ExceptT ε (StateM σ) σ) := fun _ => rfl

theorem Silent.bind (first : Silent m) (rest : ∀ a, Silent (f a)) : Silent (m >>= f) := by
  intro s
  have same := first s
  rw [runFrom_bind]
  rcases runs : runFrom m s with ⟨failure | a, t⟩
  · rw [runs] at same
    exact same
  · rw [runs] at same
    exact (rest a t).trans same

theorem Silent.map (g : α → β) (h : Silent m) : Silent (g <$> m) := by
  rw [map_eq_pure_bind]
  exact h.bind fun a => .pure (g a)

namespace Leads

theorem of_silent (h : Silent m) (refl : ∀ s, related s s) : Leads related m := by
  intro s a t runs
  have same := h s
  rw [runs] at same
  exact same ▸ refl t

theorem throw (failure : ε) :
    Leads related (MonadExcept.throw failure : ExceptT ε (StateM σ) α) := by
  intro s a t runs
  cases runs

theorem modify {g : σ → σ} (h : ∀ s, related s (g s)) :
    Leads related (modify g : ExceptT ε (StateM σ) Unit) := by
  intro s a t runs
  cases runs
  exact h s

/-- A success of two steps is one of each. -/
theorem of_bind {b : β} {s u : σ} (runs : runFrom (m >>= f) s = (.ok b, u)) :
    ∃ a t, runFrom m s = (.ok a, t) ∧ runFrom (f a) t = (.ok b, u) := by
  rw [runFrom_bind] at runs
  rcases first : runFrom m s with ⟨failure | a, t⟩
  · rw [first] at runs
    cases runs
  · rw [first] at runs
    exact ⟨a, t, rfl, runs⟩

theorem bind (trans : ∀ {s t u}, related s t → related t u → related s u) (first : Leads related m)
    (rest : ∀ a, Leads related (f a)) : Leads related (m >>= f) := by
  intro s b u runs
  obtain ⟨a, t, head, tail⟩ := of_bind runs
  exact trans (first s a t head) (rest a t b u tail)

theorem bind_silent (first : Leads related m) (rest : ∀ a, Silent (f a)) :
    Leads related (m >>= f) := by
  intro s b u runs
  obtain ⟨a, t, head, tail⟩ := of_bind runs
  have same : u = t := by simpa [tail] using rest a t
  rw [same]
  exact first s a t head

theorem silent_bind (first : Silent m) (rest : ∀ a, Leads related (f a)) :
    Leads related (m >>= f) := by
  intro s b u runs
  obtain ⟨a, t, head, tail⟩ := of_bind runs
  have same : t = s := by simpa [head] using first s
  rw [same] at tail
  exact rest a s b u tail

/-- A computation that is refused under a condition. -/
theorem refuse {c : Prop} [Decidable c] {failure : ε} {n : ExceptT ε (StateM σ) β}
    (rest : Leads related n) :
    Leads related
      (if c then (MonadExcept.throw failure : ExceptT ε (StateM σ) α) >>= fun _ => n else n) := by
  split
  · exact silent_bind (.throw failure) fun _ => rest
  · exact rest

theorem forM {g : α → ExceptT ε (StateM σ) Unit} {as : List α} (refl : ∀ s, related s s)
    (trans : ∀ {s t u}, related s t → related t u → related s u)
    (each : ∀ a ∈ as, Leads related (g a)) : Leads related (as.forM g) := by
  induction as with
  | nil => exact of_silent (.pure ()) refl
  | cons a as ih =>
    have rest := ih fun b mem => each b (List.mem_cons_of_mem _ mem)
    exact (each a List.mem_cons_self).bind trans fun _ => rest

end Leads

end Transitions
end QueryBinding
