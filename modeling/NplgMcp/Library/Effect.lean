import Mathlib.Data.Set.Basic

/-!
# Effects

Computations that read and change a state and may fail, and what they are reasoned about with:
`Decides` for those that only find out whether a condition holds, `Logs` for those that append to a
log.
-/

namespace Library

/-- A computation over a state that may fail; what it has done to the state then stays. -/
structure Effect (σ ε α : Type) where
  run : σ → Except ε α × σ

namespace Effect

variable {σ ε α β ι : Type}

instance : Monad (Effect σ ε) where
  pure a := ⟨fun s => (.ok a, s)⟩
  bind x f := ⟨fun s =>
    match x.run s with
    | (.ok a, s) => (f a).run s
    | (.error e, s) => (.error e, s)⟩

/-- A failure. -/
def raise (e : ε) : Effect σ ε α := ⟨fun s => (.error e, s)⟩

/-- A condition, without which there is a failure. -/
def require (p : Prop) [Decidable p] (e : ε) : Effect σ ε Unit := if p then pure () else raise e

theorem pure_then (a : α) (f : α → Effect σ ε β) : ((pure a : Effect σ ε α) >>= f) = f a := rfl

theorem raise_then (e : ε) (f : α → Effect σ ε β) : ((raise e : Effect σ ε α) >>= f) = raise e := rfl

/-- A computation that goes on. -/
theorem bind_ok {x : Effect σ ε α} {f : α → Effect σ ε β} {a : α} {s s' : σ}
    (h : x.run s = (.ok a, s')) : (x >>= f).run s = (f a).run s' := by
  show (match x.run s with
    | (.ok a, s) => (f a).run s
    | (.error e, s) => (.error e, s)) = (f a).run s'
  rw [h]

/-- A computation that ends. -/
theorem bind_error {x : Effect σ ε α} {f : α → Effect σ ε β} {e : ε} {s s' : σ}
    (h : x.run s = (.error e, s')) : (x >>= f).run s = (.error e, s') := by
  show (match x.run s with
    | (.ok a, s) => (f a).run s
    | (.error e, s) => (.error e, s)) = (.error e, s')
  rw [h]

/-! ## Deciding a condition -/

/-- On the states of a class, which it does not leave, a computation succeeds with a value if a
condition holds, and else fails. -/
structure Decides (R : σ → Prop) (p : Prop) (x : Effect σ ε α) (a : α) : Prop where
  ok : p → ∀ s, R s → ∃ s', x.run s = (.ok a, s') ∧ R s'
  error : ¬ p → ∀ s, R s → ∃ e s', x.run s = (.error e, s') ∧ R s'

section Decides

variable {R : σ → Prop} {p q : Prop} {x : Effect σ ε α} {f : α → Effect σ ε β} {a : α} {b : β}

theorem decides_pure (a : α) : Decides R True (pure a : Effect σ ε α) a :=
  ⟨fun _ s hs => ⟨s, rfl, hs⟩, fun h => absurd trivial h⟩

theorem decides_raise (e : ε) : Decides R False (raise e : Effect σ ε α) a :=
  ⟨False.elim, fun _ s hs => ⟨e, s, rfl, hs⟩⟩

theorem decides_require (p : Prop) [Decidable p] (e : ε) :
    Decides R p (require p e : Effect σ ε Unit) () := by
  unfold require
  split
  next h => exact ⟨fun _ => (decides_pure ()).ok trivial, fun hp => absurd h hp⟩
  next h => exact ⟨fun hp => absurd hp h, fun _ s hs => ⟨e, s, rfl, hs⟩⟩

/-- Computations that succeed are known by what they do. -/
theorem decides_of_ok (h : ∀ s, R s → ∃ s', x.run s = (.ok a, s') ∧ R s') : Decides R True x a :=
  ⟨fun _ => h, fun hp => absurd trivial hp⟩

/-- Two conditions, one after the other. -/
theorem Decides.bind (hx : Decides R p x a) (hf : p → Decides R q (f a) b) :
    Decides R (p ∧ q) (x >>= f) b := by
  constructor
  · rintro ⟨hp, hq⟩ s hs
    obtain ⟨s', hrun, hs'⟩ := hx.ok hp s hs
    obtain ⟨s'', hrun', hs''⟩ := (hf hp).ok hq s' hs'
    exact ⟨s'', (bind_ok hrun).trans hrun', hs''⟩
  · intro hnot s hs
    by_cases hp : p
    · obtain ⟨s', hrun, hs'⟩ := hx.ok hp s hs
      obtain ⟨e, s'', hrun', hs''⟩ := (hf hp).error (fun hq => hnot ⟨hp, hq⟩) s' hs'
      exact ⟨e, s'', (bind_ok hrun).trans hrun', hs''⟩
    · obtain ⟨e, s', hrun, hs'⟩ := hx.error hp s hs
      exact ⟨e, s', bind_error hrun, hs'⟩

/-- The condition in other words. -/
theorem Decides.congr (hx : Decides R p x a) (h : p ↔ q) : Decides R q x a := by
  rw [← propext h]
  exact hx

/-- A step that always succeeds. -/
theorem Decides.then (hx : Decides R True x a) (hf : Decides R q (f a) b) :
    Decides R q (x >>= f) b :=
  (hx.bind fun _ => hf).congr ⟨And.right, fun hq => ⟨trivial, hq⟩⟩

end Decides

/-! ## Changing the state -/

/-- From the states of a class a computation succeeds with a value, and leads to those of another. -/
def Leads (R R' : σ → Prop) (x : Effect σ ε α) (a : α) : Prop :=
  ∀ s, R s → ∃ s', x.run s = (.ok a, s') ∧ R' s'

section Leads

variable {R R' R'' : σ → Prop} {p : Prop} {x : Effect σ ε α} {f : α → Effect σ ε β} {a : α} {b : β}

/-- A condition that holds does not keep a computation from its end. -/
theorem Decides.leads (hx : Decides R p x a) (h : p) : Leads R R x a := hx.ok h

theorem leads_pure (a : α) : Leads R R (pure a : Effect σ ε α) a := fun s hs => ⟨s, rfl, hs⟩

theorem Leads.bind (hx : Leads R R' x a) (hf : Leads R' R'' (f a) b) : Leads R R'' (x >>= f) b := by
  intro s hs
  obtain ⟨s', hrun, hs'⟩ := hx s hs
  obtain ⟨s'', hrun', hs''⟩ := hf s' hs'
  exact ⟨s'', (bind_ok hrun).trans hrun', hs''⟩

end Leads

/-! ## Logging -/

/-- A computation appends to a log only members of a set. -/
def Logs (log : σ → List ι) (S : Set ι) (x : Effect σ ε α) : Prop :=
  ∀ s, ∃ added, log (x.run s).2 = log s ++ added ∧ ∀ i ∈ added, i ∈ S

section Logs

variable {log : σ → List ι} {S T : Set ι} {x : Effect σ ε α} {f : α → Effect σ ε β}

/-- What keeps the log. -/
theorem logs_of_eq (h : ∀ s, log (x.run s).2 = log s) : Logs log S x :=
  fun s => ⟨[], by rw [h s, List.append_nil], by simp⟩

theorem logs_pure (a : α) : Logs log S (pure a : Effect σ ε α) := logs_of_eq fun _ => rfl

theorem logs_raise (e : ε) : Logs log S (raise e : Effect σ ε α) := logs_of_eq fun _ => rfl

theorem logs_require (p : Prop) [Decidable p] (e : ε) :
    Logs log S (require p e : Effect σ ε Unit) := by
  unfold require
  split
  · exact logs_pure ()
  · exact logs_raise e

theorem Logs.mono (hx : Logs log S x) (h : S ⊆ T) : Logs log T x := by
  intro s
  obtain ⟨added, hadded, hmem⟩ := hx s
  exact ⟨added, hadded, fun i hi => h (hmem i hi)⟩

/-- The logs of two computations after each other. -/
theorem Logs.bind (hx : Logs log S x) (hf : ∀ a, Logs log S (f a)) : Logs log S (x >>= f) := by
  intro s
  obtain ⟨added, hadded, hmem⟩ := hx s
  rcases hrun : x.run s with ⟨result, s'⟩
  rw [hrun] at hadded
  cases result with
  | error e => exact ⟨added, by rw [bind_error hrun]; exact hadded, hmem⟩
  | ok a =>
      obtain ⟨added', hadded', hmem'⟩ := hf a s'
      refine ⟨added ++ added', ?_, ?_⟩
      · rw [bind_ok hrun, hadded', hadded, List.append_assoc]
      · rw [List.forall_mem_append]
        exact ⟨hmem, hmem'⟩

/-- Nothing is appended to the log. -/
theorem Logs.eq (hx : Logs log (∅ : Set ι) x) (s : σ) : log (x.run s).2 = log s := by
  obtain ⟨added, hadded, hmem⟩ := hx s
  rw [hadded, List.eq_nil_iff_forall_not_mem.2 fun i hi => (hmem i hi).elim, List.append_nil]

end Logs

end Effect

end Library
