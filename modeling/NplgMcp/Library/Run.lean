import Mathlib.Data.List.Basic

/-!
# Runs of a step function

A system is a step function `step : σ → ι → σ`: an action that fails is a step too, and says
itself what it leaves behind. A run is the list of the actions taken, its final state the left
fold, and since every prefix of a run is a run, a statement about the final state of every run is
a statement about every state reached. `Along ok step s run` asks a condition of every action in
the state that action is taken in. `foldl_invariant` is the induction over a run that every safety
statement uses, and `forall_prefix_iff_along` its converse where the condition is exact.
-/

namespace Library

variable {σ ι : Type*}

/-- Every action of the run meets `ok` in the state it is taken in. -/
def Along (ok : σ → ι → Prop) (step : σ → ι → σ) : σ → List ι → Prop
  | _, [] => True
  | s, a :: rest => ok s a ∧ Along ok step (step s a) rest

@[simp] theorem along_nil {ok : σ → ι → Prop} {step : σ → ι → σ} {s : σ} :
    Along ok step s [] := trivial

@[simp] theorem along_cons {ok : σ → ι → Prop} {step : σ → ι → σ} {s : σ} {a : ι}
    {rest : List ι} :
    Along ok step s (a :: rest) ↔ ok s a ∧ Along ok step (step s a) rest := Iff.rfl

/-- A decidable condition is decidable along a run. -/
instance Along.decidable {ok : σ → ι → Prop} {step : σ → ι → σ}
    [h : ∀ s a, Decidable (ok s a)] : ∀ (s : σ) (run : List ι), Decidable (Along ok step s run)
  | _, [] => isTrue trivial
  | s, a :: rest => @instDecidableAnd _ _ (h s a) (Along.decidable (step s a) rest)

/-- A run of two parts meets a condition exactly when both parts do, the second from where the
first ends. -/
theorem along_append {ok : σ → ι → Prop} {step : σ → ι → σ} :
    ∀ {s : σ} {front back : List ι}, Along ok step s (front ++ back) ↔
      Along ok step s front ∧ Along ok step (front.foldl step s) back
  | _, [], _ => by simp
  | s, a :: front, back => by
      simp only [List.cons_append, along_cons, List.foldl_cons, and_assoc]
      rw [along_append]

/-- A weaker condition is met wherever a stronger one is. -/
theorem Along.imp {ok ok' : σ → ι → Prop} {step : σ → ι → σ} (h : ∀ s a, ok s a → ok' s a) :
    ∀ {s : σ} {run : List ι}, Along ok step s run → Along ok' step s run
  | _, [], _ => trivial
  | _, _ :: _, ⟨hok, hrest⟩ => ⟨h _ _ hok, hrest.imp h⟩

/-- **The invariant rule.** What holds at the start and is kept by every step that meets the
condition holds at the end of every run that meets it throughout. -/
theorem foldl_invariant {ok : σ → ι → Prop} {step : σ → ι → σ} {inv : σ → Prop}
    (keep : ∀ s a, ok s a → inv s → inv (step s a)) {s : σ} {run : List ι} (hinv : inv s)
    (hok : Along ok step s run) : inv (run.foldl step s) := by
  induction run generalizing s with
  | nil => exact hinv
  | cons a rest ih => exact ih (keep s a hok.1 hinv) hok.2

/-- What the invariant gives of a step that meets the condition holds of every step of a run. -/
theorem Along.of_invariant {ok good : σ → ι → Prop} {step : σ → ι → σ} {inv : σ → Prop}
    (keep : ∀ s a, ok s a → inv s → inv (step s a)) (gives : ∀ s a, ok s a → inv s → good s a)
    {s : σ} {run : List ι} (hinv : inv s) (hok : Along ok step s run) : Along good step s run := by
  induction run generalizing s with
  | nil => trivial
  | cons a rest ih => exact ⟨gives s a hok.1 hinv, ih (keep s a hok.1 hinv) hok.2⟩

/-- Where the states of an invariant make two conditions of a step the same, they are the same of a
run. -/
theorem along_congr_of_invariant {ok good : σ → ι → Prop} {step : σ → ι → σ} {inv : σ → Prop}
    (keep : ∀ s a, inv s → inv (step s a)) (iff : ∀ s a, inv s → (good s a ↔ ok s a)) {s : σ}
    {run : List ι} (hinv : inv s) : Along good step s run ↔ Along ok step s run := by
  induction run generalizing s with
  | nil => exact Iff.rfl
  | cons a rest ih => exact and_congr (iff s a hinv) (ih (keep s a hinv))

/-- **The exact condition of a safety statement.** Where the invariant gives what is wanted of a
state, steps that meet the condition keep the invariant, and steps that do not lose what is
wanted, a run has it in every state it reaches exactly when all its steps meet the condition. -/
theorem forall_prefix_iff_along {ok : σ → ι → Prop} {step : σ → ι → σ} (inv good : σ → Prop)
    (holds : ∀ s, inv s → good s) (keep : ∀ s a, ok s a → inv s → inv (step s a))
    (breaks : ∀ s a, ¬ ok s a → inv s → ¬ good (step s a)) {s : σ} {run : List ι} (hinv : inv s) :
    (∀ front, front <+: run → good (front.foldl step s)) ↔ Along ok step s run := by
  induction run generalizing s with
  | nil =>
      refine ⟨fun _ => trivial, fun _ front hfront => ?_⟩
      obtain rfl := List.prefix_nil.1 hfront
      exact holds s hinv
  | cons a rest ih =>
      constructor
      · intro h
        have hok : ok s a := by
          by_contra hno
          exact breaks s a hno hinv (h [a] (by simp))
        refine ⟨hok, (ih (keep s a hok hinv)).1 fun front hfront => ?_⟩
        exact h (a :: front) (List.cons_prefix_cons.2 ⟨rfl, hfront⟩)
      · rintro ⟨hok, hrest⟩ front hfront
        cases front with
        | nil => exact holds s hinv
        | cons b front =>
            obtain ⟨rfl, hback⟩ := List.cons_prefix_cons.1 hfront
            exact (ih (keep s b hok hinv)).2 hrest front hback

/-- **A lasting loss.** Where a step that does not meet the condition, and no other, loses what is
wanted of a state, and a loss lasts, the end of a run has what is wanted exactly when all its steps
meet the condition. -/
theorem foldl_iff_along {ok : σ → ι → Prop} {step : σ → ι → σ} {inv lost : σ → Prop}
    (keep : ∀ s a, inv s → inv (step s a))
    (loses : ∀ s a, inv s → ¬ lost s → (lost (step s a) ↔ ¬ ok s a))
    (stay : ∀ s a, inv s → lost s → lost (step s a)) {s : σ} {run : List ι} (hinv : inv s)
    (hlost : ¬ lost s) : ¬ lost (run.foldl step s) ↔ Along ok step s run := by
  have hlasts : ∀ (rest : List ι) (t : σ), inv t → lost t → lost (rest.foldl step t) := by
    intro rest
    induction rest with
    | nil => exact fun _ _ h => h
    | cons a rest ih => exact fun t ht h => ih (step t a) (keep t a ht) (stay t a ht h)
  induction run generalizing s with
  | nil => simpa using hlost
  | cons a rest ih =>
      rw [List.foldl_cons, along_cons]
      by_cases hok : ok s a
      · have hnext : ¬ lost (step s a) := fun h => (loses s a hinv hlost).1 h hok
        exact (ih (keep s a hinv) hnext).trans ⟨fun h => ⟨hok, h⟩, fun h => h.2⟩
      · have hnext : lost (step s a) := (loses s a hinv hlost).2 hok
        exact ⟨fun h => absurd (hlasts rest _ (keep s a hinv) hnext) h, fun h => absurd h.1 hok⟩

/-! ## Counting -/

/-- How many actions of the run meet the condition in the state they are taken in. -/
def countAlong (p : σ → ι → Prop) [∀ s a, Decidable (p s a)] (step : σ → ι → σ) :
    σ → List ι → ℕ
  | _, [] => 0
  | s, a :: rest => (if p s a then 1 else 0) + countAlong p step (step s a) rest

/-- **Entering and leaving.** What a state may have is entered as often as it is left, and once more
if it holds at the end of a run that it does not hold at the start of. -/
theorem countAlong_enter_eq_leave {p : σ → Prop} [DecidablePred p] {step : σ → ι → σ} {s : σ}
    {run : List ι} :
    countAlong (fun s a => ¬ p s ∧ p (step s a)) step s run + (if p s then 1 else 0) =
      countAlong (fun s a => p s ∧ ¬ p (step s a)) step s run +
        if p (run.foldl step s) then 1 else 0 := by
  induction run generalizing s with
  | nil => rfl
  | cons a rest ih =>
      have hrest := @ih (step s a)
      change (if ¬ p s ∧ p (step s a) then 1 else 0) + countAlong _ step (step s a) rest +
          (if p s then 1 else 0) =
        (if p s ∧ ¬ p (step s a) then 1 else 0) + countAlong _ step (step s a) rest +
          if p (rest.foldl step (step s a)) then 1 else 0
      by_cases hbefore : p s <;> by_cases hafter : p (step s a) <;>
        simp only [hbefore, hafter, not_true_eq_false, not_false_eq_true, and_self, and_false,
          false_and, if_true, if_false] at hrest ⊢ <;> omega

/-- What is never entered from the states of an invariant is not entered in a run from one. -/
theorem countAlong_eq_zero {p : σ → ι → Prop} [∀ s a, Decidable (p s a)] {step : σ → ι → σ}
    {inv : σ → Prop} (keep : ∀ s a, inv s → inv (step s a)) (never : ∀ s a, inv s → ¬ p s a)
    {s : σ} {run : List ι} (hinv : inv s) : countAlong p step s run = 0 := by
  induction run generalizing s with
  | nil => rfl
  | cons a rest ih => simp [countAlong, never s a hinv, ih (keep s a hinv)]

/-- What cannot be entered again once it has been entered is entered at most once. -/
theorem countAlong_le_one {p : σ → ι → Prop} [∀ s a, Decidable (p s a)] {step : σ → ι → σ}
    {inv done : σ → Prop} (keep : ∀ s a, inv s → inv (step s a))
    (enter : ∀ s a, inv s → p s a → done (step s a)) (stay : ∀ s a, done s → done (step s a))
    (never : ∀ s a, done s → ¬ p s a) {s : σ} {run : List ι} (hinv : inv s) :
    countAlong p step s run ≤ 1 := by
  induction run generalizing s with
  | nil => exact Nat.zero_le 1
  | cons a rest ih =>
      unfold countAlong
      split_ifs with hp
      · have hrest : countAlong p step (step s a) rest = 0 :=
          countAlong_eq_zero stay never (enter s a hinv hp)
        omega
      · rw [Nat.zero_add]
        exact ih (keep s a hinv)

end Library
