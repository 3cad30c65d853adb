/-!
# Triples of programs that change a state and may fail

A program is an `ExceptT ε (StateM σ)`: it changes the state whether it returns or raises. A `Triple`
says of every run from a state with the precondition what holds of the value and the state it returns
with, and of the error and the state it raises with. There is a rule for each way to put programs
together.
-/

namespace Library

variable {σ ε α β : Type}

/-- What a program returns or raises, and the state it leaves. -/
def outcome (m : ExceptT ε (StateM σ) α) (s : σ) : Except ε α × σ := Id.run (StateT.run m.run s)

/-- Every run from a state with `before` returns with `after` or raises with `failed`. -/
def Triple (before : σ → Prop) (m : ExceptT ε (StateM σ) α) (after : α → σ → Prop)
    (failed : ε → σ → Prop) : Prop :=
  ∀ s, before s → match outcome m s with
    | (.ok x, s') => after x s'
    | (.error e, s') => failed e s'

variable {m : ExceptT ε (StateM σ) α} {before before' : σ → Prop} {after : α → σ → Prop}
  {failed : ε → σ → Prop}

namespace Triple

/-- What is returned. -/
theorem of_ok {s s' : σ} {x : α} (h : Triple before m after failed) (hbefore : before s)
    (hrun : outcome m s = (.ok x, s')) : after x s' := by
  have hresult := h s hbefore
  rwa [hrun] at hresult

/-- What is raised. -/
theorem of_error {s s' : σ} {e : ε} (h : Triple before m after failed) (hbefore : before s)
    (hrun : outcome m s = (.error e, s')) : failed e s' := by
  have hresult := h s hbefore
  rwa [hrun] at hresult

/-- A value is returned in the state there is. -/
theorem pure {x : α} (h : ∀ s, before s → after x s) :
    Triple before (Pure.pure x : ExceptT ε (StateM σ) α) after failed :=
  fun s hbefore => h s hbefore

/-- An error is raised in the state there is. -/
theorem throw {e : ε} (h : ∀ s, before s → failed e s) :
    Triple before (MonadExcept.throw e : ExceptT ε (StateM σ) α) after failed :=
  fun s hbefore => h s hbefore

/-- What was computed is returned or raised. -/
theorem ofExcept {x : Except ε α} (hok : ∀ y, x = .ok y → ∀ s, before s → after y s)
    (herror : ∀ e, x = .error e → ∀ s, before s → failed e s) :
    Triple before (MonadExcept.ofExcept x : ExceptT ε (StateM σ) α) after failed := by
  cases x with
  | ok y => exact fun s hbefore => hok y rfl s hbefore
  | error e => exact fun s hbefore => herror e rfl s hbefore

/-- A stronger precondition and weaker postconditions. -/
theorem weaken {after' : α → σ → Prop} {failed' : ε → σ → Prop} (h : Triple before m after failed)
    (hbefore : ∀ s, before' s → before s) (hafter : ∀ x s, after x s → after' x s)
    (hfailed : ∀ e s, failed e s → failed' e s) : Triple before' m after' failed' := by
  intro s hs
  have hresult := h s (hbefore s hs)
  rcases hrun : outcome m s with ⟨result, s'⟩
  rw [hrun] at hresult
  cases result with
  | ok x => exact hafter x s' hresult
  | error e => exact hfailed e s' hresult

/-- What the precondition says of no state is a hypothesis. -/
theorem fact {p : Prop} (h : p → Triple before m after failed) :
    Triple (fun s => p ∧ before s) m after failed :=
  fun s hs => h hs.1 s hs.2

/-- One program after another. -/
theorem bind (middle : α → σ → Prop) {next : α → ExceptT ε (StateM σ) β} {after' : β → σ → Prop}
    (hfirst : Triple before m middle failed)
    (hnext : ∀ x, Triple (middle x) (next x) after' failed) :
    Triple before (m >>= next) after' failed := by
  intro s hbefore
  have hresult := hfirst s hbefore
  have hbind : outcome (m >>= next) s = match outcome m s with
      | (.ok x, s') => outcome (next x) s'
      | (.error e, s') => (.error e, s') := by
    simp only [outcome, ExceptT.run_bind, StateT.run_bind, Id.run_bind]
    rcases Id.run (StateT.run m.run s) with ⟨_ | _, _⟩ <;> rfl
  rw [hbind]
  rcases hrun : outcome m s with ⟨result, s'⟩
  rw [hrun] at hresult
  cases result with
  | ok x => exact hnext x s' hresult
  | error e => exact hresult

/-- A program that begins with the state there is. -/
theorem get_bind {next : σ → ExceptT ε (StateM σ) β} {after' : β → σ → Prop}
    (h : ∀ now, Triple (fun s => s = now ∧ before s) (next now) after' failed) :
    Triple before (MonadStateOf.get >>= next : ExceptT ε (StateM σ) β) after' failed :=
  fun s hbefore => h s s ⟨rfl, hbefore⟩

/-- A program that begins with a change of the state. -/
theorem modify_bind {f : σ → σ} {next : Unit → ExceptT ε (StateM σ) β} {after' : β → σ → Prop}
    (middle : σ → Prop) (hmiddle : ∀ s, before s → middle (f s))
    (hnext : Triple middle (next ()) after' failed) :
    Triple before (modify f >>= next : ExceptT ε (StateM σ) β) after' failed :=
  fun s hbefore => hnext (f s) (hmiddle s hbefore)

/-- A program with a handler of what it raises. -/
theorem tryCatch {handler : ε → ExceptT ε (StateM σ) α} {raised : ε → σ → Prop}
    (hbody : Triple before m after raised)
    (hhandler : ∀ e, Triple (raised e) (handler e) after failed) :
    Triple before (MonadExcept.tryCatch m handler) after failed := by
  intro s hbefore
  have hresult := hbody s hbefore
  have hcatch : outcome (MonadExcept.tryCatch m handler) s = match outcome m s with
      | (.ok x, s') => (.ok x, s')
      | (.error e, s') => outcome (handler e) s' := by
    change (match (m s : Except ε α × σ) with
      | (result, s') => ((match result with
          | .ok x => Pure.pure (.ok x)
          | .error e => handler e : StateM σ (Except ε α)) s' : Except ε α × σ)) =
        match (m s : Except ε α × σ) with
        | (.ok x, s') => (.ok x, s')
        | (.error e, s') => (handler e s' : Except ε α × σ)
    rcases (m s : Except ε α × σ) with ⟨_ | _, _⟩ <;> rfl
  rw [hcatch]
  rcases hrun : outcome m s with ⟨result, s'⟩
  rw [hrun] at hresult
  cases result with
  | ok x => exact hresult
  | error e => exact hhandler e s' hresult

end Triple

end Library
