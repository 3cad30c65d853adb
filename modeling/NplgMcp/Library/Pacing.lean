import Mathlib.Algebra.Order.Field.Basic
import Mathlib.Tactic.Linarith
import Mathlib.Tactic.Ring

/-!
# Paced events

Events that are given slots a gap apart and happen at their slot or a little before it. However the
slots were given, a window has no more events than the gap leaves room for: being early once does
not bring later events forward.
-/

namespace Library

variable {K : Type*} [Field K] [LinearOrder K]

/-- An event: when it happens and the slot it was given. -/
structure Paced (K : Type*) where
  time : K
  slot : K
  deriving DecidableEq, Repr

/-- Slots at least `gap` apart, the newest first, with no event after its slot or more than `early`
before it. -/
structure IsPaced (gap early : K) (log : List (Paced K)) : Prop where
  apart : log.Pairwise fun newer older => older.slot + gap ≤ newer.slot
  close : ∀ event ∈ log, event.time ≤ event.slot ∧ event.slot ≤ event.time + early

variable {gap early lo hi : K} {log : List (Paced K)}

theorem isPaced_nil : IsPaced gap early ([] : List (Paced K)) := ⟨.nil, nofun⟩

/-- A new event with a slot of its own keeps the pace. -/
theorem IsPaced.cons (h : IsPaced gap early log) {event : Paced K}
    (hapart : ∀ older ∈ log, older.slot + gap ≤ event.slot)
    (hclose : event.time ≤ event.slot ∧ event.slot ≤ event.time + early) :
    IsPaced gap early (event :: log) where
  apart := List.pairwise_cons.2 ⟨hapart, h.apart⟩
  close := List.forall_mem_cons.2 ⟨hclose, h.close⟩

/-- What is left of the events after some are taken out keeps the pace. -/
theorem IsPaced.sublist {part : List (Paced K)} (h : IsPaced gap early log)
    (hpart : part.Sublist log) : IsPaced gap early part :=
  ⟨h.apart.sublist hpart, fun event hevent => h.close event (hpart.subset hevent)⟩

variable [IsStrictOrderedRing K]

/-- Slots between two bounds are as many as the gap leaves room for. -/
theorem length_le_of_apart (hapart : log.Pairwise fun newer older => older.slot + gap ≤ newer.slot)
    (hroom : 0 ≤ hi - lo + gap) (hin : ∀ event ∈ log, lo ≤ event.slot ∧ event.slot ≤ hi) :
    log.length * gap ≤ hi - lo + gap := by
  induction log generalizing hi with
  | nil => simpa using hroom
  | cons event log ih =>
      obtain ⟨hnewest, hrest⟩ := List.pairwise_cons.1 hapart
      obtain ⟨hlo, hhi⟩ := hin event List.mem_cons_self
      have hbelow : ∀ older ∈ log, lo ≤ older.slot ∧ older.slot ≤ event.slot - gap := by
        intro older holder
        refine ⟨(hin older (List.mem_cons_of_mem _ holder)).1, ?_⟩
        linarith [hnewest older holder]
      have hlength := ih hrest (by linarith) hbelow
      rw [List.length_cons, Nat.cast_add, Nat.cast_one, add_mul, one_mul]
      linarith

/-- **The events of a window.** Not more of them happen in it than fit in it at the pace, with what
they may be early by. -/
theorem IsPaced.count_lt (h : IsPaced gap early log) (hgap : 0 < gap) (hearly : 0 ≤ early)
    (start : K) {width : K} (hwidth : 0 ≤ width) :
    (log.countP fun event => start ≤ event.time ∧ event.time < start + width) * gap <
      width + early + gap := by
  rw [List.countP_eq_length_filter]
  have hpart : IsPaced gap early
      (log.filter fun event => start ≤ event.time ∧ event.time < start + width) :=
    h.sublist List.filter_sublist
  have hin : ∀ event ∈ log.filter (fun event => start ≤ event.time ∧ event.time < start + width),
      start ≤ event.time ∧ event.time < start + width := by
    intro event hevent
    exact of_decide_eq_true (List.mem_filter.1 hevent).2
  cases hevents : log.filter fun event => start ≤ event.time ∧ event.time < start + width with
  | nil =>
      rw [List.length_nil, Nat.cast_zero, zero_mul]
      linarith
  | cons newest events =>
      rw [hevents] at hpart hin
      obtain ⟨hfrom, huntil⟩ := hin newest List.mem_cons_self
      obtain ⟨hslot, hsoon⟩ := hpart.close newest List.mem_cons_self
      have hbetween : ∀ event ∈ newest :: events, start ≤ event.slot ∧ event.slot ≤ newest.slot := by
        intro event hevent
        refine ⟨(hin event hevent).1.trans (hpart.close event hevent).1, ?_⟩
        rcases List.mem_cons.1 hevent with rfl | holder
        · exact le_rfl
        · linarith [(List.pairwise_cons.1 hpart.apart).1 event holder]
      have hlength := length_le_of_apart hpart.apart (by linarith) hbetween
      linarith

end Library
