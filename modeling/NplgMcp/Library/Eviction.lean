import Mathlib.Data.List.Nodup

/-!
# A loop that evicts

`evict must may pressure candidates stored` goes through the candidates, in a list of what is stored
that it shortens as it goes, and evicts each that may go and either must go or goes because the list
is under pressure. Where pressure is monotone in the list, what is kept without need tells that the
pressure has ended, and what is evicted without need tells that all before it has gone as well.
-/

namespace Library

variable {α : Type*} [DecidableEq α]

/-- What the loop evicts, in order. -/
def evict (must may : α → Bool) (pressure : List α → Bool) : List α → List α → List α
  | [], _ => []
  | a :: rest, stored =>
    if (must a || pressure stored) && may a then
      a :: evict must may pressure rest (stored.erase a)
    else evict must may pressure rest stored

/-- A shorter list is under no more pressure. -/
def MonotonePressure (pressure : List α → Bool) : Prop :=
  ∀ ⦃short long : List α⦄, short.Sublist long → pressure short = true → pressure long = true

variable {must may : α → Bool} {pressure : List α → Bool} {candidates stored : List α} {a : α}

theorem evict_sublist : (evict must may pressure candidates stored).Sublist candidates := by
  induction candidates generalizing stored with
  | nil => exact .slnil
  | cons b rest ih =>
      unfold evict
      split
      · exact ih.cons_cons b
      · exact ih.cons b

theorem mem_of_mem_evict (h : a ∈ evict must may pressure candidates stored) : a ∈ candidates :=
  evict_sublist.subset h

/-- Only what may go goes. -/
theorem may_of_mem_evict (h : a ∈ evict must may pressure candidates stored) : may a = true := by
  induction candidates generalizing stored with
  | nil => cases h
  | cons b rest ih =>
      unfold evict at h
      split at h
      · rename_i hgoes
        rcases List.mem_cons.1 h with rfl | hrest
        · exact (Bool.and_eq_true_iff.1 hgoes).2
        · exact ih hrest
      · exact ih h

/-- What must go and may go goes. -/
theorem mem_evict_of_must (hmem : a ∈ candidates) (hmust : must a = true) (hmay : may a = true) :
    a ∈ evict must may pressure candidates stored := by
  induction candidates generalizing stored with
  | nil => cases hmem
  | cons b rest ih =>
      unfold evict
      rcases List.mem_cons.1 hmem with rfl | hrest
      · rw [if_pos (by simp [hmust, hmay])]
        exact List.mem_cons_self
      · split
        · exact List.mem_cons_of_mem b (ih hrest)
        · exact ih hrest

/-- The loop can be cut anywhere. -/
theorem evict_append {front back : List α} :
    evict must may pressure (front ++ back) stored =
      evict must may pressure front stored ++
        evict must may pressure back (stored.diff (evict must may pressure front stored)) := by
  induction front generalizing stored with
  | nil => rfl
  | cons b rest ih =>
      rw [List.cons_append, evict, evict]
      split
      · rw [ih, List.cons_append, List.diff_cons]
      · exact ih

/-- What goes without having to goes from a list under pressure. -/
theorem pressure_of_evict {front back : List α}
    (h : evict must may pressure candidates stored = front ++ a :: back) (hmust : must a = false) :
    pressure (stored.diff front) = true := by
  induction candidates generalizing stored front with
  | nil => simp [evict] at h
  | cons b rest ih =>
      rw [evict] at h
      split at h
      · rename_i hgoes
        cases front with
        | nil =>
            obtain ⟨rfl, -⟩ := List.cons.inj h
            simpa [hmust] using (Bool.and_eq_true_iff.1 hgoes).1
        | cons c front =>
            obtain ⟨rfl, hrest⟩ := List.cons.inj h
            rw [List.diff_cons]
            exact ih hrest
      · exact ih h

/-- What is kept though it may go is kept in a list under no pressure, and so is the list of what
there is in the end. -/
theorem not_pressure_of_kept (hpressure : MonotonePressure pressure) (hmem : a ∈ candidates)
    (hmay : may a = true) (hkept : a ∉ evict must may pressure candidates stored) :
    pressure (stored.diff (evict must may pressure candidates stored)) = false := by
  induction candidates generalizing stored with
  | nil => cases hmem
  | cons b rest ih =>
      rw [evict] at hkept ⊢
      split at hkept
      · rename_i hgoes
        rw [if_pos hgoes, List.diff_cons]
        obtain ⟨hne, hrest⟩ := not_or.1 (mt List.mem_cons.2 hkept)
        exact ih ((List.mem_cons.1 hmem).resolve_left hne) hrest
      · rename_i hstays
        rw [if_neg hstays]
        rcases List.mem_cons.1 hmem with rfl | hrest
        · rw [Bool.eq_false_iff]
          intro hend
          have hnow := hpressure (List.diff_sublist stored _) hend
          exact hstays (by simp [hnow, hmay])
        · exact ih hrest hkept

/-- What goes without having to goes after everything before it that may go. -/
theorem mem_evict_of_before (hpressure : MonotonePressure pressure) {front back : List α} {b : α}
    (hnodup : (front ++ a :: back).Nodup)
    (h : a ∈ evict must may pressure (front ++ a :: back) stored) (hmust : must a = false)
    (hbefore : b ∈ front) (hmay : may b = true) :
    b ∈ evict must may pressure (front ++ a :: back) stored := by
  rw [evict_append] at h ⊢
  refine List.mem_append_left _ ?_
  by_contra hkept
  have hended := not_pressure_of_kept hpressure hbefore hmay hkept
  have hnodup' := List.nodup_append.1 hnodup
  rcases List.mem_append.1 h with hfront | hback
  · exact hnodup'.2.2 a (mem_of_mem_evict hfront) a List.mem_cons_self rfl
  · rw [evict, hmust, hended, Bool.false_or, Bool.false_and, if_neg Bool.false_ne_true] at hback
    exact (List.nodup_cons.1 hnodup'.2.1).1 (mem_of_mem_evict hback)

/-- A list that stays under pressure loses all that may go. -/
theorem evict_of_pressure (h : ∀ short, pressure short = true) :
    evict must may pressure candidates stored = candidates.filter may := by
  induction candidates generalizing stored with
  | nil => rfl
  | cons b rest ih =>
      rw [evict, h, Bool.or_true, Bool.true_and, ih, ih, List.filter_cons]

end Library
