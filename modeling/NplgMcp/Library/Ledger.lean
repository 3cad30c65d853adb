import Mathlib.Algebra.Order.BigOperators.Group.Finset
import Mathlib.Algebra.BigOperators.Ring.Finset

/-!
# Promises and what is spent of them

Accounts that are open have each been promised an amount and have spent part of it. What they may
still spend is `unspent`: opening an account adds its promise, closing it takes away what it has not
spent, and spending moves the amount out. A total and the unspent promises together stay below a
bound as long as an account is opened only when all promises fit: that is how a reservation system
keeps its budget. Adding the full promises of the other accounts to the total instead counts twice
what they have spent.
-/

open Finset

namespace Library

variable {τ : Type*} {opened : Finset τ} {promised promised' spent spent' : τ → ℤ} {t : τ}

/-- What the open accounts have been promised and have not spent. -/
def unspent (opened : Finset τ) (promised spent : τ → ℤ) : ℤ :=
  ∑ t ∈ opened, (promised t - spent t)

theorem unspent_empty : unspent ∅ promised spent = 0 := rfl

/-- Only the open accounts matter. -/
theorem unspent_congr (hpromised : ∀ t ∈ opened, promised' t = promised t)
    (hspent : ∀ t ∈ opened, spent' t = spent t) :
    unspent opened promised' spent' = unspent opened promised spent :=
  sum_congr rfl fun t ht => by rw [hpromised t ht, hspent t ht]

/-- Accounts that spend at most their promise have something left. -/
theorem unspent_nonneg (h : ∀ t ∈ opened, spent t ≤ promised t) :
    0 ≤ unspent opened promised spent :=
  sum_nonneg fun t ht => sub_nonneg.2 (h t ht)

/-- Accounts that have spent nothing negative have at most their promises left. -/
theorem unspent_le_sum (h : ∀ t ∈ opened, 0 ≤ spent t) :
    unspent opened promised spent ≤ ∑ t ∈ opened, promised t :=
  sum_le_sum fun t ht => sub_le_self _ (h t ht)

variable [DecidableEq τ]

/-- A new account may spend its whole promise. -/
theorem unspent_open (hnew : t ∉ opened) (hspent : spent t = 0) :
    unspent (insert t opened) promised spent = unspent opened promised spent + promised t := by
  rw [unspent, sum_insert hnew, hspent, sub_zero, add_comm]
  rfl

/-- A closed account gives back what it has not spent. -/
theorem unspent_close (h : t ∈ opened) :
    unspent (opened.erase t) promised spent =
      unspent opened promised spent - (promised t - spent t) :=
  eq_sub_of_add_eq (sum_erase_add _ _ h)

/-- Spending takes from what is left. -/
theorem unspent_spend (h : t ∈ opened) {amount : ℤ} (hspent : spent' t = spent t + amount)
    (hothers : ∀ u ∈ opened, u ≠ t → spent' u = spent u) :
    unspent opened promised spent' = unspent opened promised spent - amount := by
  have hrest : unspent (opened.erase t) promised spent' = unspent (opened.erase t) promised spent :=
    unspent_congr (fun _ _ => rfl) fun u hu =>
      hothers u (mem_of_mem_erase hu) (ne_of_mem_erase hu)
  rw [unspent_close h, unspent_close h, hspent] at hrest
  omega

/-- **Counting twice.** The full promises of the other accounts are what all accounts may still
spend, less what this one may, and once more what the others have spent. -/
theorem sum_promised_erase (h : t ∈ opened) :
    ∑ u ∈ opened.erase t, promised u =
      unspent opened promised spent - (promised t - spent t) + ∑ u ∈ opened.erase t, spent u := by
  rw [← unspent_close h, unspent, ← sum_add_distrib]
  exact sum_congr rfl fun u _ => (sub_add_cancel _ _).symm

end Library
