/-
Accounts of held and spent amounts under caps.

A hold is an amount taken from several counters at once. An account has the
holds that are still open and the ones that were spent; what a counter has used
is the sum of both, and an account in which some counter is above its cap cannot
be built. An open hold can be dropped, or spent at an amount no larger than
itself, and neither can break a cap; only acquiring needs room.

A program that keeps the counters as numbers and adds and subtracts in place is
right when its counters are those of an account. The lemmas on `used` say by how
much each operation moves a counter, and `le_used` that taking a hold off again
never goes below zero.
-/
import Mathlib.Algebra.BigOperators.Group.Multiset.Basic
import Mathlib.Data.Finset.Basic

set_option autoImplicit false

namespace Budget

variable {κ : Type} [DecidableEq κ]

/-- An amount taken from every one of `keys`. -/
structure Hold (κ : Type) where
  keys : Finset κ
  amount : ℕ
  deriving DecidableEq

/-- What the hold takes from the counter `k`. -/
def Hold.on (h : Hold κ) (k : κ) : ℕ := if k ∈ h.keys then h.amount else 0

/-- What several holds take from the counter `k` together. -/
def total (hs : Multiset (Hold κ)) (k : κ) : ℕ := (hs.map (·.on k)).sum

@[simp] theorem total_zero (k : κ) : total (0 : Multiset (Hold κ)) k = 0 := rfl

@[simp] theorem total_cons (h : Hold κ) (hs : Multiset (Hold κ)) (k : κ) :
    total (h ::ₘ hs) k = h.on k + total hs k := by
  simp [total]

@[simp] theorem total_add (hs hs' : Multiset (Hold κ)) (k : κ) :
    total (hs + hs') k = total hs k + total hs' k := by
  simp [total]

@[simp] theorem total_singleton (h : Hold κ) (k : κ) : total {h} k = h.on k := by
  simp [total]

theorem Hold.on_mono {h : Hold κ} {amount : ℕ} (hle : amount ≤ h.amount) (k : κ) :
    ({ h with amount } : Hold κ).on k ≤ h.on k := by
  unfold Hold.on
  dsimp only
  split <;> omega

/-- Open and spent holds that fit under the caps together. -/
structure Account (cap : κ → ℕ) where
  held : Multiset (Hold κ)
  spent : Multiset (Hold κ)
  capped : ∀ k, total spent k + total held k ≤ cap k

namespace Account

variable {cap : κ → ℕ}

/-- What the counter `k` has used. -/
def used (a : Account cap) (k : κ) : ℕ := total a.spent k + total a.held k

theorem used_le_cap (a : Account cap) (k : κ) : a.used k ≤ cap k := a.capped k

/-- The account nothing was taken from. -/
def empty : Account cap := ⟨0, 0, fun _ => Nat.zero_le _⟩

/-- Take a hold for which every counter has room. -/
def acquire (a : Account cap) (h : Hold κ) (room : ∀ k ∈ h.keys, a.used k + h.amount ≤ cap k) :
    Account cap where
  held := h ::ₘ a.held
  spent := a.spent
  capped k := by
    have hk := a.used_le_cap k
    rw [total_cons]
    by_cases hmem : k ∈ h.keys
    · have := room k hmem
      simp only [Hold.on, hmem, if_true, used] at *
      omega
    · simp only [Hold.on, hmem, if_false, used] at *
      omega

/-- Give an open hold back. -/
def drop (a : Account cap) (h : Hold κ) (held : Multiset (Hold κ)) (open' : a.held = h ::ₘ held) :
    Account cap where
  held := held
  spent := a.spent
  capped k := by
    have hk := a.used_le_cap k
    simp only [used, open', total_cons] at hk
    omega

/-- Spend an open hold at no more than its amount. -/
def spend (a : Account cap) (h : Hold κ) (held : Multiset (Hold κ)) (open' : a.held = h ::ₘ held)
    (amount : ℕ) (hle : amount ≤ h.amount) : Account cap where
  held := held
  spent := { h with amount } ::ₘ a.spent
  capped k := by
    have hk := a.used_le_cap k
    have hon := h.on_mono hle k
    simp only [used, open', total_cons] at hk ⊢
    omega

@[simp] theorem used_acquire (a : Account cap) (h : Hold κ) (room) (k : κ) :
    (a.acquire h room).used k = a.used k + h.on k := by
  simp only [used, acquire, total_cons]
  omega

@[simp] theorem used_drop (a : Account cap) (h : Hold κ) (held) (open') (k : κ) :
    (a.drop h held open').used k = a.used k - h.on k := by
  simp only [used, drop, open', total_cons]
  omega

@[simp] theorem used_spend (a : Account cap) (h : Hold κ) (held) (open') (amount) (hle) (k : κ) :
    (a.spend h held open' amount hle).used k
      = a.used k - h.on k + ({ h with amount } : Hold κ).on k := by
  simp only [used, spend, open', total_cons]
  omega

/-- **No underflow.** Every counter of an open hold has used at least its
amount. -/
theorem le_used {a : Account cap} {h : Hold κ} {held : Multiset (Hold κ)}
    (open' : a.held = h ::ₘ held) (k : κ) : h.on k ≤ a.used k := by
  simp only [used, open', total_cons]
  omega

end Account

end Budget
