import Mathlib.Order.Bounds.Basic
import FrameServer.Event.Bus

namespace FrameServer.Ring

variable {α : Type} {r rest : Ring α} {x : α} {xs : List α} {first : Nat}

/-- The room is the least power of two that is enough. -/
theorem roomFor_isLeast (n : Nat) : IsLeast {m | m.isPowerOfTwo ∧ max n 1 ≤ m} (roomFor n) := by
  by_cases small : n ≤ 1
  · rw [roomFor, if_pos small, Nat.max_eq_right small]
    exact ⟨⟨Nat.isPowerOfTwo_one, Nat.le_refl 1⟩, fun m hm => hm.2⟩
  · have pred : n - 1 ≠ 0 := by omega
    have below : Nat.pow 2 (n - 1).log2 ≤ n - 1 := Nat.log2_self_le pred
    have above : n - 1 < Nat.pow 2 ((n - 1).log2 + 1) := Nat.lt_log2_self
    rw [roomFor, if_neg small, Nat.max_eq_left (by omega)]
    refine ⟨⟨⟨_, rfl⟩, Nat.le_of_pred_lt above⟩, ?_⟩
    rintro m ⟨⟨e, rfl⟩, enough⟩
    have larger : (n - 1).log2 < e := by
      by_contra short
      have le : Nat.pow 2 e ≤ Nat.pow 2 (n - 1).log2 := Nat.pow_le_pow_right Nat.two_pos (Nat.le_of_not_lt short)
      have few : n ≤ n - 1 := enough.trans (le.trans below)
      omega
    exact Nat.pow_le_pow_right Nat.two_pos larger

theorem push_capacity (r : Ring α) (x : α) : (r.push x).capacity = r.capacity := rfl

theorem push_items (held : r.items = xs.drop first) (bound : first ≤ xs.length) :
    (r.push x).items = (xs ++ [x]).drop (max first (xs.length + 1 - r.capacity)) := by
  have longer : r.items ++ [x] = (xs ++ [x]).drop first := by
    rw [held, List.drop_append_of_le_length bound]
  have length : (r.items ++ [x]).length = xs.length + 1 - first := by
    rw [longer, List.length_drop, List.length_append, List.length_singleton]
  have start : first + (xs.length + 1 - first - r.capacity) = max first (xs.length + 1 - r.capacity) := by omega
  show (r.items ++ [x]).drop ((r.items ++ [x]).length - r.capacity) = _
  rw [length, longer, List.drop_drop, start]

theorem pop_some (h : r.pop? = (some x, rest)) : r.items = x :: rest.items ∧ rest.capacity = r.capacity := by
  unfold pop? at h
  split at h
  · cases h
  next a items he =>
    obtain ⟨rfl, rfl⟩ : a = x ∧ _ = rest := by simpa using h
    exact ⟨he, rfl⟩

theorem pop_items (held : r.items = xs.drop first) (h : r.pop? = (some x, rest)) :
    xs[first]? = some x ∧ first < xs.length ∧ rest.items = xs.drop (first + 1) := by
  have taken : xs.drop first = x :: rest.items := held.symm.trans (pop_some h).1
  have there : xs[first]? = some x := by
    rw [← List.head?_drop, taken]
    rfl
  refine ⟨there, (List.getElem?_eq_some_iff.mp there).1, ?_⟩
  rw [← List.tail_drop, taken]
  rfl

theorem pop_none (h : r.pop?.1 = none) : r.items = [] := by
  unfold pop? at h
  split at h
  next empty => exact empty
  · cases h

end FrameServer.Ring
