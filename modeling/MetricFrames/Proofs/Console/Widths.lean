import MetricFrames.Console.Table
import Mathlib.Data.List.Basic

/-!
# Widths of two columns

Of two columns that are too wide together the wider one gives up cells until both are as wide, then
both of them do (`collapse_round`, `collapse_same`). So two columns never take more cells than there
are for them (`fitting_pair`).
-/

namespace MetricFrames.Console.Widths

theorem total_pair (a b : Nat) : total [a, b] = a + b := by simp [total]

theorem share_one (n : Nat) : share n 1 = n := by
  simp [share, Nat.mod_one]

theorem share_zero (parts : Nat) : share 0 parts = 0 := by
  simp [share]
  omega

theorem share_two (n : Nat) : share n 2 = n / 2 ∨ share n 2 = (n + 1) / 2 := by
  rw [share]
  split <;> omega

theorem collapse_of_le {available : Nat} {widths : List Nat} (h : total widths ≤ available)
    (rounds : Nat) : collapse available rounds widths = widths := by
  cases rounds with
  | zero => rfl
  | succ rounds =>
    rw [collapse]
    dsimp only
    rw [if_pos (Nat.sub_eq_zero_of_le h)]

/-- Two columns of one width give up at once what they have too much. -/
theorem collapse_same (available rounds a : Nat) :
    ∃ c d, collapse available (rounds + 1) [a, a] = [c, d] ∧ c + d ≤ available := by
  by_cases h : a + a ≤ available
  · exact ⟨a, a, collapse_of_le (total_pair a a ▸ h) _, h⟩
  · have hpos : 0 < min (a + a - available) a := by omega
    have hround : collapse available (rounds + 1) [a, a] =
        collapse available rounds (reduce (a + a - available) 2
          [(true, min (a + a - available) a, a), (true, min (a + a - available) a, a)]) := by
      rw [collapse]
      dsimp only
      rw [total_pair, if_neg (by omega)]
      simp
    rw [hround]
    simp only [reduce, hpos, and_self, if_true, Nat.add_one_sub_one, share_one]
    have hshare := share_two (a + a - available)
    generalize share (a + a - available) 2 = half at hshare ⊢
    refine ⟨_, _, collapse_of_le ?_ _, ?_⟩
    · rw [total_pair]
      omega
    · omega

/-- The wider one of two columns becomes as wide as the other one, or less. -/
theorem collapse_round {available a b : Nat} (rounds : Nat) (hab : a ≠ b)
    (h : available < a + b) : collapse available (rounds + 1) [a, b] =
      collapse available rounds [a - min (a + b - available) (a - b),
        b - min (a + b - available) (b - a)] := by
  rw [collapse]
  dsimp only
  rw [total_pair, if_neg (by omega)]
  rcases Nat.lt_or_gt_of_ne hab with hlt | hlt
  · have hmax : max a b = b := Nat.max_eq_right (Nat.le_of_lt hlt)
    have hpos : 0 < min (a + b - available) (b - a) := by omega
    have hzero : a - min (a + b - available) (a - b) = a := by omega
    simp [reduce, hmax, hab, hpos, hzero, share_one]
  · have hmax : max a b = a := Nat.max_eq_left (Nat.le_of_lt hlt)
    have hpos : 0 < min (a + b - available) (a - b) := by omega
    have hzero : b - min (a + b - available) (b - a) = b := by omega
    simp [reduce, hmax, hab.symm, hpos, hzero, share_one]

theorem collapse_pair (available rounds a b : Nat) :
    ∃ c d, collapse available (rounds + 2) [a, b] = [c, d] ∧ c + d ≤ available := by
  by_cases h : a + b ≤ available
  · exact ⟨a, b, collapse_of_le (total_pair a b ▸ h) _, h⟩
  · by_cases hab : a = b
    · exact hab ▸ collapse_same available (rounds + 1) a
    · rw [collapse_round _ hab (Nat.lt_of_not_le h)]
      generalize hc : a - min (a + b - available) (a - b) = c
      generalize hd : b - min (a + b - available) (b - a) = d
      -- Either one round was enough, or the columns are now as wide as each other.
      by_cases hcd : c + d ≤ available
      · exact ⟨c, d, collapse_of_le (total_pair c d ▸ hcd) _, hcd⟩
      · have hsame : c = d := by omega
        exact hsame ▸ collapse_same available rounds c

/-- Two columns fit the cells that are there for them. -/
theorem fitting_pair (available a b : Nat) :
    ∃ c d, fitting available [a, b] = [c, d] ∧ c + d ≤ available := by
  rw [fitting]
  split
  · next h => exact ⟨a, b, rfl, total_pair a b ▸ h⟩
  · obtain ⟨c, d, hcollapse, hle⟩ := collapse_pair available 1 a b
    have hrounds : [a, b].length + 1 = 1 + 2 := rfl
    rw [hrounds, hcollapse]
    refine ⟨c, d, ?_, hle⟩
    have hexcess : total [c, d] - available = 0 := Nat.sub_eq_zero_of_le (total_pair c d ▸ hle)
    dsimp only
    rw [hexcess]
    simp [reduce, share_zero]

end MetricFrames.Console.Widths
