import Mathlib.Data.List.Basic
import MetricFrames.Text.Blank
import MetricFrames.Text.Search

/-!
# The ends of a text

Trimming leaves a text alone whose ends are not of the class, and drops a character of the class
that follows. What is erased last is erased in the second of two texts, if it is there.
-/

namespace MetricFrames.Text

variable {p : Char → Bool} {s : List Char}

theorem dropWhile_eq_self (h : ∀ c, s.head? = some c → p c = false) : s.dropWhile p = s := by
  cases s with
  | nil => rfl
  | cons c s => rw [List.dropWhile_cons, if_neg (Bool.eq_false_iff.mp (h c rfl))]

theorem trimBy_eq_self (hfirst : ∀ c, s.head? = some c → p c = false)
    (hlast : ∀ c, s.getLast? = some c → p c = false) : trimBy p s = s := by
  have hback : s.reverse.dropWhile p = s.reverse := by
    refine dropWhile_eq_self fun c hc => hlast c ?_
    rwa [List.head?_reverse] at hc
  rw [trimBy, dropWhile_eq_self hfirst, hback, List.reverse_reverse]

theorem trimBy_concat {c : Char} (hs : s ≠ []) (hfirst : ∀ c, s.head? = some c → p c = false)
    (hc : p c = true) : trimBy p (s ++ [c]) = trimBy p s := by
  have hhead : ∀ d, (s ++ [c]).head? = some d → p d = false := by
    intro d hd
    rw [List.head?_append_of_ne_nil s hs] at hd
    exact hfirst d hd
  rw [trimBy, trimBy, dropWhile_eq_self hhead, dropWhile_eq_self hfirst, List.reverse_concat,
    List.dropWhile_cons, if_pos hc]

theorem length_trimBy_le (p : Char → Bool) (s : List Char) : (trimBy p s).length ≤ s.length := by
  have hfront := (List.dropWhile_suffix p (l := s)).length_le
  have hback := (List.dropWhile_suffix p (l := (s.dropWhile p).reverse)).length_le
  rw [trimBy, List.length_reverse]
  rw [List.length_reverse] at hback
  omega

theorem eraseLast_append {c : Char} {t : List Char} (h : c ∈ t) (s : List Char) :
    eraseLast c (s ++ t) = s ++ eraseLast c t := by
  rw [eraseLast, eraseLast, List.reverse_append, List.erase_append_left _ (List.mem_reverse.mpr h),
    List.reverse_append, List.reverse_reverse]

end MetricFrames.Text
