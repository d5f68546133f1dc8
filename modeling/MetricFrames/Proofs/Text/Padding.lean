import MetricFrames.Proofs.Binary64.Written
import MetricFrames.Time.Reading
import MetricFrames.Time.Text

/-!
# Numbers of a fixed width

A number with zeros in front is as long as the width unless it has more digits (`length_padded`). It
is read back from that many characters (`readWidth?_padded`), and such texts have the order of their
numbers (`padded_lt_padded`).
-/

namespace MetricFrames

variable {s s' : List Char} {width n m : Nat}

theorem isDigits_padded (width n : Nat) : IsDigits (padded width n) :=
  isDigits_append.mpr ⟨isDigits_replicate_zero _, isDigits_toDigits n⟩

theorem length_padded (hwidth : 1 ≤ width) (h : n < 10 ^ width) :
    (padded width n).length = width := by
  have hle : (Nat.toDigits 10 n).length ≤ width :=
    (Nat.length_toDigits_le_iff (by decide) hwidth).mpr h
  unfold padded
  rw [List.length_append, List.length_replicate]
  omega

theorem digitsFrom_padded (width n : Nat) : Binary64.digitsFrom 0 (padded width n) = n := by
  unfold padded
  rw [Binary64.digitsFrom_append, Binary64.digitsFrom_replicate_zero, Nat.zero_mul,
    Binary64.digitsFrom_toDigits]

/-- A number with enough digits has no zeros in front. -/
theorem padded_zero_eq (width : Nat) (h : 10 ^ width ≤ n) : padded 0 n = padded (width + 1) n := by
  have hlong : width + 1 ≤ (Nat.toDigits 10 n).length := by
    rcases Nat.eq_zero_or_pos width with rfl | hwidth
    · exact Nat.length_toDigits_pos
    · by_contra hshort
      have hle : (Nat.toDigits 10 n).length ≤ width := by omega
      exact Nat.not_lt_of_ge h ((Nat.length_toDigits_le_iff (by decide) hwidth).mp hle)
  unfold padded
  dsimp only
  rw [Nat.zero_sub, Nat.sub_eq_zero_of_le hlong]

/-! ### Reading -/

theorem readWidth?_append (acc : Nat) (hs : IsDigits s) (t : List Char) :
    Timestamp.readWidth? s.length acc (s ++ t) = some (Binary64.digitsFrom acc s, t) := by
  induction s generalizing acc with
  | nil => rfl
  | cons c s ih =>
    obtain ⟨hc, hs⟩ := List.forall_mem_cons.mp hs
    rw [List.length_cons, List.cons_append, Timestamp.readWidth?, if_pos hc, ih _ hs]
    rfl

theorem readWidth?_padded (width : Nat) (hwidth : 1 ≤ width) (h : n < 10 ^ width) (t : List Char) :
    Timestamp.readWidth? width 0 (padded width n ++ t) = some (n, t) := by
  have hread := readWidth?_append 0 (isDigits_padded width n) t
  rwa [length_padded hwidth h, digitsFrom_padded] at hread

/-! ### The order -/

/-- The first difference of two texts of one length decides, whatever follows them. -/
theorem append_lt_append (h : s < s') (hlen : s.length = s'.length) (t t' : List Char) :
    s ++ t < s' ++ t' := by
  induction h with
  | nil => cases hlen
  | cons _ ih => exact .cons (ih (Nat.succ.inj hlen))
  | rel hlt => exact .rel hlt

theorem mul_le_digitsFrom (acc : Nat) (s : List Char) :
    acc * 10 ^ s.length ≤ Binary64.digitsFrom acc s := by
  induction s generalizing acc with
  | nil => simp [Binary64.digitsFrom]
  | cons c s ih =>
    have hstep : Binary64.digitsFrom acc (c :: s) =
        Binary64.digitsFrom (acc * 10 + (c.toNat - 48)) s := rfl
    rw [hstep, List.length_cons, Nat.pow_succ', ← Nat.mul_assoc]
    exact Nat.le_trans (Nat.mul_le_mul_right _ (Nat.le_add_right _ _)) (ih _)

theorem digitsFrom_lt_of_lt (acc : Nat) (h : s < s') (hlen : s.length = s'.length)
    (hs : IsDigits s) (hs' : IsDigits s') :
    Binary64.digitsFrom acc s < Binary64.digitsFrom acc s' := by
  induction h generalizing acc with
  | nil => cases hlen
  | cons _ ih =>
    exact ih _ (Nat.succ.inj hlen) (List.forall_mem_cons.mp hs).2 (List.forall_mem_cons.mp hs').2
  | @rel c s d s' hlt =>
    -- What follows the first difference counts for less than one in its place.
    obtain ⟨hc, hs⟩ := List.forall_mem_cons.mp hs
    have hdigit : 48 ≤ c.toNat ∧ c.toNat ≤ 57 := Char.isDigit_iff_toNat.mp hc
    have hcode : c.toNat < d.toNat := hlt
    calc Binary64.digitsFrom (acc * 10 + (c.toNat - 48)) s
        < (acc * 10 + (c.toNat - 48) + 1) * 10 ^ s.length := Binary64.digitsFrom_lt hs _
      _ ≤ (acc * 10 + (d.toNat - 48)) * 10 ^ s'.length := by
        rw [Nat.succ.inj hlen]
        exact Nat.mul_le_mul_right _ (by omega)
      _ ≤ Binary64.digitsFrom (acc * 10 + (d.toNat - 48)) s' := mul_le_digitsFrom _ _

theorem padded_lt_padded (hwidth : 1 ≤ width) (h : n < m) (hm : m < 10 ^ width) :
    padded width n < padded width m := by
  have hlen : (padded width m).length = (padded width n).length := by
    rw [length_padded hwidth hm, length_padded hwidth (Nat.lt_trans h hm)]
  by_contra hnot
  rcases List.le_iff_lt_or_eq.mp (List.not_lt.mp hnot) with hback | hsame
  · have hvalue := digitsFrom_lt_of_lt 0 hback hlen (isDigits_padded width m)
      (isDigits_padded width n)
    rw [digitsFrom_padded, digitsFrom_padded] at hvalue
    exact Nat.lt_asymm h hvalue
  · have hvalue := congrArg (Binary64.digitsFrom 0) hsame
    rw [digitsFrom_padded, digitsFrom_padded] at hvalue
    exact Nat.ne_of_gt h hvalue

theorem padded_append_lt (hwidth : 1 ≤ width) (h : n < m) (hm : m < 10 ^ width) (t t' : List Char) :
    padded width n ++ t < padded width m ++ t' := by
  have hlen : (padded width n).length = (padded width m).length := by
    rw [length_padded hwidth hm, length_padded hwidth (Nat.lt_trans h hm)]
  exact append_lt_append (padded_lt_padded hwidth h hm) hlen t t'

end MetricFrames
