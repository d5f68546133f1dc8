import Mathlib.Data.List.Basic
import MetricFrames.Text.CellWidth

/-!
# Parts of a text on a terminal

The clusters of a text hold all of it (`flatMap_chars_clusters`), so a text that is cropped holds
nothing but parts of it and spaces (`mem_crop`). The start of a text takes no more cells than the
text (`cellWidth_le_append`).
-/

namespace MetricFrames.Text

variable {c : Char} {s t : List Char}

theorem cellWidthAfter_of_ne (h : c ≠ joiner) (last : Option Char) (s : List Char) :
    cellWidthAfter last (c :: s) =
      if c = selector then (if isWidened last then 1 else 0) + cellWidthAfter none s
      else if charWidth c = 0 then cellWidthAfter last s
      else charWidth c + cellWidthAfter (some c) s := by
  rw [cellWidthAfter.eq_def]
  exact if_neg h

theorem cellWidthAfter_le_append (last : Option Char) (s t : List Char) :
    cellWidthAfter last s ≤ cellWidthAfter last (s ++ t) := by
  induction last, s using cellWidthAfter.induct with
  | case1 last => exact Nat.zero_le _
  | case2 last => simp [cellWidthAfter]
  | case3 last d s ih => simpa [cellWidthAfter] using ih
  | case4 last s hjoiner ih =>
    rw [List.cons_append, cellWidthAfter_of_ne hjoiner, cellWidthAfter_of_ne hjoiner, if_pos rfl,
      if_pos rfl]
    omega
  | case5 last c s hjoiner hselector hzero ih =>
    rwa [List.cons_append, cellWidthAfter_of_ne hjoiner, cellWidthAfter_of_ne hjoiner,
      if_neg hselector, if_neg hselector, if_pos hzero, if_pos hzero]
  | case6 last c s hjoiner hselector hzero ih =>
    rw [List.cons_append, cellWidthAfter_of_ne hjoiner, cellWidthAfter_of_ne hjoiner,
      if_neg hselector, if_neg hselector, if_neg hzero, if_neg hzero]
    omega

/-- The start of a text takes no more cells than the text. -/
theorem cellWidth_le_append (s t : List Char) : cellWidth s ≤ cellWidth (s ++ t) :=
  cellWidthAfter_le_append none s t

namespace Clustering

/-- The characters that are read so far. -/
def chars (g : Clustering) : List Char := g.done.reverse.flatMap Cluster.chars

theorem chars_attach (g : Clustering) (cs : List Char) (width : Nat) :
    (g.attach cs width).chars = g.chars ++ cs := by
  rw [attach, chars, chars]
  split
  · next h => simp [h]
  · next h => simp [h]

theorem chars_read (g : Clustering) (s : List Char) : (g.read s).chars = g.chars ++ s := by
  induction g, s using read.induct with
  | case1 g => rw [read, List.append_nil]
  | case2 g c h =>
    rw [read.eq_def]
    dsimp only
    rw [if_pos h, chars_attach]
  | case3 g c h d s ih =>
    rw [read.eq_def]
    dsimp only
    rw [if_pos h, ih, chars_attach, List.append_assoc]
    rfl
  | case4 g c s h h' ih =>
    have hattach := chars_attach g [c] 1
    rw [read.eq_def]
    dsimp only
    rw [if_neg h, if_pos h', ih]
    exact (congrArg (· ++ s) hattach).trans (List.append_assoc _ _ _)
  | case5 g c s h h' h'' ih =>
    rw [read.eq_def]
    dsimp only
    rw [if_neg h, if_neg h', if_pos h'', ih, chars_attach, List.append_assoc]
    rfl
  | case6 g c s h h' h'' ih =>
    rw [read.eq_def]
    dsimp only
    rw [if_neg h, if_neg h', if_neg h'', ih]
    simp [chars]

end Clustering

theorem flatMap_chars_clusters (s : List Char) : (clusters s).flatMap Cluster.chars = s :=
  Clustering.chars_read {} s

theorem fitting_isPrefixOf (width : Nat) (ks : List Cluster) : crop.fitting width ks <+: ks := by
  induction ks generalizing width with
  | nil => exact List.prefix_refl []
  | cons k ks ih =>
    rw [crop.fitting]
    split
    · exact (List.prefix_cons_inj k).mpr (ih _)
    · exact List.nil_prefix

/-- A text that is cropped holds nothing but parts of it and spaces. -/
theorem mem_crop {width : Nat} (h : c ∈ crop width s) : c ∈ s ∨ c = ' ' := by
  rcases List.mem_append.mp h with h | h
  · obtain ⟨k, hk, hc⟩ := List.mem_flatMap.mp h
    refine .inl ?_
    rw [← flatMap_chars_clusters s]
    exact List.mem_flatMap.mpr ⟨k, (fitting_isPrefixOf width _).subset hk, hc⟩
  · exact .inr (List.eq_of_mem_replicate h)

end MetricFrames.Text
