import MetricFrames.Frame.Histogram
import Mathlib.Data.List.Basic
import Mathlib.Order.Bounds.Defs

/-!
# Histograms lose nothing

What a table of buckets should hold is said without the table: a list of distributions opens as many
buckets as it reaches to (`width`), the first distribution that reaches beyond a position opens the
bucket there (`opener`), and a bucket has the samples of all counts at its position (`samplesAt`).
Adding one distribution keeps a table complete in this sense, whatever lengths the distributions
have and wherever their counts are not numbers (`complete_add`), so the buckets are those of a
complete table, or a bound that was needed could not be computed (`buckets_cases`).
-/

namespace MetricFrames

/-- The count at a position, if there is one and it is a number. -/
def Distribution.countAt (d : Distribution) (i : Nat) : Option Binary64 := d.counts[i]?.join

namespace Histogram

/-! ### What distributions ask for -/

/-- One more than the last position with a count that is a number. -/
def reach : List (Option Binary64) → Nat
  | [] => 0
  | count :: counts => if reach counts = 0 ∧ count = none then 0 else reach counts + 1

theorem lt_reach_iff (counts : List (Option Binary64)) (i : Nat) :
    i < reach counts ↔ ∃ j, i ≤ j ∧ counts[j]?.join.isSome := by
  induction counts generalizing i with
  | nil => simp [reach]
  | cons count counts ih =>
    by_cases h : reach counts = 0 ∧ count = none
    · rw [reach, if_pos h]
      refine ⟨fun hi => absurd hi (Nat.not_lt_zero i), ?_⟩
      rintro ⟨j, -, hj⟩
      cases j with
      | zero => simp [h.2] at hj
      | succ j =>
        have hpos := (ih 0).mpr ⟨j, Nat.zero_le j, by simpa using hj⟩
        omega
    · rw [reach, if_neg h]
      constructor
      · intro hi
        cases i with
        | zero =>
          by_cases hr : reach counts = 0
          · cases count with
            | none => exact absurd ⟨hr, rfl⟩ h
            | some x => exact ⟨0, Nat.le_refl 0, rfl⟩
          · obtain ⟨j, -, hj⟩ := (ih 0).mp (Nat.pos_of_ne_zero hr)
            exact ⟨j + 1, Nat.zero_le _, by simpa using hj⟩
        | succ i =>
          obtain ⟨j, hij, hj⟩ := (ih i).mp (by omega)
          exact ⟨j + 1, by omega, by simpa using hj⟩
      · rintro ⟨j, hij, hj⟩
        cases j with
        | zero => omega
        | succ j =>
          have hpos := (ih (i - 1)).mpr ⟨j, by omega, by simpa using hj⟩
          omega

theorem lt_reach_of_countAt {d : Distribution} {i : Nat} (h : (d.countAt i).isSome) :
    i < reach d.counts := (lt_reach_iff _ _).mpr ⟨i, Nat.le_refl i, h⟩

variable {points : List (Timestamp × Distribution)} {p : Timestamp × Distribution} {i : Nat}

/-- How many buckets distributions open. -/
def width : List (Timestamp × Distribution) → Nat
  | [] => 0
  | p :: points => max (reach p.2.counts) (width points)

/-- The first distribution that reaches beyond a position. -/
def opener (points : List (Timestamp × Distribution)) (i : Nat) :
    Option (Timestamp × Distribution) :=
  points.find? fun p => i < reach p.2.counts

/-- The counts at a position that are numbers, over time. -/
def samplesAt (points : List (Timestamp × Distribution)) (i : Nat) : List Sample :=
  points.filterMap fun p => (p.2.countAt i).map (Sample.mk p.1)

theorem lt_width_iff : i < width points ↔ ∃ p ∈ points, i < reach p.2.counts := by
  induction points with
  | nil => simp [width]
  | cons p points ih =>
    rw [width, List.exists_mem_cons_iff, ← ih]
    omega

theorem width_concat : width (points ++ [p]) = max (width points) (reach p.2.counts) := by
  apply Nat.le_antisymm
  · refine Nat.le_of_not_lt fun h => ?_
    obtain ⟨q, hq, hr⟩ := lt_width_iff.mp h
    rcases List.mem_append.mp hq with hq | hq
    · exact absurd (lt_width_iff.mpr ⟨q, hq, hr⟩) (by omega)
    · rw [List.mem_singleton.mp hq] at hr
      omega
  · refine Nat.le_of_not_lt fun h => ?_
    have hi : width (points ++ [p]) < width points ∨ width (points ++ [p]) < reach p.2.counts := by
      omega
    rcases hi with h | h
    · obtain ⟨q, hq, hr⟩ := lt_width_iff.mp h
      exact absurd (lt_width_iff.mpr ⟨q, List.mem_append_left _ hq, hr⟩) (Nat.lt_irrefl _)
    · exact absurd (lt_width_iff.mpr ⟨p, by simp, h⟩) (Nat.lt_irrefl _)

theorem mem_of_opener (h : opener points i = some p) : p ∈ points := List.mem_of_find?_eq_some h

theorem lt_width_of_opener (h : opener points i = some p) : i < width points :=
  lt_width_iff.mpr ⟨p, mem_of_opener h, by simpa using List.find?_some h⟩

theorem opener_append {more : List (Timestamp × Distribution)}
    (h : opener points i = some p) : opener (points ++ more) i = some p := by
  rw [opener, List.find?_append, ← opener, h]
  rfl

theorem opener_concat (hw : width points ≤ i) (hr : i < reach p.2.counts) :
    opener (points ++ [p]) i = some p := by
  have hnone : opener points i = none := by
    refine List.find?_eq_none.mpr fun q hq hi => ?_
    exact absurd (lt_width_iff.mpr ⟨q, hq, by simpa using hi⟩) (by omega)
  rw [opener, List.find?_append, ← opener, hnone]
  simp [hr]

theorem samplesAt_concat : samplesAt (points ++ [p]) i =
    samplesAt points i ++ ((p.2.countAt i).map (Sample.mk p.1)).toList := by
  rw [samplesAt, List.filterMap_append, ← samplesAt]
  cases h : p.2.countAt i <;> simp [h]

theorem samplesAt_eq_nil (hw : width points ≤ i) : samplesAt points i = [] := by
  refine List.filterMap_eq_nil_iff.mpr fun q hq => ?_
  cases h : q.2.countAt i with
  | none => rfl
  | some x =>
    have hr := lt_reach_of_countAt (d := q.2) (i := i) (by rw [h]; rfl)
    exact absurd (lt_width_iff.mpr ⟨q, hq, hr⟩) (by omega)

/-! ### Tables -/

namespace Table

variable {t : Table} {isOpen : Nat → Prop} {fits fits' : Nat → Bucket → Prop}

theorem has_iff (t : Table) (i : Nat) : t.has i = true ↔ i ∈ t.map (·.1) := by
  simp only [has, List.any_eq_true, beq_iff_eq, List.mem_map]

/-- A table has one bucket at each position that is open, and it fits that position. -/
structure Holds (t : Table) (isOpen : Nat → Prop) (fits : Nat → Bucket → Prop) : Prop where
  nodup : (t.map (·.1)).Nodup
  mem_iff : ∀ i, i ∈ t.map (·.1) ↔ isOpen i
  fits : ∀ entry ∈ t, fits entry.1 entry.2

theorem Holds.congr (h : t.Holds isOpen fits) {isOpen' : Nat → Prop}
    (ho : ∀ k, isOpen k ↔ isOpen' k) (hf : ∀ k b, isOpen' k → fits k b → fits' k b) :
    t.Holds isOpen' fits' where
  nodup := h.nodup
  mem_iff k := (h.mem_iff k).trans (ho k)
  fits entry he := by
    have hk := (h.mem_iff entry.1).mp (List.mem_map_of_mem he)
    exact hf _ _ ((ho _).mp hk) (h.fits entry he)

/-- Opening a bucket: the table has it then, or its bound cannot be computed. -/
theorem Holds.ensured (h : t.Holds isOpen fits) (layout : BucketOptions) (i : Nat)
    (hf : ¬ isOpen i → ∀ bound, layout.bound i = .ok bound → fits i { bound := bound }) :
    (∃ t', t.ensured layout i = .ok t' ∧ t'.Holds (fun k => isOpen k ∨ k = i) fits) ∨
      ∃ f, t.ensured layout i = .error f ∧ ¬ isOpen i ∧ layout.bound i = .error f := by
  by_cases hi : isOpen i
  · have hhas : t.has i = true := (has_iff t i).mpr ((h.mem_iff i).mpr hi)
    refine .inl ⟨t, if_pos hhas, h.congr (fun k => ⟨.inl, ?_⟩) fun _ _ _ hb => hb⟩
    rintro (hk | rfl)
    · exact hk
    · exact hi
  · have hnot : i ∉ t.map (·.1) := fun hm => hi ((h.mem_iff i).mp hm)
    have hhas : ¬ t.has i = true := fun hm => hnot ((has_iff t i).mp hm)
    rw [Table.ensured, if_neg hhas, withBucket]
    cases hb : layout.bound i with
    | error f => exact .inr ⟨f, rfl, hi, rfl⟩
    | ok bound =>
      refine .inl ⟨_, rfl, ?_, fun k => ?_, fun entry he => ?_⟩
      · rw [List.map_append, List.nodup_append]
        refine ⟨h.nodup, by simp, fun a ha b hb' hab => hnot ?_⟩
        rw [List.map_cons, List.map_nil, List.mem_singleton] at hb'
        have hai : a = i := hab.trans hb'
        rw [← hai]
        exact ha
      · rw [List.map_append, List.mem_append, h.mem_iff]
        simp
      · rcases List.mem_append.mp he with he | he
        · exact h.fits entry he
        · rw [List.mem_singleton.mp he]
          exact hf hi bound hb

theorem map_fst_addSample (t : Table) (i : Nat) (sample : Sample) :
    (t.addSample i sample).map (·.1) = t.map (·.1) := by
  rw [addSample, List.map_map]
  refine List.map_congr_left fun entry _ => ?_
  by_cases h : entry.1 = i <;> simp [h]

theorem Holds.addSample (h : t.Holds isOpen fits) {sample : Sample}
    (hf : ∀ k b, fits k b →
      fits' k (if k = i then { b with samples := b.samples ++ [sample] } else b)) :
    (t.addSample i sample).Holds isOpen fits' where
  nodup := by
    rw [map_fst_addSample]
    exact h.nodup
  mem_iff k := by rw [map_fst_addSample, h.mem_iff]
  fits entry he := by
    obtain ⟨old, hold, rfl⟩ := List.mem_map.mp he
    have hfit := hf _ _ (h.fits old hold)
    by_cases hi : old.1 = i
    · simpa [hi] using hfit
    · simpa [hi] using hfit

/-- Sorting a table without holes gives its buckets by position. -/
theorem Holds.sorted {n : Nat} (h : t.Holds (· < n) fits) :
    t.sorted.length = n ∧ ∀ i b, t.sorted[i]? = some b → fits i b := by
  let entries := t.mergeSort fun a b => a.1 ≤ b.1
  -- The positions of the sorted table and `range n` are ordered and have the same members.
  have hperm : entries.Perm t := List.mergeSort_perm t _
  have hkeys : entries.map (·.1) = List.range n := by
    refine List.Perm.eq_of_pairwise (fun a b _ _ => Nat.le_antisymm) ?_ ?_ ?_
    · refine List.pairwise_map.mpr ?_
      have hs : entries.Pairwise fun a b => decide (a.1 ≤ b.1) = true :=
        List.pairwise_mergeSort ?_ ?_ t
      · exact hs.imp fun hab => by simpa using hab
      · intro a b c hab hbc
        simp only [decide_eq_true_eq] at *
        omega
      · intro a b
        simp only [Bool.or_eq_true, decide_eq_true_eq]
        omega
    · exact List.pairwise_le_range
    · refine (hperm.map _).trans ((List.perm_ext_iff_of_nodup h.nodup List.nodup_range).mpr ?_)
      exact fun k => (h.mem_iff k).trans List.mem_range.symm
  have hlen : entries.length = n := by
    rw [← List.length_map (·.1), hkeys, List.length_range]
  refine ⟨by rw [Table.sorted, List.length_map, hlen], fun i b hb => ?_⟩
  rw [Table.sorted, List.getElem?_map, Option.map_eq_some_iff] at hb
  obtain ⟨entry, he, rfl⟩ := hb
  have hi : entry.1 = i := by
    have hk : (List.range n)[i]? = some entry.1 := by
      rw [← hkeys, List.getElem?_map, he]
      rfl
    obtain ⟨_, hk⟩ := List.getElem?_eq_some_iff.mp hk
    exact hk.symm.trans (List.getElem_range _)
  rw [← hi]
  exact h.fits entry (hperm.mem_iff.mp (List.mem_of_getElem? he))

end Table

/-! ### One distribution -/

/-- What a bucket at a position should be: bounded by the layout of its opener, with the samples of
all counts at its position. -/
def Fits (points : List (Timestamp × Distribution)) (i : Nat) (b : Bucket) : Prop :=
  (∃ p, opener points i = some p ∧ p.2.bucketOptions.bound i = .ok b.bound) ∧
    b.samples = samplesAt points i

/-- A table with all that distributions ask for, and nothing else. -/
def Complete (points : List (Timestamp × Distribution)) (t : Table) : Prop :=
  t.Holds (· < width points) (Fits points)

/-- A bound that distributions ask for but that cannot be computed. -/
def Unbounded (points : List (Timestamp × Distribution)) (f : Fault) : Prop :=
  ∃ i p, opener points i = some p ∧ p.2.bucketOptions.bound i = .error f

/-- The samples at a position when the counts of one more distribution were added up to `j`. -/
def samplesUpTo (points : List (Timestamp × Distribution)) (p : Timestamp × Distribution)
    (j i : Nat) : List Sample :=
  samplesAt points i ++ (if i < j then (p.2.countAt i).map (Sample.mk p.1) else none).toList

/-- The state of a table while a distribution is added, before the count at `j`: which buckets there
are, what they hold, and which is the highest one that was opened. -/
structure Progress (points : List (Timestamp × Distribution)) (p : Timestamp × Distribution)
    (j : Nat) (c : Counting) : Prop where
  table : c.table.Holds (fun i => i < width points ∨ i < j ∧ (p.2.countAt i).isSome) fun i b =>
    (∃ q, opener (points ++ [p]) i = some q ∧ q.2.bucketOptions.bound i = .ok b.bound) ∧
      b.samples = samplesUpTo points p j i
  le_top : ∀ i, i < j → (p.2.countAt i).isSome → width points ≤ i → i ≤ c.top
  top : c.top = 0 ∨ width points ≤ c.top ∧ c.top < j ∧ (p.2.countAt c.top).isSome

theorem Progress.start {t : Table} (h : Complete points t) (p : Timestamp × Distribution) :
    Progress points p 0 { table := t } where
  table := by
    refine Table.Holds.congr h (fun k => by simp) fun k b _ hb => ?_
    obtain ⟨⟨q, hq, hbound⟩, hs⟩ := hb
    exact ⟨⟨q, opener_append hq, hbound⟩, by simpa [samplesUpTo] using hs⟩
  le_top := fun i hi => absurd hi (Nat.not_lt_zero i)
  top := .inl rfl

/-- A count that is not a number is passed over. -/
theorem Progress.skip {j : Nat} {c : Counting} (h : Progress points p j c)
    (hj : p.2.countAt j = none) : Progress points p (j + 1) c where
  table := by
    have hlt : ∀ k, (p.2.countAt k).isSome → (k < j + 1 ↔ k < j) := by
      intro k hk
      have hne : k ≠ j := by
        rintro rfl
        rw [hj] at hk
        cases hk
      omega
    refine h.table.congr (fun k => ?_) fun k b _ hb => ⟨hb.1, hb.2.trans ?_⟩
    · refine or_congr_right ⟨fun hk => ?_, fun hk => ?_⟩
      · exact ⟨(hlt k hk.2).mpr hk.1, hk.2⟩
      · exact ⟨(hlt k hk.2).mp hk.1, hk.2⟩
    · rw [samplesUpTo, samplesUpTo]
      cases hk : p.2.countAt k with
      | none => simp
      | some x => simp [hlt k (by rw [hk]; rfl)]
  le_top i hi hs hw := by
    refine h.le_top i ?_ hs hw
    have hne : i ≠ j := by
      rintro rfl
      rw [hj] at hs
      cases hs
    omega
  top := h.top.imp_right fun ⟨hw, hlt, hs⟩ => ⟨hw, by omega, hs⟩

theorem samplesUpTo_succ_of_ne {j i : Nat} (h : i ≠ j) :
    samplesUpTo points p (j + 1) i = samplesUpTo points p j i := by
  have hlt : i < j + 1 ↔ i < j := by omega
  simp only [samplesUpTo, hlt]

theorem samplesUpTo_succ_self {j : Nat} {x : Binary64} (hj : p.2.countAt j = some x) :
    samplesUpTo points p (j + 1) j = samplesUpTo points p j j ++ [⟨p.1, x⟩] := by
  simp [samplesUpTo, hj]

/-- Opening the bucket of a count that is a number. -/
theorem Progress.ensured {j : Nat} {c : Counting} (h : Progress points p j c)
    (hj : (p.2.countAt j).isSome) :
    (∃ t, c.table.ensured p.2.bucketOptions j = .ok t ∧
      t.Holds (fun i => i < width points ∨ i < j + 1 ∧ (p.2.countAt i).isSome) fun i b =>
        (∃ q, opener (points ++ [p]) i = some q ∧ q.2.bucketOptions.bound i = .ok b.bound) ∧
          b.samples = samplesUpTo points p j i) ∨
      ∃ f, c.table.ensured p.2.bucketOptions j = .error f ∧ Unbounded (points ++ [p]) f := by
  have hopener : ¬ (j < width points ∨ j < j ∧ (p.2.countAt j).isSome) →
      opener (points ++ [p]) j = some p := fun hclosed =>
    opener_concat (by omega) (lt_reach_of_countAt hj)
  have hempty : ¬ (j < width points ∨ j < j ∧ (p.2.countAt j).isSome) →
      [] = samplesUpTo points p j j := by
    intro hclosed
    rw [samplesUpTo, samplesAt_eq_nil (by omega), if_neg (Nat.lt_irrefl j)]
    rfl
  have hensured := h.table.ensured p.2.bucketOptions j fun hclosed bound hb =>
    ⟨⟨p, hopener hclosed, hb⟩, hempty hclosed⟩
  rcases hensured with ⟨t, ht, hholds⟩ | ⟨f, hf, hclosed, hb⟩
  · refine .inl ⟨t, ht, hholds.congr (fun k => ?_) fun _ _ _ hb => hb⟩
    by_cases hk : k = j
    · subst hk
      exact ⟨fun _ => .inr ⟨Nat.lt_succ_self k, hj⟩, fun _ => .inr rfl⟩
    · have hlt : k < j + 1 ↔ k < j := by omega
      simp only [hk, or_false, hlt]
  · exact .inr ⟨f, hf, j, p, hopener hclosed, hb⟩

/-- The count at `j` raises the highest position to `j` if it opens its bucket. -/
theorem Progress.top_eq {j : Nat} {c : Counting} (h : Progress points p j c) :
    (if c.table.has j then c.top else max c.top j) = if j < width points then c.top else j := by
  have hhas := (Table.has_iff c.table j).trans (h.table.mem_iff j)
  have htop := h.top
  by_cases hj : j < width points
  · rw [if_pos hj, if_pos (hhas.mpr (.inl hj))]
  · have hopen : ¬ c.table.has j = true := by
      rw [hhas]
      omega
    rw [if_neg hj, if_neg hopen]
    omega

/-- A count that is a number opens its bucket, and its sample is added there, or the bound of the
bucket cannot be computed. -/
theorem Progress.step {j : Nat} {c : Counting} {x : Binary64} (h : Progress points p j c)
    (hj : p.2.countAt j = some x) :
    (∃ c', c.addCount p.2.bucketOptions j ⟨p.1, x⟩ = .ok c' ∧ Progress points p (j + 1) c') ∨
      ∃ f, c.addCount p.2.bucketOptions j ⟨p.1, x⟩ = .error f ∧ Unbounded (points ++ [p]) f := by
  have hsome : (p.2.countAt j).isSome := by rw [hj]; rfl
  -- Whether the top rises is decided by the table from before the count.
  rw [Counting.addCount, h.top_eq]
  rcases h.ensured hsome with ⟨t, ht, hholds⟩ | ⟨f, hf, hbound⟩
  · rw [ht]
    refine .inl ⟨⟨t.addSample j ⟨p.1, x⟩, if j < width points then c.top else j⟩, rfl, ?_,
      fun i hi hs hw => ?_, ?_⟩
    · refine hholds.addSample fun k b hb => ?_
      by_cases hk : k = j
      · subst hk
        rw [if_pos rfl, samplesUpTo_succ_self hj, ← hb.2]
        exact ⟨hb.1, rfl⟩
      · rw [if_neg hk, samplesUpTo_succ_of_ne hk]
        exact hb
    · split
      · exact h.le_top i (by omega) hs hw
      · exact Nat.le_of_lt_succ hi
    · split
      · exact h.top.imp_right fun ⟨hw, hlt, hs⟩ => ⟨hw, by omega, hs⟩
      · exact .inr ⟨Nat.le_of_not_lt (by assumption), Nat.lt_succ_self j, hsome⟩
  · rw [hf]
    exact .inr ⟨f, rfl, hbound⟩

/-- All counts of a distribution. -/
theorem Progress.run {counts : List (Option Binary64)} {j : Nat} {c : Counting}
    (h : Progress points p j c) (hcounts : p.2.counts.drop j = counts) :
    (∃ c', Counting.addCounts p.1 p.2.bucketOptions j counts c = .ok c' ∧
      Progress points p (j + counts.length) c') ∨
      ∃ f, Counting.addCounts p.1 p.2.bucketOptions j counts c = .error f ∧
        Unbounded (points ++ [p]) f := by
  -- On the counts that are left; `hcounts` says where among all counts they stand.
  induction counts generalizing j c with
  | nil => exact .inl ⟨c, rfl, h⟩
  | cons count counts ih =>
    have hj : p.2.countAt j = count := by
      have hhead : (p.2.counts.drop j)[0]? = some count := by rw [hcounts]; rfl
      rw [List.getElem?_drop, Nat.add_zero] at hhead
      rw [Distribution.countAt, hhead]
      rfl
    have hdrop : p.2.counts.drop (j + 1) = counts := by
      rw [← List.drop_drop, hcounts]
      rfl
    have hlen : j + (count :: counts).length = j + 1 + counts.length := by
      rw [List.length_cons]
      omega
    rw [hlen]
    cases count with
    | none => exact ih (h.skip hj) hdrop
    | some x =>
      rw [Counting.addCounts]
      rcases h.step hj with ⟨c', hc', hstep⟩ | ⟨f, hf, hbound⟩
      · rw [hc']
        exact ih hstep hdrop
      · rw [hf]
        exact .inr ⟨f, rfl, hbound⟩

/-- Closing the gaps below a position opens the buckets that are missing there. -/
theorem Table.Holds.closeGaps {t : Table} {isOpen : Nat → Prop} {fits : Nat → Bucket → Prop}
    (h : t.Holds isOpen fits) (layout : BucketOptions) (n : Nat)
    (hf : ∀ i, i < n → ¬ isOpen i → ∀ bound, layout.bound i = .ok bound →
      fits i { bound := bound }) :
    (∃ t', t.closeGaps layout n = .ok t' ∧ t'.Holds (fun k => isOpen k ∨ k < n) fits) ∨
      ∃ f i, t.closeGaps layout n = .error f ∧ i < n ∧ ¬ isOpen i ∧
        layout.bound i = .error f := by
  induction n with
  | zero => exact .inl ⟨t, rfl, h.congr (fun k => by simp) fun _ _ _ hb => hb⟩
  | succ n ih =>
    have hsplit : t.closeGaps layout (n + 1) =
        (t.closeGaps layout n).bind fun t => t.ensured layout n := by
      rw [Table.closeGaps, List.range_succ, List.foldlM_append]
      simp only [List.foldlM_cons, List.foldlM_nil, bind_pure]
      rfl
    rw [hsplit]
    rcases ih (fun i hi => hf i (by omega)) with ⟨t', ht, hholds⟩ | ⟨f, i, ht, hi, hclosed, hb⟩
    · rw [ht]
      have hstep := hholds.ensured layout n fun hclosed =>
        hf n (Nat.lt_succ_self n) fun hopen => hclosed (.inl hopen)
      rcases hstep with ⟨t'', ht', hholds'⟩ | ⟨f, ht', hclosed, hb⟩
      · refine .inl ⟨t'', ht', hholds'.congr (fun k => ?_) fun _ _ _ hb => hb⟩
        rw [or_assoc]
        exact or_congr_right (by omega)
      · exact .inr ⟨f, n, ht', Nat.lt_succ_self n, fun hopen => hclosed (.inl hopen), hb⟩
    · rw [ht]
      exact .inr ⟨f, i, rfl, by omega, hclosed, hb⟩

theorem lt_length_of_countAt {d : Distribution} (h : (d.countAt i).isSome) :
    i < d.counts.length := by
  refine Nat.lt_of_not_le fun hle => ?_
  rw [Distribution.countAt, List.getElem?_eq_none hle] at h
  cases h

theorem samplesUpTo_length :
    samplesUpTo points p p.2.counts.length i = samplesAt (points ++ [p]) i := by
  rw [samplesUpTo, samplesAt_concat]
  cases h : p.2.countAt i with
  | none => simp
  | some x => rw [if_pos (lt_length_of_countAt (by rw [h]; rfl))]

/-- All buckets that a distribution reaches are open once the gaps below its top are closed. -/
theorem Progress.reached {c : Counting} (h : Progress points p p.2.counts.length c) (k : Nat) :
    ((k < width points ∨ k < p.2.counts.length ∧ (p.2.countAt k).isSome) ∨ k < c.top) ↔
      k < width (points ++ [p]) := by
  rw [width_concat]
  constructor
  · rintro ((hk | ⟨-, hk⟩) | hk)
    · omega
    · have := lt_reach_of_countAt hk
      omega
    · rcases h.top with htop | ⟨-, -, hs⟩
      · omega
      · have := lt_reach_of_countAt hs
        omega
  · intro hk
    by_cases hw : k < width points
    · exact .inl (.inl hw)
    -- A count at `j` beyond `k` opened its bucket, so that the top is at least `j`.
    · obtain ⟨j, hkj, hs⟩ := (lt_reach_iff p.2.counts k).mp (by omega)
      have hlt := lt_length_of_countAt hs
      have htop := h.le_top j hlt hs (by omega)
      rcases Nat.lt_or_eq_of_le hkj with hkj | rfl
      · exact .inr (by omega)
      · exact .inl (.inr ⟨hlt, hs⟩)

/-- Closing the gaps completes a table to which all counts of a distribution were added. -/
theorem Progress.finish {c : Counting} (h : Progress points p p.2.counts.length c) :
    (∃ t, c.table.closeGaps p.2.bucketOptions c.top = .ok t ∧ Complete (points ++ [p]) t) ∨
      ∃ f, c.table.closeGaps p.2.bucketOptions c.top = .error f ∧
        Unbounded (points ++ [p]) f := by
  have hopener : ∀ i, i < c.top →
      ¬ (i < width points ∨ i < p.2.counts.length ∧ (p.2.countAt i).isSome) →
      opener (points ++ [p]) i = some p := by
    intro i hi hclosed
    have hw := (h.reached i).mp (.inr hi)
    rw [width_concat] at hw
    exact opener_concat (by omega) (by omega)
  -- A bucket that fills a gap has no samples at all, also none of the distribution just added.
  have hempty : ∀ i, ¬ (i < width points ∨ i < p.2.counts.length ∧ (p.2.countAt i).isSome) →
      samplesUpTo points p p.2.counts.length i = [] := by
    intro i hclosed
    rw [samplesUpTo, samplesAt_eq_nil (by omega)]
    split
    · have hnone : p.2.countAt i = none := by
        rw [← Option.not_isSome_iff_eq_none]
        exact fun hs => hclosed (.inr ⟨by assumption, hs⟩)
      rw [hnone]
      rfl
    · rfl
  have hgaps := h.table.closeGaps p.2.bucketOptions c.top
    fun i hi hclosed bound hb => ⟨⟨p, hopener i hi hclosed, hb⟩, (hempty i hclosed).symm⟩
  rcases hgaps with ⟨t, ht, hholds⟩ | ⟨f, i, ht, hi, hclosed, hb⟩
  · refine .inl ⟨t, ht, hholds.congr h.reached fun k b _ hb => ⟨hb.1, ?_⟩⟩
    rw [hb.2, samplesUpTo_length]
  · exact .inr ⟨f, ht, i, p, hopener i hi hclosed, hb⟩

/-! ### All distributions -/

theorem complete_nil : Complete [] [] where
  nodup := List.nodup_nil
  mem_iff i := by simp [width]
  fits entry he := absurd he List.not_mem_nil

theorem Unbounded.append {f : Fault} (h : Unbounded points f)
    (more : List (Timestamp × Distribution)) : Unbounded (points ++ more) f := by
  obtain ⟨i, p, hp, hf⟩ := h
  exact ⟨i, p, opener_append hp, hf⟩

/-- Adding a distribution keeps a table complete, or a bound that it needs cannot be computed. -/
theorem complete_add {t : Table} (h : Complete points t) (p : Timestamp × Distribution) :
    (∃ t', add t p.1 p.2 = .ok t' ∧ Complete (points ++ [p]) t') ∨
      ∃ f, add t p.1 p.2 = .error f ∧ Unbounded (points ++ [p]) f := by
  rw [add]
  rcases (Progress.start h p).run (List.drop_zero) with ⟨c, hc, hrun⟩ | ⟨f, hf, hbound⟩
  · rw [hc]
    rw [Nat.zero_add] at hrun
    exact hrun.finish
  · rw [hf]
    exact .inr ⟨f, rfl, hbound⟩

theorem complete_run {t : Table} (h : Complete points t)
    (more : List (Timestamp × Distribution)) :
    (∃ t', more.foldlM (fun t point => add t point.1 point.2) t = .ok t' ∧
      Complete (points ++ more) t') ∨
      ∃ f, more.foldlM (fun t point => add t point.1 point.2) t = .error f ∧
        Unbounded (points ++ more) f := by
  induction more generalizing points t with
  | nil =>
    rw [List.append_nil]
    exact .inl ⟨t, rfl, h⟩
  | cons p more ih =>
    rw [List.foldlM_cons, List.append_cons]
    rcases complete_add h p with ⟨t', ht, hstep⟩ | ⟨f, hf, hbound⟩
    · rw [ht]
      exact ih hstep
    · rw [hf]
      exact .inr ⟨f, rfl, hbound.append more⟩

/-- The buckets of distributions are those that they ask for, unless a bound that they ask for
cannot be computed. -/
theorem buckets_cases (points : List (Timestamp × Distribution)) :
    (∃ bs, buckets points = .ok bs ∧ bs.length = width points ∧
      ∀ i b, bs[i]? = some b → Fits points i b) ∨
      ∃ f, buckets points = .error f ∧ Unbounded points f := by
  rw [buckets]
  rcases complete_run complete_nil points with ⟨t, ht, hrun⟩ | ⟨f, hf, hbound⟩
  · rw [ht]
    exact .inl ⟨t.sorted, rfl, Table.Holds.sorted hrun⟩
  · rw [hf]
    exact .inr ⟨f, rfl, hbound⟩

theorem width_eq_zero (h : ∀ i, ∀ p ∈ points, p.2.countAt i = none) : width points = 0 := by
  refine Nat.eq_zero_of_not_pos fun hpos => ?_
  obtain ⟨p, hp, hr⟩ := lt_width_iff.mp hpos
  obtain ⟨j, -, hj⟩ := (lt_reach_iff p.2.counts 0).mp hr
  rw [← Distribution.countAt, h j p hp] at hj
  cases hj

theorem width_eq_succ {top : Nat}
    (h : IsGreatest {i | ∃ p ∈ points, (p.2.countAt i).isSome} top) : width points = top + 1 := by
  obtain ⟨⟨p, hp, hs⟩, hub⟩ := h
  apply Nat.le_antisymm
  · refine Nat.le_of_not_lt fun hlt => ?_
    obtain ⟨q, hq, hr⟩ := lt_width_iff.mp hlt
    obtain ⟨j, hj, hjs⟩ := (lt_reach_iff q.2.counts (top + 1)).mp hr
    have hle : j ≤ top := hub ⟨q, hq, hjs⟩
    omega
  · exact lt_width_iff.mpr ⟨p, hp, lt_reach_of_countAt hs⟩

end Histogram
end MetricFrames
