import MetricFrames.Proofs.Data.Stepwise
import MetricFrames.Proofs.Frame.Histogram
import MetricFrames.Plan.Frames

/-!
# Faults of reading

Reading an answer fails for one of two reasons only: the answer is not readable as what it should
be, which counts against the query, or the bound of a bucket is out of range (`sound_readParts`).
-/

namespace MetricFrames

/-! ### Faults of bounds -/

/-- The faults of a bound: a number that is none, or one that is out of range. -/
def Fault.OfBound (f : Fault) : Prop := f = .nanToInteger ∨ f.category = .overflow

namespace Binary64

variable {x : Binary64} {n m : Int} {f : Fault}

theorem ofBound_toInteger (h : x.toInteger = .error f) : f.OfBound := by
  cases x with
  | nan =>
    cases h
    exact .inl rfl
  | infinite negative =>
    cases h
    exact .inr rfl
  | finite negative units fits => cases h

theorem eq_of_inRange {tooLarge : Fault} {y : Binary64} (h : x.inRange tooLarge = .ok y) :
    y = x := by
  cases x with
  | nan =>
    cases h
    rfl
  | infinite negative => cases h
  | finite negative units fits =>
    cases h
    rfl

theorem ofBound_inRange {tooLarge : Fault} (ht : tooLarge.category = .overflow)
    (h : x.inRange tooLarge = .error f) : f.OfBound := by
  cases x with
  | nan => cases h
  | infinite negative =>
    cases h
    exact .inr ht
  | finite negative units fits => cases h

/-- The sign of a number that was read from a natural one. -/
theorem ofInt_nonneg (hn : 0 ≤ n) (h : (ofInt n).toInteger = .ok m) : 0 ≤ m := by
  have hsign : decide (n < 0) = false := decide_eq_false (by omega)
  rw [ofInt, ofRatio, ofUnits, dif_pos Nat.one_pos, hsign] at h
  split at h
  · cases h
    exact Int.natCast_nonneg _
  · cases h

theorem ofBound_pow (hn : 0 ≤ n) (h : x.pow n = .error f) : f.OfBound := by
  rcases cases_of_bind_eq_error h with h | ⟨exponent, he, h⟩
  · rcases cases_of_bind_eq_error h with h | ⟨y, -, h⟩
    · exact ofBound_inRange rfl h
    · exact ofBound_toInteger h
  · obtain ⟨y, hy, he⟩ := exists_of_bind_eq_ok he
    rw [eq_of_inRange hy] at he
    -- The exponent is not negative either, so zero is never raised to a negative power.
    have hpos := ofInt_nonneg hn he
    dsimp only at h
    split at h
    · cases h
    · cases x with
      | nan => cases h
      | infinite negative => cases h
      | finite negative units fits =>
        dsimp only at h
        rw [if_neg (Int.not_lt.mpr hpos)] at h
        split at h
        · cases h
        · exact ofBound_inRange rfl h

end Binary64

theorem LinearBuckets.ofBound_bound {b : LinearBuckets} {n : Int} {f : Fault}
    (h : b.bound n = .error f) : f.OfBound := by
  rcases cases_of_bind_eq_error h with h | ⟨offset, -, h⟩
  · exact Binary64.ofBound_toInteger h
  · rcases cases_of_bind_eq_error h with h | ⟨width, -, h⟩
    · exact Binary64.ofBound_toInteger h
    · cases h

theorem ExponentialBuckets.ofBound_bound {b : ExponentialBuckets} {n : Int} (hn : 1 ≤ n)
    {f : Fault} (h : b.bound n = .error f) : f.OfBound := by
  rcases cases_of_bind_eq_error h with h | ⟨power, -, h⟩
  · exact Binary64.ofBound_pow (by omega) h
  · rcases cases_of_bind_eq_error h with h | ⟨bound, -, h⟩
    · exact Binary64.ofBound_toInteger h
    · cases h

/-- A position within a list always has an item. -/
theorem ExplicitBuckets.bound_ok (b : ExplicitBuckets) (i : Nat) :
    ∃ bound, b.bound i = .ok bound := by
  rw [ExplicitBuckets.bound]
  split
  case isTrue h =>
    have hlt : i < b.bounds.length := by omega
    have hneg : ¬ (i : Int) < 0 := by omega
    rw [atPosition, if_neg hneg, Int.toNat_natCast, List.getElem?_eq_getElem hlt]
    exact ⟨_, rfl⟩
  case isFalse h => exact ⟨_, rfl⟩

theorem BucketOptions.ofBound_bound {o : BucketOptions} {i : Nat} {f : Fault}
    (h : o.bound i = .error f) : f.OfBound := by
  rw [BucketOptions.bound] at h
  split at h
  case isTrue hi => cases h
  case isFalse hi =>
    split at h
    · exact LinearBuckets.ofBound_bound h
    · exact ExponentialBuckets.ofBound_bound (by omega) h
    · obtain ⟨bound, hb⟩ := ExplicitBuckets.bound_ok _ i
      rw [hb] at h
      cases h
    · cases h

/-! ### Faults of readings -/

/-- The faults of reading: the answer is not readable, or a number is out of range. -/
def Fault.OfReading (f : Fault) : Prop := f.isUnreadable = true ∨ f.category = .overflow

theorem Fault.OfBound.ofReading {f : Fault} (h : f.OfBound) : f.OfReading := by
  rcases h with rfl | h
  · exact .inl rfl
  · exact .inr h

namespace Reading

/-- Whether a reading, if a fault ended it, was ended by a fault of reading. -/
def Sound (r : Reading) : Prop := ∀ f, r.fault = some f → f.OfReading

theorem sound_ofLabels (labels : List (String × String)) : (ofLabels labels).Sound := by
  intro f h
  cases h

theorem Sound.andThen {a b : Reading} (ha : a.Sound) (hb : b.Sound) : (a.andThen b).Sound := by
  intro f h
  rw [Reading.andThen] at h
  cases hfault : a.fault with
  | some g =>
    rw [hfault] at h
    exact ha f h
  | none =>
    rw [hfault] at h
    exact hb f h

theorem sound_all {parts : List Reading} (h : ∀ r ∈ parts, r.Sound) : (all parts).Sound := by
  induction parts with
  | nil =>
    intro f hf
    cases hf
  | cons r parts ih =>
    exact (h r List.mem_cons_self).andThen (ih fun r hr => h r (List.mem_cons_of_mem _ hr))

theorem sound_ofFrames {frames : Except Fault (List Frame)}
    (h : ∀ f, frames = .error f → f.OfReading) : (ofFrames frames).Sound := by
  cases frames with
  | ok frames =>
    intro f hf
    cases hf
  | error g =>
    intro f hf
    cases hf
    exact h g rfl

end Reading

namespace QueryPlan

/-- The buckets of distributions fail with a bound that the distributions ask for. -/
theorem ofReading_bucketFrames {s : FrameSource} {labels : Members String}
    {points : List (Timestamp × Distribution)} {f : Fault}
    (h : s.bucketFrames labels points = .error f) : f.OfReading := by
  have hbuckets := eq_error_of_map_eq_error h
  rcases Histogram.buckets_cases points with ⟨bs, hbs, -⟩ | ⟨g, hg, i, p, -, hbound⟩
  · rw [hbs] at hbuckets
    cases hbuckets
  · rw [hg] at hbuckets
    cases hbuckets
    exact (BucketOptions.ofBound_bound hbound).ofReading

theorem ofReading_itemAt {α : Type} {items : List α} {n : Nat} {f : Fault}
    (h : itemAt items n = .error f) : f.OfReading := by
  rw [itemAt] at h
  split at h
  · cases h
  · cases h
    exact .inl rfl

theorem sound_readSeries (p : QueryPlan) (executed : String) (x : Series) :
    (p.readSeries executed x).Sound := by
  refine (Reading.sound_ofLabels _).andThen (Reading.sound_ofFrames fun f h => ?_)
  split at h
  · exact ofReading_bucketFrames h
  · cases h

theorem sound_readColumn (p : QueryPlan) (executed : String) (labels : Members String)
    (row : TableRow) (d : PointDescriptor) (n : Nat) :
    (p.readColumn executed labels row d n).Sound := by
  refine (Reading.sound_ofLabels _).andThen (Reading.sound_ofFrames fun f h => ?_)
  rcases cases_of_bind_eq_error h with h | ⟨values, -, h⟩
  · obtain ⟨point, -, h⟩ := exists_of_mapM_eq_error h
    exact ofReading_itemAt (eq_error_of_map_eq_error h)
  · dsimp only at h
    split at h
    · exact ofReading_bucketFrames h
    · cases h

theorem sound_readRow (p : QueryPlan) (executed : String) (t : TableDescriptor) (row : TableRow) :
    (p.readRow executed t row).Sound := by
  rw [readRow]
  cases hlabels : rowLabels t row with
  | error g =>
    intro f hf
    cases hf
    obtain ⟨d, -, h⟩ := exists_of_mapM_eq_error hlabels
    exact ofReading_itemAt (eq_error_of_map_eq_error h)
  | ok labels =>
    refine (Reading.sound_ofLabels _).andThen (Reading.sound_all fun r hr => ?_)
    obtain ⟨d, -, rfl⟩ := List.mem_map.mp hr
    exact sound_readColumn p executed (byName labels) row d.1 d.2

/-- Reading an answer fails because it is not readable or because a bound is out of range. -/
theorem sound_readParts (p : QueryPlan) (executed : String) (answer : QueryAnswer) :
    (p.readParts executed answer).Sound := by
  cases answer with
  | series page =>
    refine Reading.sound_all fun r hr => ?_
    obtain ⟨x, -, rfl⟩ := List.mem_map.mp hr
    exact sound_readSeries p executed x
  | table page =>
    refine Reading.sound_all fun r hr => ?_
    obtain ⟨row, -, rfl⟩ := List.mem_map.mp hr
    exact sound_readRow p executed page.descriptor row

end QueryPlan
end MetricFrames
