import MetricFrames.Plan.Frames
import MetricFrames.Proofs.Frame.Histogram
import MetricFrames.Proofs.Plan.Building

/-!
# Frames of distributions

Distributions over time are expanded into one frame for each bucket, and each of their counts is a
row of exactly one frame (`bucketFrames_complete`).
-/

namespace MetricFrames.QueryPlan.FrameSource

open Histogram

theorem fields_bucketFrame (s : FrameSource) (labels : Members String) (b : Bucket) :
    ∃ times values, (s.bucketFrame labels b).fields = [times, values] ∧
      times.values = b.samples.map (fun sample => .time sample.time) ∧
      values.values = b.samples.map (fun sample => .float sample.value) ∧
      values.labels = some (labels.put "bucket" b.bound) := by
  rw [bucketFrame, Frame.fields_ofSamples]
  exact ⟨_, _, rfl, rfl, rfl, rfl⟩

/-- The frames of distributions are there if all bounds that they ask for can be computed, and are
then without holes: as many as the distributions reach to, with the counts at one position as the
rows of one frame, and with the bound of its position as its label if there is only one layout. -/
theorem bucketFrames_complete (s : FrameSource) (labels : Members String)
    (points : List (Timestamp × Distribution))
    (hbounds : ∀ i p, opener points i = some p → ∃ bound, p.2.bucketOptions.bound i = .ok bound) :
    ∃ frames, s.bucketFrames labels points = .ok frames ∧
      ((∀ i, ∀ p ∈ points, p.2.countAt i = none) → frames = []) ∧
      ∀ top, IsGreatest {i | ∃ p ∈ points, (p.2.countAt i).isSome} top →
        frames.length = top + 1 ∧
          ∀ i, i ≤ top → ∃ frame times values,
            frames[i]? = some frame ∧ frame.fields = [times, values] ∧
              times.values = (samplesAt points i).map (fun sample => .time sample.time) ∧
              values.values = (samplesAt points i).map (fun sample => .float sample.value) ∧
              ∀ layout : BucketOptions, (∀ p ∈ points, p.2.bucketOptions = layout) →
                ∃ all bound, values.labels = some all ∧ layout.bound i = .ok bound ∧
                  all.get? "bucket" = some bound := by
  rw [bucketFrames]
  rcases buckets_cases points with ⟨bs, hbs, hlen, hfits⟩ | ⟨f, -, i, p, hp, hf⟩
  · rw [hbs]
    refine ⟨_, rfl, fun hnone => ?_, fun top htop => ⟨?_, fun i hi => ?_⟩⟩
    · rw [width_eq_zero hnone] at hlen
      rw [List.eq_nil_of_length_eq_zero hlen]
      rfl
    · rw [List.length_map, hlen, width_eq_succ htop]
    · have hlt : i < bs.length := by
        rw [hlen, width_eq_succ htop]
        omega
      obtain ⟨⟨p, hp, hbound⟩, hsamples⟩ := hfits i bs[i] (List.getElem?_eq_getElem hlt)
      obtain ⟨times, values, hfields, htimes, hvalues, hlabels⟩ :=
        fields_bucketFrame s labels bs[i]
      rw [hsamples] at htimes hvalues
      refine ⟨_, times, values, ?_, hfields, htimes, hvalues, fun layout hlayout => ?_⟩
      · rw [List.getElem?_map, List.getElem?_eq_getElem hlt]
        rfl
      · rw [hlayout p (mem_of_opener hp)] at hbound
        refine ⟨_, bs[i].bound, hlabels, hbound, ?_⟩
        rw [Members.get?_put, if_pos rfl]
  · obtain ⟨bound, hb⟩ := hbounds i p hp
    rw [hf] at hb
    cases hb

/-- Distributions of one layout but of different lengths, whose counts are not all numbers. -/
def irregular : List (Timestamp × Distribution) :=
  let layout : BucketOptions := { linear := some { width := .ofInt 5, offset := .ofInt 10 } }
  [["x", "2"], ["1"], ["", "3", "x", "4"], ["5", "6", ""]].map fun counts =>
    (.unixStart none, { bucketOptions := layout, bucketCounts := counts })

theorem bucketFrames_complete_irregular :
    (∀ i p, opener irregular i = some p → ∃ bound, p.2.bucketOptions.bound i = .ok bound) ∧
      IsGreatest {i | ∃ p ∈ irregular, (p.2.countAt i).isSome} 3 ∧
      ∃ frames, (FrameSource.mk "A" {} "" "" "").bucketFrames [] irregular = .ok frames ∧
        frames.length = 4 := by
  have hwidth : width irregular = 4 := by decide +kernel
  have hbounds : ∀ i p, opener irregular i = some p →
      ∃ bound, p.2.bucketOptions.bound i = .ok bound := by
    intro i p hp
    have hi := lt_width_of_opener hp
    rw [hwidth] at hi
    have hall : ∀ p ∈ irregular, ∀ i : Nat, i < 4 →
        (p.2.bucketOptions.bound i).toBool = true := by
      decide +kernel
    have hok := hall p (mem_of_opener hp) i hi
    cases hb : p.2.bucketOptions.bound i with
    | ok bound => exact ⟨bound, rfl⟩
    | error f =>
      rw [hb] at hok
      cases hok
  have htop : IsGreatest {i | ∃ p ∈ irregular, (p.2.countAt i).isSome} 3 := by
    have hmem : ∃ p ∈ irregular, (p.2.countAt 3).isSome := by decide +kernel
    refine ⟨hmem, fun i ⟨p, hp, hi⟩ => ?_⟩
    have hlt := lt_width_iff.mpr ⟨p, hp, lt_reach_of_countAt hi⟩
    omega
  obtain ⟨frames, hframes, -, hrows⟩ :=
    bucketFrames_complete ⟨"A", {}, "", "", ""⟩ [] irregular hbounds
  exact ⟨hbounds, htop, frames, hframes, (hrows 3 htop).1⟩

end MetricFrames.QueryPlan.FrameSource
