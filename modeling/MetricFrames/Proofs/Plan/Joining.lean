import MetricFrames.Proofs.Plan.Growing
import Mathlib.Data.List.Perm.Lattice
import Mathlib.Data.String.Basic

/-!
# Answers put together

The frames of an answer are those that its series come to one by one, except for the labels of the
whole answer, which are named on each of them. So the frames of two answers put together are those
of the one and then those of the other, with the union of their labels, and series in another order
give the same blocks of frames in that order, with the same labels (`frames_joined`).
-/

namespace MetricFrames

open QueryPlan

/-! ### Labels with their values -/

/-- Whether a name has a value. -/
def Members.HasValue (m : Members (List String)) (name value : String) : Prop :=
  ∃ values, (name, values) ∈ m ∧ value ∈ values

/-- A union of labels: each name once, and with it the values that it has on either side, in order
and without repetition. -/
structure Members.IsUnion (a b u : Members (List String)) : Prop where
  nodup : (u.map (·.1)).Nodup
  mem_names_iff : ∀ name, name ∈ u.map (·.1) ↔ name ∈ a.map (·.1) ∨ name ∈ b.map (·.1)
  sorted : ∀ x ∈ u, x.2.Pairwise (· < ·)
  hasValue_iff : ∀ name value, u.HasValue name value ↔ a.HasValue name value ∨ b.HasValue name value

theorem Members.put_put {α : Type} (name : String) (value other : α) (ms : Members α) :
    (ms.put name value).put name other = ms.put name other := by
  induction ms with
  | nil => simp [put]
  | cons m ms ih =>
    by_cases h : m.1 = name
    · simp [put, h]
    · simp [put, h, ih]

theorem nodup_eraseDups {α : Type} [BEq α] [LawfulBEq α] (xs : List α) : xs.eraseDups.Nodup := by
  match xs with
  | [] => exact List.nodup_nil
  | x :: xs =>
    rw [List.eraseDups_cons, List.nodup_cons]
    constructor
    · rw [List.mem_eraseDups]
      simp
    · exact nodup_eraseDups _
termination_by xs.length
decreasing_by exact Nat.lt_succ_of_le (List.length_filter_le _ _)

namespace QueryPlan

section Labels

variable {labels more : List (String × String)} {name value : String} {values : List String}

/-- The values of one label as `labelValues` lists them. -/
def valuesOf (labels : List (String × String)) (name : String) : List String :=
  (((labels.filter fun l => l.1 == name).map (·.2)).eraseDups).mergeSort (· ≤ ·)

theorem labelValues_eq (labels : List (String × String)) :
    labelValues labels = (labels.map (·.1)).eraseDups.map fun name =>
      (name, valuesOf labels name) := rfl

theorem names_labelValues (labels : List (String × String)) :
    (labelValues labels).map (·.1) = (labels.map (·.1)).eraseDups := by
  rw [labelValues_eq, List.map_map]
  exact List.map_id _

theorem mem_valuesOf : value ∈ valuesOf labels name ↔ (name, value) ∈ labels := by
  rw [valuesOf, List.mem_mergeSort, List.mem_eraseDups]
  simp

theorem pairwise_valuesOf (labels : List (String × String)) (name : String) :
    (valuesOf labels name).Pairwise (· < ·) := by
  have hsorted : (valuesOf labels name).Pairwise fun x y => decide (x ≤ y) = true := by
    apply List.pairwise_mergeSort
    · intro x y z hxy hyz
      simp only [decide_eq_true_eq] at *
      exact le_trans hxy hyz
    · intro x y
      simp only [Bool.or_eq_true, decide_eq_true_eq]
      exact le_total x y
  have hnodup : (valuesOf labels name).Nodup :=
    (List.mergeSort_perm _ _).nodup_iff.mpr (nodup_eraseDups _)
  refine (List.pairwise_and_iff.mpr ⟨hsorted, hnodup⟩).imp ?_
  intro x y ⟨hle, hne⟩
  exact lt_of_le_of_ne (of_decide_eq_true hle) hne

theorem mem_labelValues :
    (name, values) ∈ labelValues labels ↔
      name ∈ labels.map (·.1) ∧ values = valuesOf labels name := by
  rw [labelValues_eq, List.mem_map]
  constructor
  · rintro ⟨other, hother, heq⟩
    cases heq
    exact ⟨List.mem_eraseDups.mp hother, rfl⟩
  · rintro ⟨hname, rfl⟩
    exact ⟨name, List.mem_eraseDups.mpr hname, rfl⟩

theorem hasValue_labelValues :
    (labelValues labels).HasValue name value ↔ (name, value) ∈ labels := by
  constructor
  · rintro ⟨values, hvalues, hvalue⟩
    rw [(mem_labelValues.mp hvalues).2] at hvalue
    exact mem_valuesOf.mp hvalue
  · intro h
    have hname : name ∈ labels.map (·.1) := List.mem_map_of_mem h
    exact ⟨_, mem_labelValues.mpr ⟨hname, rfl⟩, mem_valuesOf.mpr h⟩

theorem isUnion_labelValues (labels more : List (String × String)) :
    Members.IsUnion (labelValues labels) (labelValues more) (labelValues (labels ++ more)) where
  nodup := by
    rw [names_labelValues]
    exact nodup_eraseDups _
  mem_names_iff name := by
    simp only [names_labelValues, List.mem_eraseDups, List.map_append, List.mem_append]
  sorted x hx := by
    rw [(mem_labelValues.mp hx).2]
    exact pairwise_valuesOf _ _
  hasValue_iff name value := by
    simp only [hasValue_labelValues, List.mem_append]

/-- The order in which labels are seen decides in which order they are listed, and nothing else. -/
theorem labelValues_perm (h : labels.Perm more) : (labelValues labels).Perm (labelValues more) := by
  have hvalues : ∀ name, valuesOf labels name = valuesOf more name := by
    intro name
    have hmem : ∀ value, value ∈ valuesOf labels name ↔ value ∈ valuesOf more name := by
      intro value
      rw [mem_valuesOf, mem_valuesOf]
      exact h.mem_iff
    have hsorted := pairwise_valuesOf labels name
    have hsorted' := pairwise_valuesOf more name
    have hperm : (valuesOf labels name).Perm (valuesOf more name) :=
      (List.perm_ext_iff_of_nodup (hsorted.imp ne_of_lt) (hsorted'.imp ne_of_lt)).mpr hmem
    exact hperm.eq_of_pairwise (fun x y _ _ hxy hyx => absurd hyx (lt_asymm hxy)) hsorted hsorted'
  have hnames : (labels.map (·.1)).eraseDups.Perm (more.map (·.1)).eraseDups := by
    refine (List.perm_ext_iff_of_nodup (nodup_eraseDups _) (nodup_eraseDups _)).mpr fun name => ?_
    rw [List.mem_eraseDups, List.mem_eraseDups]
    exact (h.map _).mem_iff
  rw [labelValues_eq, labelValues_eq, funext hvalues]
  exact hnames.map _

end Labels

/-- The labels of an answer, with all their values. -/
def labelMap (p : QueryPlan) (executed : String) (answer : QueryAnswer) : Members (List String) :=
  labelValues (p.readParts executed answer).labels

end QueryPlan

/-- Labels with their values as frames tell them. -/
def Data.ofLabels (labels : Members (List String)) : Data :=
  .object (labels.map fun (name, values) => (name, .list (values.map .text)))

namespace Frame

/-- The member that tells the labels of the whole answer. -/
def labelsMember : String := "labels"

/-- The frame with other labels of the whole answer. -/
def withLabels (labels : Members (List String)) (f : Frame) : Frame :=
  { f with origin := f.origin.map fun origin =>
      { origin with custom := origin.custom.put labelsMember (.ofLabels labels) } }

theorem withLabels_withLabels (labels more : Members (List String)) (f : Frame) :
    (f.withLabels labels).withLabels more = f.withLabels more := by
  simp only [withLabels, Option.map_map, Function.comp_def, Members.put_put]

/-- Whether a frame tells these labels of the whole answer. -/
def TellsLabels (f : Frame) (labels : Members (List String)) : Prop :=
  ∃ origin, f.origin = some origin ∧ origin.custom.get? labelsMember = some (.ofLabels labels)

end Frame

/-! ### Parts of answers -/

namespace QueryAnswer

/-- Two answers of one unit, or two tables of the same columns, and the answer that has the series
of the first and then those of the second. -/
inductive Joined : QueryAnswer → QueryAnswer → QueryAnswer → Prop
  | series {a b c : SeriesPage} (unit_eq : c.unit = a.unit) (unit_eq' : c.unit = b.unit)
      (series_eq : c.series = a.series ++ b.series) : Joined (.series a) (.series b) (.series c)
  | table {a b c : TablePage} (descriptor_eq : c.descriptor = a.descriptor)
      (descriptor_eq' : c.descriptor = b.descriptor) (rows_eq : c.rows = a.rows ++ b.rows) :
      Joined (.table a) (.table b) (.table c)

/-- Two answers with the same series in any order. -/
inductive Permuted : QueryAnswer → QueryAnswer → Prop
  | series {a b : SeriesPage} (unit_eq : a.unit = b.unit) (perm : a.series.Perm b.series) :
      Permuted (.series a) (.series b)
  | table {a b : TablePage} (descriptor_eq : a.descriptor = b.descriptor)
      (perm : a.rows.Perm b.rows) : Permuted (.table a) (.table b)

/-- The series of an answer, each as an answer of its own. -/
def singles : QueryAnswer → List QueryAnswer
  | .series page => page.series.map fun x => .series { series := [x], unit := page.unit }
  | .table page => page.rows.map fun row =>
    .table { rows := [row], descriptor := page.descriptor }

variable {a b c : QueryAnswer}

theorem Joined.singles_eq (h : Joined a b c) : c.singles = a.singles ++ b.singles := by
  cases h with
  | series hunit hunit' hseries => simp only [singles, hseries, List.map_append, ← hunit, ← hunit']
  | table hcolumns hcolumns' hrows =>
    simp only [singles, hrows, List.map_append, ← hcolumns, ← hcolumns']

theorem Permuted.singles_perm (h : Permuted a b) : a.singles.Perm b.singles := by
  cases h with
  | series hunit hperm =>
    simp only [singles, hunit]
    exact hperm.map _
  | table hcolumns hperm =>
    simp only [singles, hcolumns]
    exact hperm.map _

theorem of_mem_singles {s : QueryAnswer} (h : s ∈ a.singles) :
    s.unit = a.unit ∧ s.isEmpty = false := by
  cases a with
  | series page =>
    obtain ⟨x, -, rfl⟩ := List.mem_map.mp h
    exact ⟨rfl, rfl⟩
  | table page =>
    obtain ⟨row, -, rfl⟩ := List.mem_map.mp h
    exact ⟨rfl, rfl⟩

theorem isEmpty_iff_singles : a.isEmpty = true ↔ a.singles = [] := by
  cases a with
  | series page => rw [isEmpty, singles, List.isEmpty_iff, List.map_eq_nil_iff]
  | table page => rw [isEmpty, singles, List.isEmpty_iff, List.map_eq_nil_iff]

end QueryAnswer

namespace Reading

variable {rs : List Reading}

theorem fault_all_eq_none_iff : (all rs).fault = none ↔ ∀ r ∈ rs, r.fault = none := by
  induction rs with
  | nil => simp [all]
  | cons r rs ih =>
    rw [all_cons, List.forall_mem_cons]
    cases h : r.fault with
    | some f => simp [andThen_of_fault h, h]
    | none => simp [andThen_of_read h, ih]

theorem all_of_read (h : ∀ r ∈ rs, r.fault = none) :
    all rs = ⟨rs.flatMap (·.frames), rs.flatMap (·.labels), none⟩ := by
  induction rs with
  | nil => rfl
  | cons r rs ih =>
    have hread := List.forall_mem_cons.mp h
    rw [all_cons, andThen_of_read hread.1, ih hread.2]
    rfl

end Reading

namespace QueryPlan

open QueryAnswer Reading

variable {p : QueryPlan} {ranIn : Data} {executed : String} {answer a b c : QueryAnswer}

/-! ### Frames of parts -/

theorem readParts_eq_singles (p : QueryPlan) (executed : String) (answer : QueryAnswer) :
    p.readParts executed answer = all (answer.singles.map (p.readParts executed)) := by
  cases answer with
  | series page =>
    rw [singles, List.map_map, readParts]
    exact congrArg all (List.map_congr_left fun x _ => (readParts_series_singleton ..).symm)
  | table page =>
    rw [singles, List.map_map, readParts]
    exact congrArg all (List.map_congr_left fun row _ => (readParts_table_singleton ..).symm)

theorem fault_eq_none_iff_singles :
    (p.readParts executed answer).fault = none ↔
      ∀ s ∈ answer.singles, (p.readParts executed s).fault = none := by
  rw [readParts_eq_singles, fault_all_eq_none_iff, List.forall_mem_map]

theorem readParts_of_read (h : (p.readParts executed answer).fault = none) :
    p.readParts executed answer =
      ⟨answer.singles.flatMap fun s => (p.readParts executed s).frames,
        answer.singles.flatMap fun s => (p.readParts executed s).labels, none⟩ := by
  have hread : ∀ r ∈ answer.singles.map (p.readParts executed), r.fault = none :=
    List.forall_mem_map.mpr (fault_eq_none_iff_singles.mp h)
  rw [readParts_eq_singles, all_of_read hread, List.flatMap_map, List.flatMap_map]

/-- An answer comes to frames if all of it was read, and if there is a link for them where there are
any series. -/
theorem frames_eq_none_iff :
    (p.frames ranIn executed answer).2 = none ↔
      (p.readParts executed answer).fault = none ∧
        (answer.isEmpty = true ∨ ∃ url, p.link ranIn = .ok url) := by
  rcases frames_eq_cases p ranIn executed answer with ⟨f, hfault, hframes⟩ | ⟨hempty, hframes⟩ |
    ⟨hfault, hempty, f, hlink, hframes⟩ | ⟨hfault, hempty, url, hlink, hframes⟩
  · simp [hframes, hfault]
  · simp [hframes, hempty, readParts_of_isEmpty hempty]
  · simp [hframes, hempty, hlink]
  · simp [hframes, hfault, hlink]

/-- The link of a plan, if it has one. -/
def linkText (p : QueryPlan) (ranIn : Data) : String := (p.link ranIn).toOption.getD ""

theorem frames_of_eq_none (h : (p.frames ranIn executed answer).2 = none) :
    (p.frames ranIn executed answer).1 = (p.readParts executed answer).frames.map fun f =>
      withCustom (p.custom (p.readParts executed answer).labels)
        (f.decorate (p.linkText ranIn) answer.unit) := by
  rcases frames_eq_cases p ranIn executed answer with ⟨f, -, hframes⟩ | ⟨hempty, hframes⟩ |
    ⟨-, -, f, -, hframes⟩ | ⟨-, -, url, hlink, hframes⟩
  · rw [hframes] at h
    cases h
  · rw [hframes, readParts_of_isEmpty hempty]
    rfl
  · rw [hframes] at h
    cases h
  · rw [hframes, linkText, hlink]
    rfl

theorem frames_eq_none_iff_singles :
    (p.frames ranIn executed answer).2 = none ↔
      ∀ s ∈ answer.singles, (p.frames ranIn executed s).2 = none := by
  rw [frames_eq_none_iff, fault_eq_none_iff_singles]
  constructor
  · rintro ⟨hread, hlink⟩ s hs
    refine frames_eq_none_iff.mpr ⟨hread s hs, ?_⟩
    rcases hlink with hempty | hlink
    · rw [isEmpty_iff_singles.mp hempty] at hs
      cases hs
    · exact .inr hlink
  · intro h
    refine ⟨fun s hs => fault_eq_none_of_frames (h s hs), ?_⟩
    cases hsingles : answer.singles with
    | nil => exact .inl (isEmpty_iff_singles.mpr hsingles)
    | cons s rest =>
      have hs : s ∈ answer.singles := by rw [hsingles]; exact List.mem_cons_self
      rcases (frames_eq_none_iff.mp (h s hs)).2 with hempty | hlink
      · rw [(of_mem_singles hs).2] at hempty
        cases hempty
      · exact .inr hlink

/-! ### Labels of frames -/

theorem put_custom (p : QueryPlan) (labels more : List (String × String)) :
    (p.custom labels).put Frame.labelsMember (.ofLabels (labelValues more)) = p.custom more := by
  rw [custom, custom]
  cases p.shape with
  | filter params groupBys => rfl
  | objective params service slo selector => rfl
  | written query graphPeriod maxDataPoints => rfl

theorem withLabels_withCustom (p : QueryPlan) (labels more : List (String × String)) (f : Frame) :
    (withCustom (p.custom labels) f).withLabels (labelValues more) =
      withCustom (p.custom more) f := by
  rw [Frame.withLabels, withCustom, Option.map_map]
  simp only [Function.comp_def, put_custom]
  rfl

theorem tellsLabels_of_mem {f : Frame} (h : (p.frames ranIn executed answer).2 = none)
    (hf : f ∈ (p.frames ranIn executed answer).1) : f.TellsLabels (p.labelMap executed answer) := by
  rw [frames_of_eq_none h] at hf
  obtain ⟨plain, hplain, rfl⟩ := List.mem_map.mp hf
  obtain ⟨name, labels, samples, rfl⟩ := exists_samples_of_mem hplain
  refine ⟨_, rfl, ?_⟩
  show (p.custom (p.readParts executed answer).labels).get? Frame.labelsMember = _
  rw [custom]
  cases p.shape with
  | filter params groupBys => rfl
  | objective params service slo selector => rfl
  | written query graphPeriod maxDataPoints => rfl

theorem labelMap_eq_singles (h : (p.frames ranIn executed answer).2 = none) :
    p.labelMap executed answer =
      labelValues (answer.singles.flatMap fun s => (p.readParts executed s).labels) := by
  rw [labelMap, readParts_of_read (fault_eq_none_of_frames h)]

/-- The frames of an answer are those that its series come to one by one, but for the labels. -/
theorem frames_eq_singles (h : (p.frames ranIn executed answer).2 = none) :
    (p.frames ranIn executed answer).1 =
      (answer.singles.flatMap fun s => (p.frames ranIn executed s).1).map
        (Frame.withLabels (p.labelMap executed answer)) := by
  have heach : ∀ s ∈ answer.singles,
      (p.frames ranIn executed s).1.map (Frame.withLabels (p.labelMap executed answer)) =
        (p.readParts executed s).frames.map fun f =>
          withCustom (p.custom (p.readParts executed answer).labels)
            (f.decorate (p.linkText ranIn) answer.unit) := by
    intro s hs
    rw [frames_of_eq_none (frames_eq_none_iff_singles.mp h s hs), List.map_map,
      (of_mem_singles hs).1]
    exact List.map_congr_left fun f _ => withLabels_withCustom ..
  have hframes : (p.readParts executed answer).frames =
      answer.singles.flatMap fun s => (p.readParts executed s).frames := by
    rw [readParts_of_read (fault_eq_none_of_frames h)]
  rw [frames_of_eq_none h, hframes, List.map_flatMap, List.map_flatMap]
  exact List.flatMap_congr fun s hs => (heach s hs).symm

/-- The frames of two answers put together are those of the one and then those of the other, all
with the union of their labels, and there are any only if there are for both. The same series in
another order give the same frames, block by block in that order, with the same labels but for the
order in which these are listed. -/
theorem frames_joined (h : Joined a b c) (p : QueryPlan) (ranIn : Data) (executed : String) :
    ((p.frames ranIn executed c).2 = none ↔
      (p.frames ranIn executed a).2 = none ∧ (p.frames ranIn executed b).2 = none) ∧
    ((p.frames ranIn executed c).2 = none →
      (p.frames ranIn executed c).1 =
        ((p.frames ranIn executed a).1 ++ (p.frames ranIn executed b).1).map
          (Frame.withLabels (p.labelMap executed c)) ∧
      (∀ x ∈ [a, b, c], ∀ f ∈ (p.frames ranIn executed x).1,
        f.TellsLabels (p.labelMap executed x)) ∧
      Members.IsUnion (p.labelMap executed a) (p.labelMap executed b) (p.labelMap executed c)) ∧
    ∀ d, Permuted c d →
      ((p.frames ranIn executed d).2 = none ↔ (p.frames ranIn executed c).2 = none) ∧
      ((p.frames ranIn executed c).2 = none →
        c.singles.Perm d.singles ∧ (p.labelMap executed c).Perm (p.labelMap executed d) ∧
        ∀ x ∈ [c, d], (p.frames ranIn executed x).1 =
          (x.singles.flatMap fun s => (p.frames ranIn executed s).1).map
            (Frame.withLabels (p.labelMap executed x))) := by
  have hjoin : (p.frames ranIn executed c).2 = none ↔
      (p.frames ranIn executed a).2 = none ∧ (p.frames ranIn executed b).2 = none := by
    rw [frames_eq_none_iff_singles, h.singles_eq, List.forall_mem_append,
      ← frames_eq_none_iff_singles, ← frames_eq_none_iff_singles]
  refine ⟨hjoin, fun hc => ?_, fun d hd => ?_⟩
  · have hab := hjoin.mp hc
    refine ⟨?_, ?_, ?_⟩
    · rw [frames_eq_singles hc, h.singles_eq, frames_eq_singles hab.1, frames_eq_singles hab.2,
        List.flatMap_append, List.map_append, List.map_append, List.map_map, List.map_map]
      simp only [Function.comp_def, Frame.withLabels_withLabels]
    · have hall : ∀ x ∈ [a, b, c], (p.frames ranIn executed x).2 = none := by
        simp [hab.1, hab.2, hc]
      intro x hx f hf
      exact tellsLabels_of_mem (hall x hx) hf
    · rw [labelMap_eq_singles hc, labelMap_eq_singles hab.1, labelMap_eq_singles hab.2,
        h.singles_eq, List.flatMap_append]
      exact isUnion_labelValues _ _
  · have hperm := hd.singles_perm
    have hboth : (p.frames ranIn executed d).2 = none ↔ (p.frames ranIn executed c).2 = none := by
      rw [frames_eq_none_iff_singles, frames_eq_none_iff_singles]
      exact forall_congr' fun s => imp_congr_left hperm.mem_iff.symm
    refine ⟨hboth, fun hc => ⟨hperm, ?_, ?_⟩⟩
    · rw [labelMap_eq_singles hc, labelMap_eq_singles (hboth.mpr hc)]
      exact labelValues_perm (hperm.flatMap_right _)
    · have hall : ∀ x ∈ [c, d], (p.frames ranIn executed x).2 = none := by
        simp [hboth, hc]
      intro x hx
      exact frames_eq_singles (hall x hx)

theorem frames_joined_counts :
    let a : QueryAnswer := .series { series := [countSeries] }
    let b : QueryAnswer := .series { series := [sizeSeries] }
    let c : QueryAnswer := .series { series := [countSeries, sizeSeries] }
    let d : QueryAnswer := .series { series := [sizeSeries, countSeries] }
    Joined a b c ∧ Permuted c d ∧ (healthPlan.frames .null "q" d).2 = none ∧
      (healthPlan.frames .null "q" c).1 =
        ((healthPlan.frames .null "q" a).1 ++ (healthPlan.frames .null "q" b).1).map
          (Frame.withLabels (healthPlan.labelMap "q" c)) := by
  intro a b c d
  have hjoined : Joined a b c := .series rfl rfl rfl
  have hpermuted : Permuted c d := .series rfl (.swap ..)
  have hread : (healthPlan.frames .null "q" c).2 = none :=
    Option.isNone_iff_eq_none.mp (by decide +kernel)
  obtain ⟨-, hframes, horder⟩ := frames_joined hjoined healthPlan .null "q"
  exact ⟨hjoined, hpermuted, (horder d hpermuted).1.mpr hread, (hframes hread).1⟩

end QueryPlan
end MetricFrames
