import MetricFrames.Proofs.Legend.Placeholders
import MetricFrames.Proofs.Plan.Projects

/-!
# What remarks refer to

A label of the metric that a remark addresses may be taken from the resource, so the text of a
remark depends on the labels of the resource unless the metric has all labels that it addresses
(`text_metricLabels_iff`). And a remark does not know the metric type, which a legend does, so a
template of placeholders that both know by their documentation reads alike only where it does not
ask for the metric type (`text_eq_name_iff`).
-/

namespace MetricFrames

open Template

/-! ### Labels -/

theorem Text.replaceFirst_append (pat s : List Char) : replaceFirst pat [] (pat ++ s) = s := by
  have hcut : cut pat (pat ++ s) = some ([], s) := by
    cases h : pat ++ s with
    | nil =>
      obtain ⟨rfl, rfl⟩ := List.append_eq_nil_iff.mp h
      rfl
    | cons c t => rw [cut, ← h, after?_append]
  rw [replaceFirst, hcut]
  rfl

theorem Template.length_expand_le (resolve : List Char → Option (List Char)) {piece : Segment}
    {t : List Char} (h : piece ∈ segments t) :
    (piece.expand resolve).length ≤ (expand resolve t).length := by
  obtain ⟨before, after, hpieces⟩ := List.append_of_mem h
  rw [expand, hpieces, List.flatMap_append, List.flatMap_cons, List.length_append,
    List.length_append]
  omega

namespace Remark

variable {template value metricType label word : String} {labels resource : Members String}

/-- The name of a label of the metric in a template. -/
def metricName (label : String) : List Char := "metric.label.".toList ++ label.toList

/-- The label of the resource that is looked up where the metric does not have a label. -/
def resourceLabel (label : String) : String :=
  String.ofList (Text.replaceFirst "resource.label.".toList [] label.toList)

theorem metricName_ne (h : ¬ "metric.label.".toList <+: word.toList) :
    metricName label ≠ word.toList := by
  intro heq
  rw [← heq] at h
  exact h (List.prefix_append _ _)

theorem resolve?_metricName (value metricType : String) (labels resource : Members String)
    (label : String) : resolve? value metricType labels resource (metricName label) =
      ((labels.get? label).or (resource.get? (resourceLabel label))).map String.toList := by
  have hvalue : metricName label ≠ "metric.value".toList := metricName_ne (by decide)
  have hname : metricName label ≠ "metric.name".toList := metricName_ne (by decide)
  have hservice : metricName label ≠ "metric.service".toList := metricName_ne (by decide)
  have hpart : MetricType.resolve? (metricName label) metricType.toList = none := by
    rw [MetricType.resolve?]
    split
    · rfl
    · rw [if_neg hname, if_neg hservice]
  have hlabel : Text.replaceFirst "metric.label.".toList [] (metricName label) = label.toList :=
    Text.replaceFirst_append _ _
  rw [resolve?, if_neg hvalue, hpart]
  dsimp only
  rw [hlabel, Legend.label?, Legend.label?, String.ofList_toList, ← resourceLabel]
  cases labels.get? label with
  | none => rw [Option.map_none, Option.none_or]
  | some l => rw [Option.map_some, Option.some_or, Option.map_some]

/-- Whether every placeholder of a template addresses a label of the metric. -/
def AddressesMetric (template : String) : Prop :=
  ∀ name written, .slot name written ∈ segments template.toList → ∃ label, name = metricName label

/-- Whether a template has a placeholder for a label of the metric. -/
def Addresses (template label : String) : Prop :=
  ∃ written, .slot (metricName label) written ∈ segments template.toList

/-- Where the metric does not have a label that a template addresses, one of the resource shows: its
value may be longer than the whole text without it. -/
theorem exists_text_ne (value metricType : String) {written : List Char}
    (hmem : .slot (metricName label) written ∈ segments template.toList)
    (hnone : labels.get? label = none) :
    ∃ resource, text template value metricType labels resource ≠
      text template value metricType labels [] := by
  let long := 'x' :: (text template value metricType labels []).toList
  let resource : Members String := [(resourceLabel label, String.ofList long)]
  have hlabel : resource.get? (resourceLabel label) = some (String.ofList long) := by
    rw [Members.get?_cons, if_pos rfl]
  have hexpand : (Segment.slot (metricName label) written).expand
      (resolve? value metricType labels resource) = long := by
    rw [Segment.expand, resolve?_metricName, hnone, hlabel]
    exact String.toList_ofList
  refine ⟨resource, fun heq => ?_⟩
  have hlength := length_expand_le (resolve? value metricType labels resource) hmem
  have htext : expand (resolve? value metricType labels resource) template.toList =
      (text template value metricType labels []).toList := by
    rw [← heq]
    exact String.toList_ofList.symm
  rw [hexpand, htext] at hlength
  exact absurd hlength (Nat.not_succ_le_self _)

/-- In a template whose placeholders all address labels of the metric, a placeholder is replaced by
the label of the metric, else by the label of the resource that is looked up instead, and stays as
it is written if there is none of both. So the text does not depend on the labels of the resource
exactly if the metric has all the labels that the template addresses. -/
theorem text_metricLabels_iff (h : AddressesMetric template) (value metricType : String)
    (labels : Members String) :
    (∀ label written resource,
      (Segment.slot (metricName label) written).expand
          (resolve? value metricType labels resource) =
        (((labels.get? label).or (resource.get? (resourceLabel label))).map String.toList).getD
          written) ∧
    ((∀ resource resource', text template value metricType labels resource =
        text template value metricType labels resource') ↔
      ∀ label, Addresses template label → labels.has label = true) := by
  have hexpand : ∀ label written resource,
      (Segment.slot (metricName label) written).expand
          (resolve? value metricType labels resource) =
        (((labels.get? label).or (resource.get? (resourceLabel label))).map String.toList).getD
          written := by
    intro label written resource
    rw [Segment.expand, resolve?_metricName]
  refine ⟨hexpand, ?_⟩
  constructor
  · rintro hsame label ⟨written, hmem⟩
    by_contra hnot
    have hnone : labels.get? label = none := Option.not_isSome_iff_eq_none.mp hnot
    obtain ⟨resource, hne⟩ := exists_text_ne value metricType hmem hnone
    exact hne (hsame resource [])
  · intro hall resource resource'
    refine congrArg String.ofList (expand_congr fun name written hmem => ?_)
    obtain ⟨label, rfl⟩ := h name written hmem
    obtain ⟨l, hl⟩ := Option.isSome_iff_exists.mp (hall label ⟨written, hmem⟩)
    rw [resolve?_metricName, resolve?_metricName, hl, Option.some_or, Option.some_or]

/-- The template with one placeholder, for the zone of the metric. -/
def zoneTemplate : String := "\x7b\x7bmetric.label.zone\x7d\x7d"

theorem segments_zoneTemplate :
    segments zoneTemplate.toList = [.slot (metricName "zone") zoneTemplate.toList] := by
  decide +kernel

theorem addressesMetric_zoneTemplate : AddressesMetric zoneTemplate := by
  intro name written hmem
  rw [segments_zoneTemplate] at hmem
  obtain ⟨rfl, -⟩ := Segment.slot.inj (List.mem_singleton.mp hmem)
  exact ⟨"zone", rfl⟩

/-- Where the metric has a zone, the labels of the resource do not matter. -/
theorem text_metricLabels_iff_zone : AddressesMetric zoneTemplate ∧
    ∀ resource resource', text zoneTemplate "1" "m" [("zone", "a")] resource =
      text zoneTemplate "1" "m" [("zone", "a")] resource' := by
  obtain ⟨-, hiff⟩ :=
    text_metricLabels_iff addressesMetric_zoneTemplate "1" "m" [("zone", "a")]
  refine ⟨addressesMetric_zoneTemplate, hiff.mpr ?_⟩
  rintro label ⟨written, hmem⟩
  rw [segments_zoneTemplate] at hmem
  have hzone : metricName label = metricName "zone" :=
    (Segment.slot.inj (List.mem_singleton.mp hmem)).1
  obtain rfl : label = "zone" := String.toList_inj.mp (List.append_cancel_left hzone)
  rfl

/-- Where it has none, the zone of the resource is taken for it. -/
theorem text_zone_of_resource :
    text zoneTemplate "1" "m" [] [("zone", "b")] = "b" ∧
    text zoneTemplate "1" "m" [] [] = zoneTemplate := by
  decide +kernel

end Remark

/-! ### Parts of the metric type -/

/-- Without labels a legend knows the metric type and its parts, besides the names of its query. -/
theorem Legend.resolve?_part {l : Legend} {name : List Char}
    (h : name ≠ "metric.type".toList) (hquery : l.lookup? name = none) (metricType : String) :
    l.resolve? metricType [] [] name = MetricType.resolve? name metricType.toList := by
  rw [Legend.resolve?, if_neg h, hquery]
  cases MetricType.resolve? name metricType.toList <;> rfl

namespace Remark

/-- The placeholders that legends and remarks share. -/
def sharedNames : List (List Char) :=
  ["metric.type", "metric.name", "metric.service"].map String.toList

/-- Whether a template has no other placeholders than those that legends and remarks share. -/
def IsShared (template : String) : Prop :=
  ∀ name written, .slot name written ∈ segments template.toList → name ∈ sharedNames

/-- Without labels a remark knows its value and the parts of the metric type. -/
theorem resolve?_part {name : List Char} (h : name ≠ "metric.value".toList)
    (value metricType : String) :
    resolve? value metricType [] [] name = MetricType.resolve? name metricType.toList := by
  rw [resolve?, if_neg h]
  cases MetricType.resolve? name metricType.toList <;> rfl

theorem resolve?_metricType (value metricType : String) :
    resolve? value metricType [] [] "metric.type".toList = none := by
  have hvalue : "metric.type".toList ≠ "metric.value".toList := by decide
  have hname : "metric.type".toList ≠ "metric.name".toList := by decide
  have hservice : "metric.type".toList ≠ "metric.service".toList := by decide
  rw [resolve?_part hvalue, MetricType.resolve?]
  split
  · rfl
  · rw [if_neg hname, if_neg hservice]

/-- Legends and remarks resolve the shared placeholders alike, but for the metric type. -/
theorem differAt_shared {template : String} (h : IsShared template) (l : Legend)
    (value metricType : String) :
    DifferAt (l.resolve? metricType [] []) (resolve? value metricType [] [])
      "metric.type".toList metricType.toList (segments template.toList) where
  known := by rw [Legend.resolve?, if_pos rfl]
  unknown := resolve?_metricType value metricType
  same := by
    intro name written hmem hname
    have hshared := h name written hmem
    simp only [sharedNames, List.map_cons, List.map_nil, List.mem_cons, List.not_mem_nil,
      or_false] at hshared
    have hvalue : name ≠ "metric.value".toList := by
      rcases hshared with rfl | rfl | rfl <;> decide
    have hquery : l.lookup? name = none := by
      rcases hshared with rfl | rfl | rfl <;> simp [Legend.lookup?]
    rw [resolve?_part hvalue, Legend.resolve?_part hname hquery]
  braces := fun written hmem => exists_braces hmem (by decide)

/-- A template of shared placeholders reads alike as a legend and as a remark exactly if each
placeholder for the metric type is written as the metric type: a remark leaves it as it is. -/
theorem text_eq_name_iff {l : Legend} (hl : l.template ≠ "") (h : IsShared l.template)
    (value metricType defaultName : String) :
    text l.template value metricType [] [] = l.name metricType defaultName [] [] ↔
      ∀ written, .slot "metric.type".toList written ∈ segments l.template.toList →
        written = metricType.toList := by
  rw [← (differAt_shared h l value metricType).flatMap_eq_iff, text, Legend.name, if_neg hl,
    String.ofList_inj, eq_comm]
  rfl

/-- A template with two placeholders, for the parts of the metric type. -/
def partsTemplate : String := "\x7b\x7bmetric.name\x7d\x7d of \x7b\x7b metric.service \x7d\x7d"

theorem segments_partsTemplate : segments partsTemplate.toList =
    [.slot "metric.name".toList "\x7b\x7bmetric.name\x7d\x7d".toList,
      .literal ' ', .literal 'o', .literal 'f', .literal ' ',
      .slot "metric.service".toList "\x7b\x7b metric.service \x7d\x7d".toList] := by
  decide +kernel

theorem mem_segments_partsTemplate {name written : List Char}
    (h : .slot name written ∈ segments partsTemplate.toList) :
    name = "metric.name".toList ∨ name = "metric.service".toList := by
  rw [segments_partsTemplate] at h
  simp only [List.mem_cons, Segment.slot.injEq, reduceCtorEq, List.not_mem_nil, false_or,
    or_false] at h
  exact h.imp And.left And.left

/-- Without a placeholder for the metric type both texts are the same. -/
theorem text_eq_name_iff_parts : IsShared partsTemplate ∧
    text partsTemplate "1" "compute.googleapis.com/cpu" [] [] = "cpu of compute" ∧
    ({ template := partsTemplate } : Legend).name "compute.googleapis.com/cpu" "" [] [] =
      "cpu of compute" := by
  have hshared : IsShared partsTemplate := by
    intro name written hmem
    rcases mem_segments_partsTemplate hmem with rfl | rfl <;> decide
  have htext : text partsTemplate "1" "compute.googleapis.com/cpu" [] [] = "cpu of compute" := by
    decide +kernel
  have hiff := text_eq_name_iff (l := { template := partsTemplate }) (by decide) hshared "1"
    "compute.googleapis.com/cpu" ""
  refine ⟨hshared, htext, (hiff.mpr ?_).symm.trans htext⟩
  intro written hmem
  exfalso
  rcases mem_segments_partsTemplate hmem with h | h
  · exact absurd h (by decide)
  · exact absurd h (by decide)

/-- A remark on a metric type leaves the placeholder, where a legend has the metric type. -/
theorem text_metricType :
    text "\x7b\x7bmetric.type\x7d\x7d" "1" "m" [] [] = "\x7b\x7bmetric.type\x7d\x7d" ∧
    ({ template := "\x7b\x7bmetric.type\x7d\x7d" } : Legend).name "m" "" [] [] = "m" := by
  decide +kernel

end Remark
end MetricFrames
