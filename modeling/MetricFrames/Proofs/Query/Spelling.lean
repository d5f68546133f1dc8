import MetricFrames.Proofs.Data.Stepwise
import MetricFrames.Proofs.Decode.Spelling
import MetricFrames.Query.Decoding

/-!
# Payloads with plain names

In a payload, and in the two queries below it, every field may be given under its plain name. The
decoders of both forms of a payload make no difference between the names, but the choice between the
forms does: it looks at the kind and at the metric query under their names on the wire only. A
payload that gives one of these under its plain name may be taken for one in the flat form, and
what it gives is lost (`ofPayload_onWire_iff`).
-/

namespace MetricFrames

open FieldName Decoder

/-- The fields of a metric query. -/
def MetricQuery.fields : List FieldName :=
  [⟨"editorMode", "editor_mode"⟩, ⟨"projectName", "project_name"⟩, ⟨"metricType", "metric_type"⟩,
    ⟨"crossSeriesReducer", "cross_series_reducer"⟩, ⟨"alignmentPeriod", "alignment_period"⟩,
    ⟨"perSeriesAligner", "per_series_aligner"⟩, ⟨"groupBys", "group_bys"⟩,
    ⟨"filters", "filters"⟩, ⟨"aliasBy", "alias_by"⟩, ⟨"view", "view"⟩,
    ⟨"preprocessor", "preprocessor"⟩, ⟨"query", "query"⟩, ⟨"graphPeriod", "graph_period"⟩,
    ⟨"title", "title"⟩, ⟨"text", "text"⟩]

/-- The fields of a query against an objective. -/
def SloQuery.fields : List FieldName :=
  [⟨"projectName", "project_name"⟩, ⟨"alignmentPeriod", "alignment_period"⟩,
    ⟨"aliasBy", "alias_by"⟩, ⟨"selectorName", "selector_name"⟩, ⟨"serviceId", "service_id"⟩,
    ⟨"sloId", "slo_id"⟩]

/-- The fields of a payload and of the queries below it. -/
def Query.fields : List FieldName :=
  [⟨"queryType", "query_type"⟩, ⟨"metricQuery", "metric_query"⟩, ⟨"sloQuery", "slo_query"⟩,
    ⟨"type", "type"⟩] ++ MetricQuery.fields ++ SloQuery.fields

theorem Query.unambiguous_fields : Unambiguous fields where
  plain_eq_iff := by decide +kernel
  wire_eq_of_plain_eq := by decide +kernel
  exists_letter := by simp [fields, MetricQuery.fields, SloQuery.fields]

section

variable {ms : Members Data} {change : String → Data → Data}
  (hms : (ms.onWire Query.fields change).Distinct)
  (hchange : ∀ name, name ≠ "metricQuery" → name ≠ "sloQuery" → ∀ d, change name d = d)

include hms hchange

theorem textField_onWire {wire plain : String} (hf : ⟨wire, plain⟩ ∈ Query.fields)
    (hmetric : wire ≠ "metricQuery") (hslo : wire ≠ "sloQuery") :
    textField wire plain (ms.onWire Query.fields change) =
      (textField wire plain ms).onWire Query.fields :=
  optional_onWire_of_nameless Query.unambiguous_fields hf hms _ (nameless_text _)
    (hchange wire hmetric hslo)

theorem textsField_onWire {wire plain : String} (hf : ⟨wire, plain⟩ ∈ Query.fields)
    (hmetric : wire ≠ "metricQuery") (hslo : wire ≠ "sloQuery") :
    textsField wire plain (ms.onWire Query.fields change) =
      (textsField wire plain ms).onWire Query.fields :=
  optional_onWire_of_nameless Query.unambiguous_fields hf hms _
    (.nullAsEmpty (.list Query.unambiguous_fields (nameless_text _))) (hchange wire hmetric hslo)

theorem MetricQuery.ofMembers_onWire :
    MetricQuery.ofMembers (ms.onWire Query.fields change) =
      (MetricQuery.ofMembers ms).onWire Query.fields := by
  have htext := @textField_onWire ms change hms hchange
  have htexts := @textsField_onWire ms change hms hchange
  simp (disch := decide) only [MetricQuery.ofMembers, htext, htexts, Checked.onWire_seq,
    Checked.onWire_map]

theorem SloQuery.ofMembers_onWire :
    SloQuery.ofMembers (ms.onWire Query.fields change) =
      (SloQuery.ofMembers ms).onWire Query.fields := by
  have htext := @textField_onWire ms change hms hchange
  simp (disch := decide) only [SloQuery.ofMembers, htext, Checked.onWire_seq, Checked.onWire_map]

end

namespace Query

variable {ms : Members Data} {d : Data} {f : FieldName}

/-! ### Payloads -/

/-- The value of a payload's member: the members of the queries below have their names on the
wire. -/
def valueOnWire (name : String) (d : Data) : Data :=
  if name = "metricQuery" ∨ name = "sloQuery" then d.onWire fields else d

/-- A payload and the queries below it under the names on the wire. -/
def onWire (ms : Members Data) : Members Data := ms.onWire fields valueOnWire

/-- No field is given under both of its names, neither in a payload nor in a query below it. -/
structure SpeltOnce (ms : Members Data) : Prop where
  distinct : (onWire ms).Distinct
  below : ∀ name ∈ ["metricQuery", "sloQuery"], ∀ d inner, (onWire ms).get? name = some d →
    d.members? = some inner → inner.Distinct

theorem valueOnWire_of_ne {name : String} (hmetric : name ≠ "metricQuery")
    (hslo : name ≠ "sloQuery") (d : Data) : valueOnWire name d = d := by
  rw [valueOnWire, if_neg (not_or.mpr ⟨hmetric, hslo⟩)]

theorem SpeltOnce.get?_onWire (h : SpeltOnce ms) (hf : f ∈ fields) :
    (onWire ms).get? f.wire = (f.find? ms).map fun m => valueOnWire f.wire m.2 :=
  get?_wire_onWire unambiguous_fields hf h.distinct

/-- A query below a payload. -/
theorem SpeltOnce.optional_record (h : SpeltOnce ms) (hf : f ∈ fields)
    (hname : f.wire ∈ ["metricQuery", "sloQuery"]) {α : Type} (fallback : α)
    {part : Members Data → Checked α}
    (hpart : ∀ inner : Members Data, (inner.onWire fields fun _ d => d).Distinct →
      part (inner.onWire fields fun _ d => d) = (part inner).onWire fields) :
    f.optional fallback (record part) (onWire ms) =
      (f.optional fallback (record part) ms).onWire fields := by
  refine optional_onWire unambiguous_fields hf h.distinct fallback fun m hm => ?_
  have hvalue : valueOnWire f.wire m.2 = m.2.onWire fields := by
    rw [valueOnWire, if_pos (by simpa using hname)]
  have hget : (onWire ms).get? f.wire = some (m.2.onWire fields) := by
    rw [h.get?_onWire hf, hm, Option.map_some, hvalue]
  rw [hvalue]
  refine (record_onWire fun inner hinner => hpart inner ?_).symm
  refine h.below f.wire hname _ _ hget ?_
  rw [Data.members?_onWire, hinner, Option.map_some]

theorem SpeltOnce.ofMembers_onWire (h : SpeltOnce ms) :
    ofMembers (onWire ms) = (ofMembers ms).onWire fields := by
  have htext := @textField_onWire ms valueOnWire h.distinct fun _ => valueOnWire_of_ne
  have hmetric := h.optional_record (f := ⟨"metricQuery", "metric_query"⟩) (by decide) (by decide)
    {} fun inner hinner => MetricQuery.ofMembers_onWire hinner fun _ _ _ _ => rfl
  have hslo := h.optional_record (f := ⟨"sloQuery", "slo_query"⟩) (by decide) (by decide)
    {} fun inner hinner => SloQuery.ofMembers_onWire hinner fun _ _ _ _ => rfl
  rw [ofMembers, hmetric, hslo]
  simp (disch := decide) only [onWire, htext, ofMembers, Checked.onWire_seq, Checked.onWire_map]

/-! ### The two forms -/

theorem SpeltOnce.ofNested_onWire (h : SpeltOnce ms) :
    ofNested (onWire ms) = (ofNested ms).mapError (Rejection.onWire fields) := by
  rw [ofNested, ofNested, h.ofMembers_onWire, Checked.report_onWire]
  cases (ofMembers ms).report model with
  | error r => rfl
  | ok q => rfl

theorem valueOnWire_eq_null {name : String} : valueOnWire name d = .null ↔ d = .null := by
  rw [valueOnWire]
  split
  · cases d <;> simp [Data.onWire]
  · exact Iff.rfl

/-- A member that is not given under its plain name. -/
theorem SpeltOnce.member_onWire (h : SpeltOnce ms) (hf : f ∈ fields)
    (hplain : ms.get? f.plain = none ∨ f.wire = f.plain) :
    member (onWire ms) f.wire = valueOnWire f.wire (member ms f.wire) := by
  have hfind : f.find? ms = (ms.get? f.wire).map fun d => (f.wire, d) := by
    rw [find?]
    cases hd : ms.get? f.wire with
    | some d => rfl
    | none =>
      rcases hplain with hnone | hsame
      · rw [hnone]
        rfl
      · rw [← hsame, hd, Option.map_none]
  rw [member, member, h.get?_onWire hf, hfind]
  cases ms.get? f.wire with
  | some d => rfl
  | none => exact (valueOnWire_eq_null.mpr rfl).symm

theorem SpeltOnce.ofFlat_onWire (h : SpeltOnce ms) :
    ofFlat (onWire ms) = (ofFlat ms).mapError (Rejection.onWire fields) := by
  have hmetric : MetricQuery.ofMembers (onWire ms) = (MetricQuery.ofMembers ms).onWire fields :=
    MetricQuery.ofMembers_onWire h.distinct fun _ => valueOnWire_of_ne
  have hmember : member (onWire ms) "type" = member ms "type" :=
    (h.member_onWire (f := ⟨"type", "type"⟩) (by decide) (.inr rfl)).trans
      (valueOnWire_of_ne (by decide) (by decide) _)
  have hname : wireOf fields "type" = "type" := by decide +kernel
  simp only [ofFlat, hmetric, hmember, Checked.report_onWire]
  generalize hd : (member ms "type").orElse (.text "") = d
  have hpurpose : ((text d).below "type").onWire fields = (text d).below "type" := by
    rw [Checked.onWire_below, hname, nameless_text]
  have hreport : ((text d).below "type").report model =
      (((text d).below "type").report model).mapError (Rejection.onWire fields) := by
    rw [← Checked.report_onWire, hpurpose]
  cases (MetricQuery.ofMembers ms).report MetricQuery.model with
  | error r => rfl
  | ok metric =>
    cases hp : ((text d).below "type").report model with
    | error r =>
      rw [hp] at hreport
      exact congrArg Except.error (Except.error.inj hreport)
    | ok purpose => rfl

/-- The choice of a form. -/
theorem isFlat_iff : isFlat ms = true ↔ member ms "metricQuery" = .null ∧
    (member ms "queryType").orElse (.text metricKind) = .text metricKind := by
  rw [isFlat, Bool.and_eq_true]
  refine and_congr ?_ ?_
  · cases member ms "metricQuery" <;> simp
  · cases (member ms "queryType").orElse (.text metricKind) <;> simp

theorem SpeltOnce.isFlat_onWire (h : SpeltOnce ms) (hmetric : ms.get? "metric_query" = none)
    (hkind : ms.get? "query_type" = none) : isFlat (onWire ms) = isFlat ms := by
  have hmetricSame := h.member_onWire (f := ⟨"metricQuery", "metric_query"⟩) (by decide)
    (.inl hmetric)
  have hkindSame := h.member_onWire (f := ⟨"queryType", "query_type"⟩) (by decide) (.inl hkind)
  rw [valueOnWire_of_ne (by decide) (by decide)] at hkindSame
  rw [Bool.eq_iff_iff, isFlat_iff, isFlat_iff, hmetricSame, hkindSame, valueOnWire_eq_null]

/-- A payload that has the flat form under its names on the wire has it under all names. -/
theorem SpeltOnce.isFlat_of_onWire (h : SpeltOnce ms) (hflat : isFlat (onWire ms) = true) :
    isFlat ms = true := by
  rw [isFlat_iff] at hflat ⊢
  -- What the choice looks at stays the same under its name on the wire, or it is not there yet.
  have hgiven : ∀ f ∈ fields, member ms f.wire = .null ∨
      member (onWire ms) f.wire = valueOnWire f.wire (member ms f.wire) := by
    intro f hf
    cases hd : ms.get? f.wire with
    | none => exact .inl (by rw [member, hd, Option.getD_none])
    | some d =>
      have hfind : f.find? ms = some (f.wire, d) := by rw [find?, hd]
      refine .inr ?_
      rw [member, member, h.get?_onWire hf, hfind, hd]
      rfl
  constructor
  · rcases hgiven ⟨"metricQuery", "metric_query"⟩ (by decide) with hnull | hsame
    · exact hnull
    · exact valueOnWire_eq_null.mp (hsame.symm.trans hflat.1)
  · rcases hgiven ⟨"queryType", "query_type"⟩ (by decide) with hnull | hsame
    · rw [hnull]
      rfl
    · rw [valueOnWire_of_ne (by decide) (by decide)] at hsame
      rw [← hsame]
      exact hflat.2

/-- A payload with some plain names comes to the same as under the names on the wire exactly if both
have the same form, or if both forms say the same. When both have the same form, it is decoded to
the same query or has the same problems. When they have not, then the kind or the metric query is
given under its plain name, and the payload is decoded as if it had the flat form. -/
theorem ofPayload_onWire_iff (h : SpeltOnce ms) :
    ((∀ q, ofPayload ms = .ok q ↔ ofPayload (onWire ms) = .ok q) ↔
      isFlat ms = isFlat (onWire ms) ∨
        ∀ q, ofFlat (onWire ms) = .ok q ↔ ofNested (onWire ms) = .ok q) ∧
    (isFlat ms = isFlat (onWire ms) →
      ofPayload (onWire ms) = (ofPayload ms).mapError (Rejection.onWire fields)) ∧
    (isFlat ms ≠ isFlat (onWire ms) →
      (ms.has "metric_query" = true ∨ ms.has "query_type" = true) ∧
      isFlat ms = true ∧
      ofFlat (onWire ms) = (ofPayload ms).mapError (Rejection.onWire fields)) := by
  have hsame : isFlat ms = isFlat (onWire ms) →
      ofPayload (onWire ms) = (ofPayload ms).mapError (Rejection.onWire fields) := by
    intro hform
    rw [ofPayload, ofPayload, hform]
    split
    · exact h.ofFlat_onWire
    · exact h.ofNested_onWire
  have hother : isFlat ms ≠ isFlat (onWire ms) → isFlat ms = true ∧ isFlat (onWire ms) = false := by
    intro hform
    cases hwire : isFlat (onWire ms) with
    | true => exact absurd ((h.isFlat_of_onWire hwire).trans hwire.symm) hform
    | false =>
      rw [hwire] at hform
      exact ⟨by simpa using hform, rfl⟩
  refine ⟨?_, hsame, fun hform => ⟨?_, (hother hform).1, ?_⟩⟩
  · by_cases hform : isFlat ms = isFlat (onWire ms)
    · refine iff_of_true (fun q => ?_) (.inl hform)
      rw [hsame hform, mapError_eq_ok_iff]
    · obtain ⟨hflat, hnested⟩ := hother hform
      rw [or_iff_right hform, ofPayload, ofPayload, hflat, hnested]
      simp only [h.ofFlat_onWire, mapError_eq_ok_iff]
      rfl
  · by_contra hnone
    rw [not_or, Members.has, Members.has, Bool.not_eq_true, Bool.not_eq_true,
      Option.isSome_eq_false_iff, Option.isSome_eq_false_iff, Option.isNone_iff_eq_none,
      Option.isNone_iff_eq_none] at hnone
    exact hform (h.isFlat_onWire hnone.1 hnone.2).symm
  · rw [h.ofFlat_onWire, ofPayload, (hother hform).1, if_pos rfl]

/-- A payload whose metric query mixes both kinds of names. -/
def mixed : Members Data :=
  [("queryType", .text metricKind),
    ("metricQuery", .object [("metric_type", .text "count"), ("projectName", .text "p")]),
    ("slo_query", .object [])]

theorem speltOnce_mixed : SpeltOnce mixed where
  distinct := by decide +kernel
  below := by
    have hmetric : (onWire mixed).get? "metricQuery" =
        some (.object [("metricType", .text "count"), ("projectName", .text "p")]) := rfl
    have hslo : (onWire mixed).get? "sloQuery" = some (.object []) := rfl
    intro name hname d inner hd hinner
    rw [List.mem_pair] at hname
    rcases hname with rfl | rfl
    · rw [hmetric] at hd
      cases hd
      cases hinner
      decide
    · rw [hslo] at hd
      cases hd
      cases hinner
      decide

/-- Below the names on the wire, plain names make no difference. -/
theorem ofPayload_onWire_iff_mixed :
    ofPayload mixed =
        .ok { kind := metricKind, metric := { metricType := "count", projectName := "p" } } ∧
      ofPayload (onWire mixed) =
        .ok { kind := metricKind, metric := { metricType := "count", projectName := "p" } } := by
  have hmixed : ofPayload mixed =
      .ok { kind := metricKind, metric := { metricType := "count", projectName := "p" } } := rfl
  have hform : isFlat mixed = isFlat (onWire mixed) := by decide +kernel
  obtain ⟨hiff, -, -⟩ := ofPayload_onWire_iff speltOnce_mixed
  exact ⟨hmixed, (hiff.mpr (.inl hform) _).mp hmixed⟩

/-- A metric query under its plain name is not found. -/
theorem ofPayload_metric_query :
    onWire [("metric_query", .object [("metricType", .text "count")])] =
        [("metricQuery", .object [("metricType", .text "count")])] ∧
      ofPayload [("metric_query", .object [("metricType", .text "count")])] =
        .ok { kind := metricKind } ∧
      ofPayload [("metricQuery", .object [("metricType", .text "count")])] =
        .ok { kind := metricKind, metric := { metricType := "count" } } :=
  ⟨rfl, rfl, rfl⟩

end Query
end MetricFrames
