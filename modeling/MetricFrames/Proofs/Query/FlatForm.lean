import MetricFrames.Plan.Building
import MetricFrames.Query.Decoding

/-!
# The older flat form of a payload

The members of a metric query may stand at the top level of a payload or below the name
`metricQuery`. Both forms are decoded to the same query, or rejected for the same problems, which
the nested form reports below that name (`ofPayload_nested_eq`). So the same plans are built for
them (`ofPayload_flat_iff`).
-/

namespace MetricFrames

/-! ### Fields -/

namespace FieldName

variable {α : Type} {f : FieldName} {ms : Members Data}

theorem find?_put {name : String} (hwire : f.wire ≠ name) (hplain : f.plain ≠ name) (d : Data)
    (ms : Members Data) : f.find? (ms.put name d) = f.find? ms := by
  rw [find?, find?, Members.get?_put, Members.get?_put, if_neg (Ne.symm hwire),
    if_neg (Ne.symm hplain)]

theorem optional_put {name : String} (hwire : f.wire ≠ name) (hplain : f.plain ≠ name)
    (fallback : α) (value : Decoder α) (d : Data) (ms : Members Data) :
    f.optional fallback value (ms.put name d) = f.optional fallback value ms := by
  rw [optional, optional, find?_put hwire hplain]

theorem optional_wire {d : Data} (h : ms.get? f.wire = some d) (fallback : α) (value : Decoder α) :
    f.optional fallback value ms = (value d).below f.wire := by
  rw [optional, find?, h]

theorem optional_absent (hwire : ms.get? f.wire = none) (hplain : ms.get? f.plain = none)
    (fallback : α) (value : Decoder α) : f.optional fallback value ms = .ok fallback := by
  rw [optional, find?, hwire, hplain]
  rfl

end FieldName

/-- The kind of a payload is no field of a metric query. -/
theorem MetricQuery.ofMembers_put_kind (d : Data) (ms : Members Data) :
    MetricQuery.ofMembers (ms.put "queryType" d) = MetricQuery.ofMembers ms := by
  simp (disch := decide) only [MetricQuery.ofMembers, textField, textsField,
    FieldName.optional_put]

namespace Query

/-- A payload with a kind, if there is one. -/
def withKind (kind : Option String) (ms : Members Data) : Members Data :=
  match kind with
  | none => ms
  | some kind => ms.put "queryType" (.text kind)

/-- The names of the members of a query, on the wire and plain. -/
def names : List String :=
  ["queryType", "query_type", "metricQuery", "metric_query", "sloQuery", "slo_query", "type"]

/-- A payload in the nested form. -/
def nested (m : Members Data) : Members Data := [("metricQuery", .object m)]

variable {kind : Option String} {m ms : Members Data}

theorem get?_withKind {name : String} (h : name ≠ "queryType") (kind : Option String)
    (ms : Members Data) : (withKind kind ms).get? name = ms.get? name := by
  cases kind with
  | none => rfl
  | some kind => rw [withKind, Members.get?_put, if_neg (Ne.symm h)]

theorem get?_kind_withKind (h : ms.get? "queryType" = none) (kind : Option String) :
    (withKind kind ms).get? "queryType" = kind.map Data.text := by
  cases kind with
  | none => exact h
  | some kind => rw [withKind, Members.get?_put, if_pos rfl, Option.map_some]

theorem ofMembers_withKind (kind : Option String) (ms : Members Data) :
    MetricQuery.ofMembers (withKind kind ms) = MetricQuery.ofMembers ms := by
  cases kind with
  | none => rfl
  | some kind => exact MetricQuery.ofMembers_put_kind (.text kind) ms

theorem isFlat_withKind (hm : ∀ name ∈ names, m.get? name = none)
    (hkind : ∀ k ∈ kind, k = "" ∨ k = metricKind) : isFlat (withKind kind m) = true := by
  have hnone := hm "metricQuery" (by decide)
  have hgiven := get?_kind_withKind (hm "queryType" (by decide)) kind
  rw [isFlat, member, member, get?_withKind (by decide), hnone, hgiven]
  cases kind with
  | none => rfl
  | some k =>
    rcases hkind k rfl with rfl | rfl
    · rfl
    · rfl

theorem ofPayload_flat (hm : ∀ name ∈ names, m.get? name = none)
    (hkind : ∀ k ∈ kind, k = "" ∨ k = metricKind) :
    ofPayload (withKind kind m) = ((MetricQuery.ofMembers m).report MetricQuery.model).map
      fun metric => { kind := metricKind, metric := metric } := by
  have hpurpose : member (withKind kind m) "type" = .null := by
    rw [member, get?_withKind (by decide), hm "type" (by decide), Option.getD_none]
  rw [ofPayload, if_pos (isFlat_withKind hm hkind), ofFlat, ofMembers_withKind, hpurpose]
  cases (MetricQuery.ofMembers m).report MetricQuery.model with
  | error r => rfl
  | ok metric => rfl

theorem isFlat_nested (kind : Option String) (m : Members Data) :
    isFlat (withKind kind (nested m)) = false := by
  have hgiven : (nested m).get? "metricQuery" = some (.object m) := rfl
  rw [isFlat, member, get?_withKind (by decide), hgiven]
  rfl

theorem ofMembers_nested (kind : Option String) (m : Members Data) :
    ofMembers (withKind kind (nested m)) =
      ((MetricQuery.ofMembers m).below "metricQuery").map fun metric =>
        { kind := kind.getD "", metric := metric } := by
  have hother : ∀ name, name ≠ "queryType" → name ≠ "metricQuery" →
      (withKind kind (nested m)).get? name = none := by
    intro name hkind hmetric
    rw [get?_withKind hkind, nested, Members.get?_cons, if_neg (Ne.symm hmetric), Members.get?_nil]
  have hkind : textField "queryType" "query_type" (withKind kind (nested m)) =
      .ok (kind.getD "") := by
    have hgiven := get?_kind_withKind (show (nested m).get? "queryType" = none from rfl) kind
    cases kind with
    | none => exact FieldName.optional_absent hgiven (hother _ (by decide) (by decide)) ..
    | some k =>
      have hwire : (withKind (some k) (nested m)).get? "queryType" = some (.text k) := hgiven
      rw [textField, FieldName.optional_wire hwire]
      rfl
  have hmetric : (withKind kind (nested m)).get? "metricQuery" = some (.object m) :=
    get?_withKind (by decide) kind (nested m)
  have hslo : FieldName.optional ⟨"sloQuery", "slo_query"⟩ {}
      (Decoder.record SloQuery.ofMembers) (withKind kind (nested m)) = .ok {} :=
    FieldName.optional_absent (hother _ (by decide) (by decide))
      (hother _ (by decide) (by decide)) ..
  have hpurpose : textField "type" "type" (withKind kind (nested m)) = .ok "" :=
    FieldName.optional_absent (hother _ (by decide) (by decide))
      (hother _ (by decide) (by decide)) ..
  have hrecord : Decoder.record MetricQuery.ofMembers (.object m) = MetricQuery.ofMembers m := rfl
  rw [ofMembers, hkind, FieldName.optional_wire hmetric, hrecord, hslo, hpurpose]
  cases MetricQuery.ofMembers m with
  | error ps => rfl
  | ok metric => rfl

theorem ofPayload_nested (hkind : ∀ k ∈ kind, k = "" ∨ k = metricKind) (m : Members Data) :
    ofPayload (withKind kind (nested m)) =
      (((MetricQuery.ofMembers m).below "metricQuery").report model).map
        fun metric => { kind := metricKind, metric := metric } := by
  rw [ofPayload, if_neg (by rw [isFlat_nested]; decide), ofNested, ofMembers_nested]
  cases MetricQuery.ofMembers m with
  | error ps => rfl
  | ok metric =>
    cases kind with
    | none => rfl
    | some k =>
      rcases hkind k rfl with rfl | rfl
      · rfl
      · rfl

/-- A rejection of a metric query that stands below its name in a payload. -/
def inMetricQuery (r : Rejection) : Rejection :=
  ⟨model, r.problems.map fun p => { p with path := "metricQuery" :: p.path }⟩

/-- Both forms are decoded to the same query, or rejected for the same problems. -/
theorem ofPayload_nested_eq (hm : ∀ name ∈ names, m.get? name = none)
    (hkind : ∀ k ∈ kind, k = "" ∨ k = metricKind) :
    ofPayload (withKind kind (nested m)) =
      (ofPayload (withKind kind m)).mapError inMetricQuery := by
  rw [ofPayload_flat hm hkind, ofPayload_nested hkind]
  cases MetricQuery.ofMembers m with
  | error ps => rfl
  | ok metric => rfl

/-- The members of a metric query say the same at the top level of a payload as below their name:
both payloads are decoded or neither is, to the same query, and the same plans are built for them in
any place of a batch. -/
theorem ofPayload_flat_iff (hm : ∀ name ∈ names, m.get? name = none)
    (hkind : ∀ k ∈ kind, k = "" ∨ k = metricKind) :
    (∀ q, ofPayload (withKind kind m) = .ok q ↔ ofPayload (withKind kind (nested m)) = .ok q) ∧
    ∀ (range : TimeRange) (b : BatchQuery) (p : QueryPlan),
      QueryPlan.ofBatchQuery range { b with payload := withKind kind m } = .ok p ↔
        QueryPlan.ofBatchQuery range { b with payload := withKind kind (nested m) } = .ok p := by
  have hforms := ofPayload_nested_eq hm hkind
  constructor
  · intro q
    rw [hforms]
    cases ofPayload (withKind kind m) with
    | error r => exact iff_of_false (by rintro ⟨⟩) (by rintro ⟨⟩)
    | ok query => exact Iff.rfl
  · intro range b p
    rw [QueryPlan.ofBatchQuery, QueryPlan.ofBatchQuery, hforms]
    cases ofPayload (withKind kind m) with
    | error r => exact iff_of_false (by rintro ⟨⟩) (by rintro ⟨⟩)
    | ok query => exact Iff.rfl

/-- A payload in the flat form, as it was saved with other members, and in the nested form. -/
theorem ofPayload_flat_iff_saved :
    ofPayload (withKind (some "")
      [("refId", .text "A"), ("metricType", .text "count"), ("filters", .null)]) =
        .ok { kind := metricKind, metric := { metricType := "count" } } ∧
    ofPayload (withKind (some "")
      (nested [("refId", .text "A"), ("metricType", .text "count"), ("filters", .null)])) =
        .ok { kind := metricKind, metric := { metricType := "count" } } := by
  have hm : ∀ name ∈ names, Members.get? name
      [("refId", Data.text "A"), ("metricType", .text "count"), ("filters", .null)] = none := by
    decide
  have hkind : ∀ k ∈ some "", k = "" ∨ k = metricKind := by
    rintro k ⟨⟩
    exact .inl rfl
  have hflat : ofPayload (withKind (some "")
      [("refId", .text "A"), ("metricType", .text "count"), ("filters", .null)]) =
        .ok { kind := metricKind, metric := { metricType := "count" } } := rfl
  exact ⟨hflat, ((ofPayload_flat_iff hm hkind).1 _).mp hflat⟩

end Query
end MetricFrames
