import MetricFrames.Proofs.Plan.Opening
import MetricFrames.Proofs.Request.Alignment

/-!
# Where an aggregation goes

The parameters of a metric query hold its aggregation in one or two name spaces. With a preprocessor
the first stage belongs to the preprocessor and the second one is what the user chose; without one
there is only a first stage, and it is what the user chose. No part of it is lost, and none is there
twice (`ofMetric_aggregation`).
-/

namespace MetricFrames

/-! ### One stage -/

namespace Aggregation

variable {a : Aggregation} {space : String} {ps : RequestParams}

/-- Whether none of the texts of a stage is empty. -/
structure IsComplete (a : Aggregation) : Prop where
  alignmentPeriod : a.alignmentPeriod ≠ ""
  crossSeriesReducer : a.crossSeriesReducer ≠ ""
  perSeriesAligner : a.perSeriesAligner ≠ ""

/-- The parameters of a stage whose texts are all given. -/
def pairs (a : Aggregation) (space : String) : List (String × String) :=
  [(space ++ ".alignmentPeriod", a.alignmentPeriod),
    (space ++ ".crossSeriesReducer", a.crossSeriesReducer),
    (space ++ ".perSeriesAligner", a.perSeriesAligner)] ++
  a.groupByFields.map (Prod.mk (space ++ ".groupByFields"))

theorem items_addGiven {value : String} (h : value ≠ "") (ps : RequestParams) (name : String) :
    (addGiven ps name value).items = ps.items ++ [(name, value)] := by
  rw [addGiven, if_neg h, RequestParams.items_add]

theorem items_addAll (name : String) (values : List String) (ps : RequestParams) :
    (values.foldl (fun ps value => ps.add name value) ps).items =
      ps.items ++ values.map (Prod.mk name) := by
  induction values generalizing ps with
  | nil => exact (List.append_nil _).symm
  | cons value values ih =>
    rw [List.foldl_cons, ih, RequestParams.items_add, List.append_assoc]
    rfl

theorem items_addTo (ha : a.IsComplete) (space : String) (ps : RequestParams) :
    (a.addTo space ps).items = ps.items ++ a.pairs space := by
  unfold addTo
  dsimp only
  rw [items_addAll, items_addGiven ha.perSeriesAligner, items_addGiven ha.crossSeriesReducer,
    items_addGiven ha.alignmentPeriod, pairs]
  simp only [List.append_assoc, List.cons_append, List.nil_append]

theorem getAll_addGiven_of_ne {name other : String} (h : name ≠ other) (value : String)
    (ps : RequestParams) : (addGiven ps name value).getAll other = ps.getAll other := by
  unfold addGiven
  split
  · rfl
  · rw [RequestParams.getAll_add, if_neg h, List.append_nil]

theorem getAll_addAll_of_ne {name other : String} (h : name ≠ other) (values : List String)
    (ps : RequestParams) :
    (values.foldl (fun ps value => ps.add name value) ps).getAll other = ps.getAll other := by
  induction values generalizing ps with
  | nil => rfl
  | cons value values ih =>
    rw [List.foldl_cons, ih, RequestParams.getAll_add, if_neg h, List.append_nil]

/-- Adding a stage changes nothing outside its name space. -/
theorem getAll_addTo_of_ne (a : Aggregation) {name : String}
    (h : ∀ field ∈ QueryPlan.stageNames, space ++ field ≠ name) (ps : RequestParams) :
    (a.addTo space ps).getAll name = ps.getAll name := by
  have hgroups := h ".groupByFields" (by decide)
  have haligner := h ".perSeriesAligner" (by decide)
  have hreducer := h ".crossSeriesReducer" (by decide)
  have hperiod := h ".alignmentPeriod" (by decide)
  unfold addTo
  dsimp only
  rw [getAll_addAll_of_ne hgroups, getAll_addGiven_of_ne haligner, getAll_addGiven_of_ne hreducer,
    getAll_addGiven_of_ne hperiod]

/-- Whether parameters hold a stage in a name space: each of its texts once, and its groups. -/
structure StandsIn (a : Aggregation) (space : String) (ps : RequestParams) : Prop where
  alignmentPeriod : ps.getAll (space ++ ".alignmentPeriod") = [a.alignmentPeriod]
  crossSeriesReducer : ps.getAll (space ++ ".crossSeriesReducer") = [a.crossSeriesReducer]
  perSeriesAligner : ps.getAll (space ++ ".perSeriesAligner") = [a.perSeriesAligner]
  groupByFields : ps.getAll (space ++ ".groupByFields") = a.groupByFields

/-- Whether no name of a list of parameters begins like those of a name space. -/
def Avoids (items : List (String × String)) (space : String) : Prop :=
  ∀ item ∈ items, ¬ space.toList <+: item.1.toList

theorem filter_eq_nil {items : List (String × String)} (h : Avoids items space) (field : String) :
    items.filter (fun item => item.1 == space ++ field) = [] := by
  refine List.filter_eq_nil_iff.mpr fun item hitem => ?_
  intro heq
  have hname : item.1 = space ++ field := eq_of_beq heq
  apply h item hitem
  rw [hname, String.toList_append]
  exact List.prefix_append _ _

/-- A stage stands in a name space that no other parameter uses. -/
theorem standsIn_of_items {before after : List (String × String)}
    (h : ps.items = before ++ (a.pairs space ++ after)) (hbefore : Avoids before space)
    (hafter : Avoids after space) : a.StandsIn space ps := by
  have hown : ∀ field, ps.getAll (space ++ field) =
      ((a.pairs space).filter fun item => item.1 == space ++ field).map (·.2) := by
    intro field
    rw [RequestParams.getAll, h, List.filter_append, List.filter_append,
      filter_eq_nil hbefore, filter_eq_nil hafter, List.nil_append, List.append_nil]
  constructor
  all_goals
    rw [hown]
    simp [pairs, List.filter_map, Function.comp_def]

theorem forall_mem_pairs (a : Aggregation) (holds : String → Prop)
    (h : ∀ field ∈ QueryPlan.stageNames, holds (space ++ field)) :
    ∀ item ∈ a.pairs space, holds item.1 := by
  intro item hitem
  rw [pairs, List.mem_append, List.mem_map] at hitem
  rcases hitem with hitem | ⟨field, -, rfl⟩
  · simp only [List.mem_cons, List.not_mem_nil, or_false] at hitem
    rcases hitem with rfl | rfl | rfl
    · exact h ".alignmentPeriod" (by decide)
    · exact h ".crossSeriesReducer" (by decide)
    · exact h ".perSeriesAligner" (by decide)
  · exact h ".groupByFields" (by decide)

theorem avoids_append {items items' : List (String × String)} (h : Avoids items space)
    (h' : Avoids items' space) : Avoids (items ++ items') space := by
  intro item hitem
  rcases List.mem_append.mp hitem with hitem | hitem
  · exact h item hitem
  · exact h' item hitem

end Aggregation

/-! ### Both stages -/

namespace AggregationStages

open Aggregation

variable {ps : RequestParams}

theorem getAll_addTo_of_ne (s : AggregationStages) (ps : RequestParams) {name : String}
    (h : ∀ field ∈ QueryPlan.stageNames,
      "aggregation" ++ field ≠ name ∧ "secondaryAggregation" ++ field ≠ name) :
    (s.addTo ps).getAll name = ps.getAll name := by
  have hfirst : ∀ field ∈ QueryPlan.stageNames, "aggregation" ++ field ≠ name :=
    fun field hfield => (h field hfield).1
  have hsecond : ∀ field ∈ QueryPlan.stageNames, "secondaryAggregation" ++ field ≠ name :=
    fun field hfield => (h field hfield).2
  unfold addTo
  dsimp only
  rw [Aggregation.getAll_addTo_of_ne s.primary hfirst]
  cases s.secondary with
  | none => rfl
  | some a => exact Aggregation.getAll_addTo_of_ne a hsecond ps

theorem avoids_primary (a : Aggregation) :
    Avoids (a.pairs "aggregation") "secondaryAggregation" := by
  have hfields : ∀ field ∈ QueryPlan.stageNames,
      ¬ "secondaryAggregation".toList <+: ("aggregation" ++ field).toList := by decide
  exact a.forall_mem_pairs (fun name => ¬ "secondaryAggregation".toList <+: name.toList) hfields

theorem avoids_secondary (a : Aggregation) :
    Avoids (a.pairs "secondaryAggregation") "aggregation" := by
  have hfields : ∀ field ∈ QueryPlan.stageNames,
      ¬ "aggregation".toList <+: ("secondaryAggregation" ++ field).toList := by decide
  exact a.forall_mem_pairs (fun name => ¬ "aggregation".toList <+: name.toList) hfields

/-- A single stage stands in the first name space, and the second one stays empty. -/
theorem standsIn_single {a : Aggregation} (ha : a.IsComplete)
    (hfirst : Avoids ps.items "aggregation") (hsecond : Avoids ps.items "secondaryAggregation") :
    a.StandsIn "aggregation" (addTo ⟨a, none⟩ ps) ∧
      Avoids (addTo ⟨a, none⟩ ps).items "secondaryAggregation" := by
  have hitems : (addTo ⟨a, none⟩ ps).items = ps.items ++ a.pairs "aggregation" :=
    Aggregation.items_addTo ha _ ps
  constructor
  · refine standsIn_of_items ?_ hfirst (List.forall_mem_nil _)
    rw [hitems, List.append_nil]
  · rw [hitems]
    exact avoids_append hsecond (avoids_primary a)

/-- Two stages stand in a name space each. -/
theorem standsIn_both {a b : Aggregation} (ha : a.IsComplete) (hb : b.IsComplete)
    (hfirst : Avoids ps.items "aggregation") (hsecond : Avoids ps.items "secondaryAggregation") :
    a.StandsIn "aggregation" (addTo ⟨a, some b⟩ ps) ∧
      b.StandsIn "secondaryAggregation" (addTo ⟨a, some b⟩ ps) := by
  have hitems : (addTo ⟨a, some b⟩ ps).items =
      ps.items ++ b.pairs "secondaryAggregation" ++ a.pairs "aggregation" := by
    rw [← Aggregation.items_addTo hb]
    exact Aggregation.items_addTo ha _ _
  constructor
  · refine standsIn_of_items ?_ (avoids_append hfirst (avoids_secondary b)) (List.forall_mem_nil _)
    rw [hitems, List.append_nil]
  · refine standsIn_of_items ?_ hsecond (avoids_primary a)
    rw [hitems, List.append_assoc]

end AggregationStages

/-! ### All parameters of a query -/

namespace MetricQuery

/-- The stage that the user chose, with the defaults for what was left open. -/
def chosenStage (q : MetricQuery) (period : String) : Aggregation where
  alignmentPeriod := period
  crossSeriesReducer := if q.crossSeriesReducer = "" then "REDUCE_NONE" else q.crossSeriesReducer
  perSeriesAligner := if q.perSeriesAligner = "" then "ALIGN_MEAN" else q.perSeriesAligner
  groupByFields := q.groupBys

/-- The stage of a preprocessor before it. Without groups there is nothing to reduce in it. -/
def preparingStage (q : MetricQuery) (period aligner : String) : Aggregation where
  alignmentPeriod := period
  crossSeriesReducer :=
    if q.groupBys = [] then "REDUCE_NONE" else (q.chosenStage period).crossSeriesReducer
  perSeriesAligner := aligner
  groupByFields := q.groupBys

theorem isComplete_chosenStage (q : MetricQuery) {period : String} (h : period ≠ "") :
    (q.chosenStage period).IsComplete := by
  refine ⟨h, ?_, ?_⟩
  all_goals
    unfold chosenStage
    dsimp only
    split
    · decide
    · assumption

theorem isComplete_preparingStage (q : MetricQuery) {period aligner : String} (h : period ≠ "")
    (haligner : aligner ≠ "") : (q.preparingStage period aligner).IsComplete := by
  refine ⟨h, ?_, haligner⟩
  unfold preparingStage
  dsimp only
  split
  · decide
  · exact (q.isComplete_chosenStage h).crossSeriesReducer

end MetricQuery

namespace QueryPlan

variable {refId : String} {q : MetricQuery} {range : TimeRange} {intervalMs : Int} {p : QueryPlan}

/-- The aligner that a preprocessor stands for. -/
def preparingAligner (preprocessor : String) : String :=
  if preprocessor = "rate" then "ALIGN_RATE" else "ALIGN_DELTA"

theorem preparingAligner_ne_empty (preprocessor : String) : preparingAligner preprocessor ≠ "" := by
  unfold preparingAligner
  split <;> decide

/-- The stages of a metric query, by its preprocessor. -/
theorem stages_of_ofMetric {seconds : Int} {stages : AggregationStages}
    (h : AggregationStages.ofMetric q seconds intervalMs = .ok stages) :
    ∃ period, Alignment.period q.alignmentPeriod intervalMs seconds = .ok period ∧
      ((q.preprocessor = "rate" ∨ q.preprocessor = "delta") ∧
          stages = ⟨q.preparingStage period (preparingAligner q.preprocessor),
            some (q.chosenStage period)⟩ ∨
        ¬ (q.preprocessor = "rate" ∨ q.preprocessor = "delta") ∧
          stages = ⟨q.chosenStage period, none⟩) := by
  obtain ⟨period, hperiod, rfl⟩ := exists_of_map_eq_ok h
  refine ⟨period, hperiod, ?_⟩
  simp only [MetricQuery.preprocessing, MetricQuery.preparingStage, MetricQuery.chosenStage,
    preparingAligner, Aggregation.given, Aggregation.defaultReducer, Aggregation.defaultAligner,
    List.isEmpty_iff]
  by_cases hrate : q.preprocessor = "rate"
  · simp [hrate]
  · by_cases hdelta : q.preprocessor = "delta"
    · simp [hdelta]
    · simp [hrate, hdelta]

theorem items_rangeParams {ps : RequestParams} (h : rangeParams range = .ok ps) :
    ∃ start stop, range.start.rfc3339 = .ok start ∧ range.stop.rfc3339 = .ok stop ∧
      ps.items = [("interval.startTime", start), ("interval.endTime", stop)] := by
  obtain ⟨start, hstart, h⟩ := exists_of_bind_eq_ok h
  obtain ⟨stop, hstop, h⟩ := exists_of_bind_eq_ok h
  cases h
  exact ⟨start, stop, hstart, hstop, rfl⟩

/-- The parameters of a plan are its range of time, its filter, its view and its stages. -/
theorem exists_of_ofMetric (h : ofMetric refId q range intervalMs = .ok p) :
    ∃ start stop filter seconds stages,
      range.start.rfc3339 = .ok start ∧ range.stop.rfc3339 = .ok stop ∧
      Filter.build q.metricType q.filters = .ok filter ∧ range.seconds = .ok seconds ∧
      AggregationStages.ofMetric q seconds intervalMs = .ok stages ∧
      ∃ ps : RequestParams, p.params = stages.addTo ps ∧ ps.items =
        [("interval.startTime", start), ("interval.endTime", stop), ("filter", filter),
          ("view", if q.view = "" then "FULL" else q.view)] := by
  obtain ⟨params, hparams, h⟩ := exists_of_bind_eq_ok h
  obtain ⟨start, stop, hstart, hstop, hitems⟩ := items_rangeParams (eq_of_orFault_eq_ok hparams)
  dsimp only at h
  cases hbuild : Filter.build q.metricType q.filters with
  | error m =>
    rw [hbuild] at h
    obtain ⟨filter, hf, -⟩ := exists_of_bind_eq_ok h
    cases hf
  | ok filter =>
    rw [hbuild] at h
    obtain ⟨filter', hf, h⟩ := exists_of_bind_eq_ok h
    cases hf
    obtain ⟨seconds, hseconds, h⟩ := exists_of_bind_eq_ok h
    obtain ⟨stages, hstages, h⟩ := exists_of_bind_eq_ok h
    cases h
    refine ⟨start, stop, filter, seconds, stages, hstart, hstop, rfl,
      eq_of_orFault_eq_ok hseconds, eq_of_orFault_eq_ok hstages, _, rfl, ?_⟩
    rw [RequestParams.items_add, RequestParams.items_add, hitems]
    rfl

/-- The parameters of a metric query hold its range of time, its filter and its view once each. A
preprocessor takes the first stage and leaves the second one to the user, and the reducer of the
first one too if there is something to reduce by; without one the user has the first stage, and
there is no second one. Both stages have one period, which is not empty, and the groups in order. No
other name occurs. -/
theorem ofMetric_aggregation (h : ofMetric refId q range intervalMs = .ok p) :
    ∃ start stop filter seconds period,
      range.start.rfc3339 = .ok start ∧ range.stop.rfc3339 = .ok stop ∧
      Filter.build q.metricType q.filters = .ok filter ∧ range.seconds = .ok seconds ∧
      Alignment.period q.alignmentPeriod intervalMs seconds = .ok period ∧ period ≠ "" ∧
      p.params.getAll "interval.startTime" = [start] ∧
      p.params.getAll "interval.endTime" = [stop] ∧
      p.params.getAll "filter" = [filter] ∧
      p.params.getAll "view" = [if q.view = "" then "FULL" else q.view] ∧
      (q.preprocessor = "rate" ∨ q.preprocessor = "delta" →
        (q.preparingStage period (preparingAligner q.preprocessor)).StandsIn
          "aggregation" p.params ∧
        (q.chosenStage period).StandsIn "secondaryAggregation" p.params) ∧
      (¬ (q.preprocessor = "rate" ∨ q.preprocessor = "delta") →
        (q.chosenStage period).StandsIn "aggregation" p.params ∧
        Aggregation.Avoids p.params.items "secondaryAggregation") ∧
      HasFixedNames p.params := by
  obtain ⟨start, stop, filter, seconds, stages, hstart, hstop, hfilter, hseconds, hstages, ps,
    hparams, hitems⟩ := exists_of_ofMetric h
  obtain ⟨period, hperiod, hcases⟩ := stages_of_ofMetric hstages
  have hne := Alignment.period_ne_empty hperiod
  have hchosen := q.isComplete_chosenStage hne
  have hpreparing := q.isComplete_preparingStage hne (preparingAligner_ne_empty q.preprocessor)
  have hfirst : Aggregation.Avoids ps.items "aggregation" := by
    unfold Aggregation.Avoids
    rw [hitems]
    simp only [List.forall_mem_cons]
    decide
  have hsecond : Aggregation.Avoids ps.items "secondaryAggregation" := by
    unfold Aggregation.Avoids
    rw [hitems]
    simp only [List.forall_mem_cons]
    decide
  have hbeside : ∀ name, (∀ field ∈ stageNames,
      "aggregation" ++ field ≠ name ∧ "secondaryAggregation" ++ field ≠ name) →
      p.params.getAll name = (List.filter (fun item => item.1 == name)
        [("interval.startTime", start), ("interval.endTime", stop), ("filter", filter),
          ("view", if q.view = "" then "FULL" else q.view)]).map (·.2) := by
    intro name hname
    rw [hparams, stages.getAll_addTo_of_ne ps hname, RequestParams.getAll, hitems]
  refine ⟨start, stop, filter, seconds, period, hstart, hstop, hfilter, hseconds, hperiod, hne,
    hbeside _ (by decide), hbeside _ (by decide), hbeside _ (by decide), hbeside _ (by decide),
    ?_, ?_, hasFixedNames_ofMetric h⟩
  · intro hpreprocessor
    rw [hparams]
    rcases hcases with ⟨-, rfl⟩ | ⟨hnone, -⟩
    · exact AggregationStages.standsIn_both hpreparing hchosen hfirst hsecond
    · exact absurd hpreprocessor hnone
  · intro hnone
    rw [hparams]
    rcases hcases with ⟨hpreprocessor, -⟩ | ⟨-, rfl⟩
    · exact absurd hpreprocessor hnone
    · exact AggregationStages.standsIn_single hchosen hfirst hsecond

/-- A query that counts changes by zone, with the zone given twice. -/
def changesByZone : MetricQuery where
  metricType := "count"
  crossSeriesReducer := "REDUCE_SUM"
  groupBys := ["zone", "zone"]
  preprocessor := "delta"

/-- The preprocessor takes the first aligner, and what the user left open is averaged after it. -/
theorem ofMetric_aggregation_delta : ∃ p,
    ofMetric "A" changesByZone ⟨.unixStart none, .unixStart none⟩ 0 = .ok p ∧
    p.params.getAll "aggregation.perSeriesAligner" = ["ALIGN_DELTA"] ∧
    p.params.getAll "aggregation.crossSeriesReducer" = ["REDUCE_SUM"] ∧
    p.params.getAll "secondaryAggregation.perSeriesAligner" = ["ALIGN_MEAN"] ∧
    p.params.getAll "secondaryAggregation.groupByFields" = ["zone", "zone"] := by
  obtain ⟨p, hp⟩ := exists_of_toBool (show
    (ofMetric "A" changesByZone ⟨.unixStart none, .unixStart none⟩ 0).toBool = true by
      decide +kernel)
  obtain ⟨start, stop, filter, seconds, period, -, -, -, -, -, -, -, -, -, -, hboth, -⟩ :=
    ofMetric_aggregation hp
  obtain ⟨hfirst, hsecond⟩ := hboth (.inr rfl)
  exact ⟨p, hp, hfirst.perSeriesAligner, hfirst.crossSeriesReducer, hsecond.perSeriesAligner,
    hsecond.groupByFields⟩

end QueryPlan
end MetricFrames
