import MetricFrames.Proofs.Data.Stepwise
import MetricFrames.Proofs.Plan.Running

/-!
# The project of a plan

A query may leave its project to the datasource. The plan of such a query runs in the default
project as if that were its own (`run_within`), and its frames are the same unless its legend
mentions the project (`frames_within`). The filter of a query against an objective names the project
of the query, though, whatever project the plan runs in (`ofSlo_eq`).
-/

namespace MetricFrames

/-! ### Queries and their projects -/

/-- The metric query for a project. -/
def MetricQuery.inProject (q : MetricQuery) (d : String) : MetricQuery :=
  { q with projectName := d }

/-- The query against an objective for a project. -/
def SloQuery.inProject (q : SloQuery) (d : String) : SloQuery := { q with projectName := d }

namespace Query

/-- The project that a query names itself. -/
def ownProject (q : Query) : String :=
  if q.kind = sloKind then q.slo.projectName else q.metric.projectName

/-- The same query for a project. -/
def inProject (q : Query) (d : String) : Query :=
  if q.kind = sloKind then { q with slo := q.slo.inProject d }
  else { q with metric := q.metric.inProject d }

end Query

/-! ### Legends -/

/-- Whether a template has a placeholder with a name. -/
def Template.Mentions (template name : String) : Prop :=
  ∃ written, Segment.slot name.toList written ∈ segments template.toList

theorem Template.expand_congr {resolve resolve' : List Char → Option (List Char)}
    {template : List Char}
    (h : ∀ name written, .slot name written ∈ segments template → resolve name = resolve' name) :
    expand resolve template = expand resolve' template := by
  rw [expand, expand]
  refine List.flatMap_congr fun segment hmem => ?_
  cases segment with
  | literal c => rfl
  | slot name written => rw [Segment.expand, Segment.expand, h name written hmem]

theorem Legend.name_project {l : Legend} (h : ¬ Template.Mentions l.template "project")
    (d metricType defaultName : String) (labels additional : Members String) :
    ({ l with project := d } : Legend).name metricType defaultName labels additional =
      l.name metricType defaultName labels additional := by
  have hresolve : ∀ name, name ≠ "project".toList →
      ({ l with project := d } : Legend).resolve? metricType labels additional name =
        l.resolve? metricType labels additional name := by
    intro name hname
    rw [resolve?, resolve?, lookup?, lookup?, if_neg hname, if_neg hname]
  rw [name, name]
  split
  · rfl
  · refine congrArg _ (Template.expand_congr fun name written hmem => hresolve name ?_)
    rintro rfl
    exact h ⟨written, hmem⟩

namespace QueryPlan

/-! ### Frames -/

/-- The plan for a project. -/
def within (p : QueryPlan) (d : String) : QueryPlan := { p with projectName := d }

theorem legend_within (p : QueryPlan) (d : String) :
    (p.within d).legend = { p.legend with project := d } := by
  rw [legend, legend, within]
  cases p.shape <;> rfl

theorem template_legend (p : QueryPlan) : p.legend.template = p.aliasBy := by
  rw [legend]
  cases p.shape <;> rfl

/-- Where the frames of a series come from, for a project. -/
def FrameSource.within (s : FrameSource) (d : String) : FrameSource :=
  { s with legend := { s.legend with project := d } }

section

variable {s : FrameSource} {p : QueryPlan} (d : String)

theorem FrameSource.valueFrame_within (h : ¬ Template.Mentions s.legend.template "project") :
    (s.within d).valueFrame = s.valueFrame := by
  funext labels samples
  rw [valueFrame, valueFrame, within, Legend.name_project h]

theorem FrameSource.bucketFrames_within (h : ¬ Template.Mentions s.legend.template "project") :
    (s.within d).bucketFrames = s.bucketFrames := by
  have hbucket : (s.within d).bucketFrame = s.bucketFrame := by
    funext labels b
    rw [bucketFrame, bucketFrame, within, Legend.name_project h]
  funext labels points
  rw [bucketFrames, bucketFrames, hbucket]

theorem columnFrames_within (h : ¬ Template.Mentions s.legend.template "project") :
    columnFrames (s.within d) = columnFrames s := by
  funext labels column n row
  rw [columnFrames, columnFrames, FrameSource.valueFrame_within d h,
    FrameSource.bucketFrames_within d h]

theorem readSeries_within (h : ¬ Template.Mentions p.aliasBy "project") :
    (p.within d).readSeries = p.readSeries := by
  funext executed series
  let source : FrameSource :=
    ⟨p.refId, p.legend, executed, series.metric.type, seriesName p.groupBys series⟩
  have hsource : ¬ Template.Mentions source.legend.template "project" := by
    rwa [template_legend]
  rw [readSeries, readSeries, legend_within]
  show (Reading.ofLabels (seriesLabels series).seen).andThen (.ofFrames
    (if series.valueType = distributionType then (source.within d).bucketFrames _ _
      else .ok [(source.within d).valueFrame _ _])) = _
  rw [FrameSource.bucketFrames_within d hsource, FrameSource.valueFrame_within d hsource]

theorem readRow_within (h : ¬ Template.Mentions p.aliasBy "project") :
    (p.within d).readRow = p.readRow := by
  have hcolumn : (p.within d).readColumn = p.readColumn := by
    funext executed labels row column n
    let source : FrameSource := ⟨p.refId, p.legend, executed, column.key, column.key⟩
    have hsource : ¬ Template.Mentions source.legend.template "project" := by
      rwa [template_legend]
    rw [readColumn, readColumn, legend_within]
    show (Reading.ofLabels [(columnNameLabel, column.key)]).andThen
      (.ofFrames (columnFrames (source.within d) _ column n row)) = _
    rw [columnFrames_within d hsource]
  funext executed descriptor row
  rw [readRow, readRow, hcolumn]

theorem readParts_within (h : ¬ Template.Mentions p.aliasBy "project") :
    (p.within d).readParts = p.readParts := by
  funext executed answer
  cases answer with
  | series page => rw [readParts, readParts, readSeries_within d h]
  | table page => rw [readParts, readParts, readRow_within d h]

end

/-! ### Runs in the default project -/

section

variable {p : QueryPlan} {d : String}

theorem decorate_within (hne : d ≠ "") (p : QueryPlan) (answer : QueryAnswer) (r : Reading) :
    (p.within d).decorate (.text d) answer r = p.decorate (.text d) answer r := by
  -- The link goes to the project that the plan ran in; its own one is not looked at.
  have hlink : (p.within d).link (.text d) = p.link (.text d) := by
    have hd : ∀ fallback, (Data.text d).orElse fallback = .text d :=
      fun fallback => if_pos (decide_eq_true hne)
    rw [link, link, hd, hd]
    rfl
  rw [decorate, decorate, hlink]
  rfl

theorem frames_within (hne : d ≠ "") (h : ¬ Template.Mentions p.aliasBy "project")
    (executed : String) (answer : QueryAnswer) :
    (p.within d).frames (.text d) executed answer = p.frames (.text d) executed answer := by
  rw [frames, frames, readParts_within d h]
  cases (p.readParts executed answer).fault with
  | some f => rfl
  | none =>
    dsimp only
    rw [decorate_within hne]

theorem project_of_default {i : Instance} (hi : i.UsesHostToken)
    (hd : i.settings.defaultProject = .text d) (hp : p.projectName = "") (s : Surroundings) :
    p.project s i = pure (.text d) := by
  rw [project, if_neg (not_not_intro hp), Instance.defaultProject_eq hi, hd]
  rfl

theorem project_within (hne : d ≠ "") (p : QueryPlan) (s : Surroundings) (i : Instance) :
    (p.within d).project s i = pure (.text d) := by
  rw [project]
  exact if_pos hne

theorem run_within {i : Instance} (hi : i.UsesHostToken)
    (hd : i.settings.defaultProject = .text d) (hne : d ≠ "") (hp : p.projectName = "")
    (s : Surroundings) : (p.within d).run s i = p.run s i := by
  rw [run, run, project_within hne, project_of_default hi hd hp]
  rfl

end

/-! ### Building plans for a project -/

/-- What is added to parameters does not depend on those that are there. -/
def Appends (f : RequestParams → RequestParams) : Prop :=
  ∀ ps, (f ps).items = ps.items ++ (f {}).items

namespace Appends

variable {f g : RequestParams → RequestParams}

theorem id : Appends fun ps => ps := fun _ => (List.append_nil _).symm

theorem add (name value : String) : Appends fun ps => ps.add name value := fun _ => rfl

theorem comp (hf : Appends f) (hg : Appends g) : Appends fun ps => g (f ps) := by
  intro ps
  dsimp only
  rw [hg (f ps), hf, hg (f {}), List.append_assoc]

theorem addGiven (name value : String) : Appends fun ps => Aggregation.addGiven ps name value := by
  unfold Aggregation.addGiven
  split
  · exact id
  · exact add name value

theorem addAll (name : String) (values : List String) :
    Appends fun ps => values.foldl (fun ps value => ps.add name value) ps := by
  induction values with
  | nil => exact id
  | cons value values ih => exact (add name value).comp ih

theorem aggregation (a : Aggregation) (space : String) : Appends fun ps => a.addTo space ps :=
  (((addGiven _ a.alignmentPeriod).comp (addGiven _ a.crossSeriesReducer)).comp
    (addGiven _ a.perSeriesAligner)).comp (addAll _ a.groupByFields)

theorem stages (s : AggregationStages) : Appends s.addTo := by
  have hsecondary : Appends fun ps =>
      (s.secondary.map fun a => a.addTo "secondaryAggregation" ps).getD ps := by
    cases s.secondary with
    | none => exact id
    | some a => exact aggregation a _
  exact hsecondary.comp (aggregation s.primary _)

end Appends

theorem ofMetric_inProject (refId : String) (q : MetricQuery) (range : TimeRange)
    (intervalMs : Int) (d : String) :
    ofMetric refId (q.inProject d) range intervalMs =
      (ofMetric refId q range intervalMs).map fun p => p.within d := by
  show _ = (fun p => p.within d) <$> ofMetric refId q range intervalMs
  have hfilter : Filter.build (q.inProject d).metricType (q.inProject d).filters =
      Filter.build q.metricType q.filters := rfl
  rw [ofMetric, ofMetric, map_bind]
  refine bind_congr fun params => ?_
  dsimp only
  rw [hfilter]
  cases Filter.build q.metricType q.filters with
  | error m => rfl
  | ok filter =>
    dsimp only
    rw [map_bind]
    refine bind_congr fun filter => ?_
    rw [map_bind]
    refine bind_congr fun seconds => ?_
    rw [map_bind]
    exact bind_congr fun stages => rfl

/-- The parameters of a query against an objective, before and after its filter. -/
def paramsAround (q : SloQuery) (range : TimeRange) (intervalMs : Int) :
    Except Failure (List (String × String) × List (String × String)) := do
  let params ← orFault (rangeParams range)
  let seconds ← orFault range.seconds
  let stages ← orFault (AggregationStages.ofSlo q seconds intervalMs)
  return (params.items, (stages.addTo {}).items)

/-- The plan of a query against an objective, by the parameters around its filter. -/
def ofParamsAround (refId : String) (q : SloQuery) (range : TimeRange) (intervalMs : Int)
    (around : List (String × String) × List (String × String)) : QueryPlan :=
  ⟨refId, range, intervalMs, q.projectName, q.aliasBy,
    .objective ⟨around.1 ++ ("filter", Filter.objective q) :: around.2⟩ q.serviceId q.sloId
      q.selectorName⟩

theorem ofSlo_eq (refId : String) (q : SloQuery) (range : TimeRange) (intervalMs : Int) :
    ofSlo refId q range intervalMs =
      (paramsAround q range intervalMs).map (ofParamsAround refId q range intervalMs) := by
  show _ = ofParamsAround refId q range intervalMs <$> paramsAround q range intervalMs
  rw [ofSlo, paramsAround, map_bind]
  refine bind_congr fun params => ?_
  rw [map_bind]
  refine bind_congr fun seconds => ?_
  rw [map_bind]
  refine bind_congr fun stages => ?_
  have hitems : stages.addTo (params.add "filter" (Filter.objective q)) =
      ⟨params.items ++ ("filter", Filter.objective q) :: (stages.addTo {}).items⟩ := by
    have h := Appends.stages stages (params.add "filter" (Filter.objective q))
    rw [RequestParams.items_add, List.append_assoc] at h
    exact congrArg RequestParams.mk h
  rw [hitems]
  rfl

theorem objective_ne {q : SloQuery} {d : String} (hq : q.projectName = "") (hne : d ≠ "") :
    Filter.objective q ≠ Filter.objective (q.inProject d) := by
  intro h
  have hlen := congrArg String.length h
  simp only [Filter.objective, SloQuery.inProject, hq, String.length_append] at hlen
  have hzero : d.length = 0 := by
    have hempty : "".length = 0 := rfl
    omega
  exact hne (String.length_eq_zero_iff.mp hzero)

theorem seriesMessage_ne {before after : List (String × String)} {name value value' : String}
    (hne : value ≠ value') (project token : String) :
    seriesMessage project ⟨before ++ (name, value) :: after⟩ token ≠
      seriesMessage project ⟨before ++ (name, value') :: after⟩ token := by
  intro h
  have hquery := congrArg Instance.Message.query h
  have hsorted : (⟨before ++ (name, value) :: after⟩ : RequestParams).sorted =
      (⟨before ++ (name, value') :: after⟩ : RequestParams).sorted :=
    List.append_cancel_right (Option.some.inj hquery)
  have hperm : List.Perm (before ++ (name, value) :: after)
      (before ++ (name, value') :: after) := by
    have hs := List.mergeSort_perm (before ++ (name, value) :: after) fun p q => p.1 ≤ q.1
    have hs' := List.mergeSort_perm (before ++ (name, value') :: after) fun p q => p.1 ≤ q.1
    exact hs.symm.trans ((List.Perm.of_eq hsorted).trans hs')
  -- Sorting keeps how often a value occurs, and the first value occurs once more on one side.
  have hcount := hperm.count_eq (name, value)
  have hother : ((name, value') == (name, value)) = false := by simp [hne.symm]
  simp only [List.count_append, List.count_cons, hother] at hcount
  simp at hcount

/-! ### Plans of queries -/

/-- A query that is not against an objective has the same plan for every project, but for the
project itself. -/
theorem ofQuery_inProject {q : Query} (hk : q.kind ≠ Query.sloKind) (d : String) (b : BatchQuery)
    (range : TimeRange) :
    ofQuery b (q.inProject d) range = (ofQuery b q range).map fun p => p.within d := by
  have hwritten : (q.metric.inProject d).isWritten = q.metric.isWritten := rfl
  rw [Query.inProject, if_neg hk, ofQuery, ofQuery]
  dsimp only
  rw [hwritten]
  by_cases hm : q.kind = Query.metricKind
  · rw [if_pos hm, if_pos hm]
    cases q.metric.isWritten with
    | true => rfl
    | false => exact ofMetric_inProject b.refId q.metric range b.intervalMs d
  · rw [if_neg hm, if_neg hm, if_neg hk]
    rfl

theorem projectName_ofQuery {q : Query} (hk : q.kind ≠ Query.sloKind) {b : BatchQuery}
    {range : TimeRange} {p : QueryPlan} (h : ofQuery b q range = .ok p) :
    p.projectName = q.ownProject := by
  have hown : q.inProject q.ownProject = q := by
    rw [Query.ownProject, Query.inProject, if_neg hk, if_neg hk]
    rfl
  have hsame := ofQuery_inProject hk q.ownProject b range
  rw [hown, h] at hsame
  exact congrArg projectName (Except.ok.inj hsame)

theorem ofQuery_slo {q : Query} (hk : q.kind = Query.sloKind) (b : BatchQuery) (range : TimeRange) :
    ofQuery b q range = (paramsAround q.slo range b.intervalMs).map
      (ofParamsAround b.refId q.slo range b.intervalMs) := by
  have hm : q.kind ≠ Query.metricKind := by
    rw [hk]
    decide
  rw [ofQuery, if_neg hm, if_pos hk, ofSlo_eq]

theorem ofQuery_slo_inProject {q : Query} (hk : q.kind = Query.sloKind) (d : String)
    (b : BatchQuery) (range : TimeRange) :
    ofQuery b (q.inProject d) range = (paramsAround q.slo range b.intervalMs).map
      (ofParamsAround b.refId (q.slo.inProject d) range b.intervalMs) := by
  have hkind : (q.inProject d).kind = Query.sloKind := by
    rw [Query.inProject, if_pos hk]
    exact hk
  have hslo : (q.inProject d).slo = q.slo.inProject d := by
    rw [Query.inProject, if_pos hk]
  rw [ofQuery_slo hkind, hslo]
  rfl

end QueryPlan
end MetricFrames
