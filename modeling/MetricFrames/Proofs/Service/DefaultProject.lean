import MetricFrames.Proofs.Plan.Projects
import MetricFrames.Proofs.Service.Answering

/-!
# Queries that leave their project to the datasource

A metric query without a project comes to the same as the same query for the default project of its
datasource: the same requests, and, unless its legend mentions the project, the same result. A query
against an objective does not: its filter names no project at all (`answerPlan_inProject`).
-/

namespace MetricFrames.Service

open Work

variable {i : Instance} {d : String} {p : QueryPlan} {s : Surroundings} {e e' : Exchange}

theorem record_resultOf (read : List Frame × Option Failure) (e : Exchange) :
    ((resultOf read).runFrom e).2 = e := by
  obtain ⟨frames, _ | x⟩ := read
  · rfl
  · cases x <;> rfl

theorem project_of_run {finished : QueryPlan.Finished} {project : Data}
    (hproject : p.project s i = pure project)
    (h : (p.run s i).runFrom e = (.ok finished, e')) : finished.project = project := by
  rw [QueryPlan.run, hproject, pure_bind] at h
  obtain ⟨executed, e₁, -, h⟩ := exists_of_runFrom_bind_ok h
  obtain ⟨answer, e₂, -, h⟩ := exists_of_runFrom_bind_ok h
  cases h
  rfl

section

variable (hi : i.UsesHostToken) (hd : i.settings.defaultProject = .text d) (hne : d ≠ "")
  (hp : p.projectName = "")

include hi hd hne hp

theorem record_answerPlan_within (s : Surroundings) (e : Exchange) :
    ((answerPlan s i p).runFrom e).2 = ((answerPlan s i (p.within d)).runFrom e).2 := by
  cases hc : isCancelled s e with
  | true =>
    rw [answerPlan, answerPlan, runFrom_bind_error (runFrom_checkCancelled_true hc _),
      runFrom_bind_error (runFrom_checkCancelled_true hc _)]
  | false =>
    rw [runFrom_answerPlan hc, runFrom_answerPlan hc, QueryPlan.run_within hi hd hne hp]
    rcases (p.run s i).runFrom e with ⟨x | finished, e₁⟩
    · cases x <;> rfl
    · dsimp only
      rw [record_resultOf, record_resultOf]

theorem answerPlan_within (h : ¬ Template.Mentions p.aliasBy "project") (s : Surroundings)
    (e : Exchange) :
    (answerPlan s i p).runFrom e = (answerPlan s i (p.within d)).runFrom e := by
  cases hc : isCancelled s e with
  | true =>
    rw [answerPlan, answerPlan, runFrom_bind_error (runFrom_checkCancelled_true hc _),
      runFrom_bind_error (runFrom_checkCancelled_true hc _)]
    rfl
  | false =>
    rw [runFrom_answerPlan hc, runFrom_answerPlan hc, QueryPlan.run_within hi hd hne hp]
    rcases hrun : (p.run s i).runFrom e with ⟨x | finished, e₁⟩
    · cases x <;> rfl
    · have hproject := project_of_run (QueryPlan.project_of_default hi hd hp s) hrun
      dsimp only
      rw [hproject, QueryPlan.frames_within hne h]

end

/-- A query without a project, and the same query for the default project of the datasource. Both
are built or both are refused, in the same way. Metric queries send the same requests, and they have
the same result if their legend does not mention the project. Queries against an objective differ in
their filter, so they never send the same message. -/
theorem answerPlan_inProject (hi : i.UsesHostToken) (hd : i.settings.defaultProject = .text d)
    (hne : d ≠ "") {q : Query} (hq : q.ownProject = "") (b : BatchQuery) (range : TimeRange) :
    (∀ x, QueryPlan.ofQuery b q range = .error x ↔
      QueryPlan.ofQuery b (q.inProject d) range = .error x) ∧
    ∀ p p', QueryPlan.ofQuery b q range = .ok p →
      QueryPlan.ofQuery b (q.inProject d) range = .ok p' →
      (q.kind = Query.metricKind →
        (∀ s e, ((answerPlan s i p).runFrom e).2 = ((answerPlan s i p').runFrom e).2) ∧
        (¬ Template.Mentions p.aliasBy "project" →
          ∀ s e, (answerPlan s i p).runFrom e = (answerPlan s i p').runFrom e)) ∧
      (q.kind = Query.sloKind →
        (∃ before after,
          p.params.items = before ++ ("filter", Filter.objective q.slo) :: after ∧
          p'.params.items =
            before ++ ("filter", Filter.objective (q.slo.inProject d)) :: after) ∧
        ∀ project executed executed' token,
          p.message project executed token ≠ p'.message project executed' token) := by
  by_cases hk : q.kind = Query.sloKind
  · have hm : q.kind ≠ Query.metricKind := by
      rw [hk]
      decide
    have hown : q.slo.projectName = "" := by rwa [Query.ownProject, if_pos hk] at hq
    rw [QueryPlan.ofQuery_slo hk, QueryPlan.ofQuery_slo_inProject hk]
    cases QueryPlan.paramsAround q.slo range b.intervalMs with
    | error y => exact ⟨fun x => Iff.rfl, fun p p' h => by cases h⟩
    | ok around =>
      refine ⟨fun x => iff_of_false (by rintro ⟨⟩) (by rintro ⟨⟩), fun p p' h h' => ?_⟩
      cases h
      cases h'
      refine ⟨fun hmetric => absurd hmetric hm, fun _ => ⟨⟨around.1, around.2, rfl, rfl⟩, ?_⟩⟩
      intro project executed executed' token
      exact QueryPlan.seriesMessage_ne (QueryPlan.objective_ne hown hne) project token
  · rw [QueryPlan.ofQuery_inProject hk]
    cases hplan : QueryPlan.ofQuery b q range with
    | error y => exact ⟨fun x => Iff.rfl, fun p p' h => by cases h⟩
    | ok p =>
      have hp : p.projectName = "" := (QueryPlan.projectName_ofQuery hk hplan).trans hq
      refine ⟨fun x => iff_of_false (by rintro ⟨⟩) (by rintro ⟨⟩), fun p₁ p' h h' => ?_⟩
      cases h
      cases h'
      exact ⟨fun _ => ⟨record_answerPlan_within hi hd hne hp, answerPlan_within hi hd hne hp⟩,
        fun hslo => absurd hslo hk⟩

/-- An instance whose datasource has a default project. -/
def defaulting (d : String) : Instance :=
  { Instance.bare with settings := { plain := [("defaultProject", .text d)] } }

theorem usesHostToken_defaulting (d : String) : (defaulting d).UsesHostToken :=
  ⟨rfl, Instance.usesHostToken_bare.bearer⟩

/-- A metric query without a project. -/
def countQuery : Query := { kind := Query.metricKind, metric := { metricType := "count" } }

/-- A query against an objective without a project. -/
def healthQuery : Query where
  kind := Query.sloKind
  slo := { selectorName := "select_slo_health", serviceId := "checkout", sloId := "availability" }

/-- The place of a query in a batch. -/
def place : BatchQuery := .written "A" ""

/-- A metric query comes to the same in the default project. -/
theorem answerPlan_inProject_count : ∃ p p',
    QueryPlan.ofQuery place countQuery place.timeRange = .ok p ∧
    QueryPlan.ofQuery place (countQuery.inProject "d") place.timeRange = .ok p' ∧
    ∀ s e, (answerPlan s (defaulting "d") p).runFrom e =
      (answerPlan s (defaulting "d") p').runFrom e := by
  have halias : (QueryPlan.ofQuery place countQuery place.timeRange).toOption.map (·.aliasBy) =
      some "" := by decide +kernel
  have hsegments : Template.segments "".toList = [] := by decide +kernel
  obtain ⟨herror, hplans⟩ := answerPlan_inProject (d := "d") (q := countQuery)
    (usesHostToken_defaulting "d") rfl (by decide) rfl place place.timeRange
  cases hp : QueryPlan.ofQuery place countQuery place.timeRange with
  | error x =>
    rw [hp] at halias
    cases halias
  | ok p =>
    rw [hp] at halias
    have hunmentioned : ¬ Template.Mentions p.aliasBy "project" := by
      have hempty : p.aliasBy = "" := Option.some.inj halias
      rintro ⟨written, hmem⟩
      rw [hempty, hsegments] at hmem
      cases hmem
    cases hp' : QueryPlan.ofQuery place (countQuery.inProject "d") place.timeRange with
    | error x =>
      have hx := (herror x).mpr hp'
      rw [hp] at hx
      cases hx
    | ok p' => exact ⟨p, p', rfl, rfl, ((hplans p p' hp hp').1 rfl).2 hunmentioned⟩

/-- The filter of an objective in a project. -/
def healthFilter (project : String) : String :=
  "select_slo_health(\"projects/" ++ project ++
    "/services/checkout/serviceLevelObjectives/availability\")"

/-- A query against an objective asks for the objective of no project, unless it names one
itself. -/
theorem answerPlan_inProject_health : ∃ p p',
    QueryPlan.ofQuery place healthQuery place.timeRange = .ok p ∧
    QueryPlan.ofQuery place (healthQuery.inProject "d") place.timeRange = .ok p' ∧
    p.params.get "filter" = healthFilter "" ∧ p'.params.get "filter" = healthFilter "d" ∧
    ∀ token, p.message "d" "" token ≠ p'.message "d" "" token := by
  have hfilter : (QueryPlan.ofQuery place healthQuery place.timeRange).toOption.map
      (·.params.get "filter") = some (healthFilter "") := by decide +kernel
  have hfilter' : (QueryPlan.ofQuery place (healthQuery.inProject "d")
      place.timeRange).toOption.map (·.params.get "filter") = some (healthFilter "d") := by
    decide +kernel
  rw [QueryPlan.ofQuery_slo rfl] at hfilter ⊢
  rw [QueryPlan.ofQuery_slo_inProject rfl] at hfilter' ⊢
  cases haround : QueryPlan.paramsAround healthQuery.slo place.timeRange place.intervalMs with
  | error x =>
    rw [haround] at hfilter
    cases hfilter
  | ok around =>
    rw [haround] at hfilter hfilter'
    have hobjective : Filter.objective healthQuery.slo ≠
        Filter.objective (healthQuery.slo.inProject "d") :=
      QueryPlan.objective_ne rfl (by decide)
    exact ⟨_, _, rfl, rfl, Option.some.inj hfilter, Option.some.inj hfilter',
      QueryPlan.seriesMessage_ne hobjective "d"⟩

end MetricFrames.Service
