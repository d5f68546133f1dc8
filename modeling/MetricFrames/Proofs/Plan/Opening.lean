import MetricFrames.Proofs.Plan.Breaking
import MetricFrames.Proofs.Plan.Cutting
import MetricFrames.Proofs.Plan.Projects
import MetricFrames.Proofs.Work.Opening

/-!
# The first request of a plan

With tokens of the host, the first thing that a plan sends is its message for a first page, in its
own project or in the default one (`opens_run`). The parameters of such a message have a few fixed
names (`hasFixedNames_ofBatch`).
-/

namespace MetricFrames

open Work

variable {i : Instance} {s : Surroundings}

/-! ### Messages -/

namespace Instance

theorem grows_send (i : Instance) (m : Message) : Grows (i.send s m) := by
  refine .bind (.of_quiet (.checkCancelled s _)) fun _ => ?_
  refine .bind (.of_quiet (quiet_prepare i m)) fun request => ?_
  exact .bind (.sendToService s request) fun answer => .of_quiet (quiet_replyIn s m request answer)

theorem opens_send (i : Instance) (m : Message) : Opens (i.Carries m) (i.send s m) := by
  refine .after_quiet (.checkCancelled s _) fun _ _ _ _ => ?_
  refine .after_quiet (quiet_prepare i m) fun e request e' h => ?_
  refine .bind (.sendToService s (carries_of_prepare_ok h)) fun answer => ?_
  exact .of_quiet (quiet_replyIn s m request answer)

end Instance

namespace QueryPlan

variable {F : Format} {ask : String → Instance.Message} {p : QueryPlan}

/-! ### Pages -/

theorem grows_fetchPage (token : String) : Grows (F.fetchPage s i ask token) :=
  .bind (i.grows_send _) fun reply => .of_quiet (quiet_replyOf F.decode reply)

theorem grows_fetchPages (budget : Nat) (token : String) :
    Grows (fetchPages (F.fetchPage s i ask) F.nextToken budget token) := by
  induction budget generalizing token with
  | zero => exact .of_quiet (.pure _)
  | succ budget ih =>
    refine .bind (grows_fetchPage token) fun page => ?_
    split
    · exact .of_quiet (.pure _)
    · exact .bind (ih _) fun pages => .of_quiet (.pure _)

/-- What comes after a page. -/
theorem grows_afterPage (budget : Nat) (page : F.Page) :
    Grows (if F.nextToken page = "" then pure [page] else do
      let pages ← fetchPages (F.fetchPage s i ask) F.nextToken budget (F.nextToken page)
      return page :: pages) := by
  split
  · exact .of_quiet (.pure _)
  · exact .bind (grows_fetchPages _ _) fun pages => .of_quiet (.pure _)

theorem opens_fetchPages (budget : Nat) (token : String) :
    Opens (i.Carries (ask token))
      (fetchPages (F.fetchPage s i ask) F.nextToken (budget + 1) token) :=
  .bind (.bind (i.opens_send _) fun reply => .of_quiet (quiet_replyOf F.decode reply))
    (grows_afterPage budget)

/-- If the first message has an address, its request is sent. -/
theorem exists_sent_fetchPages (hi : i.UsesHostToken) (ho : i.closed = false) {e : Exchange}
    (hc : isCancelled s e = false) {token : String} {address : Web.Address}
    (ha : i.addressOf (ask token) = .ok address) (budget : Nat) :
    ∃ request, e.sent ++ [request] <+:
      ((fetchPages (F.fetchPage s i ask) F.nextToken (budget + 1) token).runFrom e).2.sent := by
  obtain ⟨request, e', -, hanswered⟩ := Instance.exists_answered hi ho s ha e
  have hsend : ((i.send s (ask token)).runFrom e).2.sent = e.sent ++ [request] := by
    rw [hanswered.runFrom_send hc, Instance.quiet_replyIn, hanswered.sent]
  have hpage : e.sent ++ [request] <+: ((F.fetchPage s i ask token).runFrom e).2.sent :=
    hsend ▸ Grows.after (fun reply => .of_quiet (quiet_replyOf F.decode reply)) e
  exact ⟨request, hpage.trans (Grows.after (grows_afterPage budget) e)⟩

/-! ### Runs -/

theorem grows_run (p : QueryPlan) (s : Surroundings) (i : Instance) : Grows (p.run s i) := by
  refine .bind (.of_quiet (quiet_project p)) fun project => ?_
  refine .bind (.of_quiet (.ofFault _)) fun executed => ?_
  rw [fetch_eq]
  refine .bind ?_ fun answer => .of_quiet (.pure _)
  exact .bind (grows_fetchPages _ _) fun pages => .of_quiet (.pure _)

/-- The message of a plan for its first page, with tokens of the host. -/
def firstMessage (p : QueryPlan) (i : Instance) : Except Fault Instance.Message :=
  p.executed.map fun executed => p.message (p.ranIn i).display executed ""

/-- A plan sends its message for a first page before all else. -/
theorem opens_run (hi : i.UsesHostToken) (p : QueryPlan) (s : Surroundings) :
    Opens (fun request => ∃ m, p.firstMessage i = .ok m ∧ i.Carries m request) (p.run s i) := by
  refine .after_quiet (quiet_project p) fun e project e' hproject => ?_
  rw [runFrom_project hi] at hproject
  cases hproject
  refine .after_quiet (.ofFault _) fun e executed e' hexecuted => ?_
  have hfirst : p.firstMessage i = .ok (p.message (p.ranIn i).display executed "") := by
    rw [firstMessage, eq_ok_of_runFrom_ofFault hexecuted]
    rfl
  rw [fetch_eq]
  refine .bind (.bind ?_ fun pages => .of_quiet (.pure _)) fun answer => .of_quiet (.pure _)
  -- The page that is fetched first is asked for with that message.
  intro e
  refine (opens_fetchPages _ _ e).imp_right ?_
  rintro ⟨request, hcarries, hsent⟩
  exact ⟨request, ⟨_, hfirst, hcarries⟩, hsent⟩

/-- A plan whose first message has an address sends a request. -/
theorem exists_sent_run (hi : i.UsesHostToken) (ho : i.closed = false) {e : Exchange}
    (hc : isCancelled s e = false) {m : Instance.Message} {address : Web.Address}
    (hm : p.firstMessage i = .ok m) (ha : i.addressOf m = .ok address) :
    ∃ request, e.sent ++ [request] <+: ((p.run s i).runFrom e).2.sent := by
  obtain ⟨executed, hexecuted, rfl⟩ := exists_of_map_eq_ok hm
  rw [runFrom_run (runFrom_project hi p s e) hexecuted]
  obtain ⟨request, hsent⟩ := exists_sent_fetchPages (F := p.format) hi ho hc ha (maxPages - 1)
  exact ⟨request, hsent.trans (Grows.after (fun pages => .of_quiet (.pure _)) e)⟩

/-! ### Names of parameters -/

/-- What follows the name space of a stage of aggregation. -/
def stageNames : List String :=
  [".alignmentPeriod", ".crossSeriesReducer", ".perSeriesAligner", ".groupByFields"]

/-- The names that parameters may have. -/
def paramNames : List String :=
  ["interval.startTime", "interval.endTime", "filter", "view"] ++
    ["aggregation", "secondaryAggregation"].flatMap fun space => stageNames.map (space ++ ·)

/-- All parameters have names of the fixed ones. -/
def HasFixedNames (params : RequestParams) : Prop := ∀ item ∈ params.items, item.1 ∈ paramNames

namespace HasFixedNames

variable {params : RequestParams} {name space : String}

theorem add (h : HasFixedNames params) (hn : name ∈ paramNames) (value : String) :
    HasFixedNames (params.add name value) := by
  intro item hitem
  rw [RequestParams.items_add, List.mem_append, List.mem_singleton] at hitem
  rcases hitem with hitem | rfl
  · exact h item hitem
  · exact hn

theorem addGiven (h : HasFixedNames params) (hn : name ∈ paramNames) (value : String) :
    HasFixedNames (Aggregation.addGiven params name value) := by
  rw [Aggregation.addGiven]
  split
  · exact h
  · exact h.add hn value

theorem addAll (h : HasFixedNames params) (hn : name ∈ paramNames) (values : List String) :
    HasFixedNames (values.foldl (fun params value => params.add name value) params) := by
  induction values generalizing params with
  | nil => exact h
  | cons value values ih => exact ih (h.add hn value)

theorem aggregation (h : HasFixedNames params)
    (hs : space = "aggregation" ∨ space = "secondaryAggregation") (a : Aggregation) :
    HasFixedNames (a.addTo space params) := by
  have hnames : ∀ name ∈ stageNames, space ++ name ∈ paramNames := by
    rcases hs with rfl | rfl <;> decide
  have hperiod : HasFixedNames _ :=
    h.addGiven (hnames ".alignmentPeriod" (by decide)) a.alignmentPeriod
  have hreducer : HasFixedNames _ :=
    hperiod.addGiven (hnames ".crossSeriesReducer" (by decide)) a.crossSeriesReducer
  have haligner : HasFixedNames _ :=
    hreducer.addGiven (hnames ".perSeriesAligner" (by decide)) a.perSeriesAligner
  exact haligner.addAll (hnames ".groupByFields" (by decide)) a.groupByFields

theorem stages (h : HasFixedNames params) (s : AggregationStages) :
    HasFixedNames (s.addTo params) := by
  rw [AggregationStages.addTo]
  refine aggregation ?_ (.inl rfl) _
  cases s.secondary with
  | none => exact h
  | some a => exact h.aggregation (.inr rfl) a

theorem range {range : TimeRange} (h : rangeParams range = .ok params) : HasFixedNames params := by
  obtain ⟨start, -, h⟩ := exists_of_bind_eq_ok h
  obtain ⟨stop, -, h⟩ := exists_of_bind_eq_ok h
  cases h
  have hnone : HasFixedNames {} := fun item hitem => by cases hitem
  exact (hnone.add (by decide) start).add (by decide) stop

end HasFixedNames

theorem eq_of_orFault_eq_ok {α : Type} {step : Except Fault α} {a : α}
    (h : orFault step = .ok a) : step = .ok a := by
  cases step with
  | ok b =>
    cases h
    rfl
  | error f => cases h

theorem hasFixedNames_ofMetric {refId : String} {q : MetricQuery} {range : TimeRange}
    {intervalMs : Int} (h : ofMetric refId q range intervalMs = .ok p) :
    HasFixedNames p.params := by
  obtain ⟨params, hparams, h⟩ := exists_of_bind_eq_ok h
  have hrange : HasFixedNames params := .range (eq_of_orFault_eq_ok hparams)
  dsimp only at h
  split at h
  · obtain ⟨filter, -, h⟩ := exists_of_bind_eq_ok h
    obtain ⟨seconds, -, h⟩ := exists_of_bind_eq_ok h
    obtain ⟨stages, -, h⟩ := exists_of_bind_eq_ok h
    cases h
    exact ((hrange.add (by decide) filter).add (by decide) _).stages stages
  · obtain ⟨filter, hf, -⟩ := exists_of_bind_eq_ok h
    cases hf

theorem hasFixedNames_ofSlo {refId : String} {q : SloQuery} {range : TimeRange} {intervalMs : Int}
    (h : ofSlo refId q range intervalMs = .ok p) : HasFixedNames p.params := by
  obtain ⟨params, hparams, h⟩ := exists_of_bind_eq_ok h
  obtain ⟨seconds, -, h⟩ := exists_of_bind_eq_ok h
  obtain ⟨stages, -, h⟩ := exists_of_bind_eq_ok h
  cases h
  have hrange : HasFixedNames params := .range (eq_of_orFault_eq_ok hparams)
  exact (hrange.add (by decide) _).stages stages

theorem hasFixedNames_ofBatchQuery {range : TimeRange} {b : BatchQuery}
    (h : ofBatchQuery range b = .ok p) : HasFixedNames p.params := by
  rw [ofBatchQuery] at h
  split at h
  · cases h
  · rw [ofQuery] at h
    split at h
    · split at h
      · cases h
        intro item hitem
        cases hitem
      · exact hasFixedNames_ofMetric h
    · split at h
      · exact hasFixedNames_ofSlo h
      · cases h

theorem hasFixedNames_ofBatch {queries : List BatchQuery} {plans : List QueryPlan}
    (h : ofBatch queries = .ok plans) : ∀ p ∈ plans, HasFixedNames p.params := by
  obtain ⟨first, rest, -, hplans⟩ := exists_of_ofBatch_eq_ok h
  clear h
  induction hplans with
  | nil => exact fun p hp => by cases hp
  | cons hb _ ih => exact List.forall_mem_cons.mpr ⟨hasFixedNames_ofBatchQuery hb, ih⟩

end QueryPlan
end MetricFrames
