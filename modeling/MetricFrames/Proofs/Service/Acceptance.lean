import MetricFrames.Proofs.Plan.Failing
import MetricFrames.Proofs.Query.FlatForm
import MetricFrames.Proofs.Service.Cancellation

/-!
# Batches that were accepted

Once all plans of a batch are made, hardly anything is wrong with the batch as a whole. What remains
is its purpose, which is read from the first payload a second time and by another rule: a purpose
that is not given counts as the empty text when a flat payload is decoded, but is refused here
unless it is a text or absent (`queryData_batch_iff`). Only ambient credentials add a further
problem, that of a default project.
-/

namespace MetricFrames

open Work

/-! ### The purpose of a payload -/

namespace Query

/-- The purpose of a payload is there and counts as not given, but it is no text. -/
def VoidPurpose (ms : Members Data) : Prop :=
  ∃ d, ms.get? "type" = some d ∧ d.isGiven = false ∧ ∀ t, d ≠ .text t

/-- What is wrong with a purpose that is no text. -/
def untextual : Rejection := ⟨"QueryModel", [⟨["type"], .text⟩]⟩

variable {ms : Members Data} {d : Data} {q : Query}

theorem text_eq_bad (h : ∀ t, d ≠ .text t) : Decoder.text d = .bad .text := by
  cases d with
  | text t => exact absurd rfl (h t)
  | _ => rfl

theorem purposeOf_of_untextual (hd : ms.get? "type" = some d) (h : ∀ t, d ≠ .text t) :
    purposeOf ms = .error untextual := by
  rw [purposeOf, textField, FieldName.optional_wire hd, text_eq_bad h]
  rfl

theorem exists_purposeOf (h : ∀ d, ms.get? "type" = some d → ∃ t, d = .text t) :
    ∃ purpose, purposeOf ms = .ok purpose := by
  cases hd : ms.get? "type" with
  | none =>
    rw [purposeOf, textField, FieldName.optional_absent hd hd]
    exact ⟨"", rfl⟩
  | some d =>
    obtain ⟨t, rfl⟩ := h d hd
    rw [purposeOf, textField, FieldName.optional_wire hd]
    exact ⟨t, rfl⟩

theorem exists_purpose_of_ofMembers (h : ofMembers ms = .ok q) :
    ∃ purpose, textField "type" "type" ms = .ok purpose := by
  cases hp : textField "type" "type" ms with
  | ok purpose => exact ⟨purpose, rfl⟩
  | error ps =>
    rw [ofMembers, hp] at h
    -- The purpose is the last field, and its problems stay whatever the others come to.
    have hseq : ∀ f : Checked (String → Query), f <*> (.error ps : Checked String) ≠ .ok q := by
      intro f hf
      cases f with
      | ok f => cases hf
      | error qs => cases hf
    exact absurd h (hseq _)

/-- A payload is decoded with a purpose that is no text only in the flat form, and only if the
purpose counts as not given. -/
theorem isFlat_of_untextual (hq : ofPayload ms = .ok q) (hd : ms.get? "type" = some d)
    (h : ∀ t, d ≠ .text t) : isFlat ms = true ∧ d.isGiven = false := by
  rw [ofPayload] at hq
  split at hq
  · next hflat =>
    refine ⟨hflat, ?_⟩
    by_contra hgiven
    have hmember : (member ms "type").orElse (.text "") = d := by
      rw [member, hd, Option.getD_some, Data.orElse, if_pos (by simpa using hgiven)]
    simp only [ofFlat, hmember, text_eq_bad h] at hq
    cases hm : (MetricQuery.ofMembers ms).report MetricQuery.model with
    | error r =>
      rw [hm] at hq
      cases hq
    | ok metric =>
      rw [hm] at hq
      cases hq
  · rw [ofNested] at hq
    cases hm : ofMembers ms with
    | error ps =>
      rw [hm] at hq
      cases hq
    | ok query =>
      obtain ⟨purpose, hp⟩ := exists_purpose_of_ofMembers hm
      rw [textField, FieldName.optional_wire hd, text_eq_bad h] at hp
      cases hp

theorem exists_purposeOf_of_not_void (hq : ofPayload ms = .ok q) (h : ¬ VoidPurpose ms) :
    ∃ purpose, purposeOf ms = .ok purpose := by
  refine exists_purposeOf fun d hd => ?_
  by_contra huntextual
  have hno : ∀ t, d ≠ .text t := fun t ht => huntextual ⟨t, ht⟩
  exact h ⟨d, hd, (isFlat_of_untextual hq hd hno).2, hno⟩

end Query

/-! ### How batches fail -/

namespace Service

variable {host : Host} {s : Surroundings} {r r' : Registry} {b : Batch} {i : Instance} {n : Nat}
  {plans : List QueryPlan} {first : BatchQuery} {rest queries : List BatchQuery}

theorem failsOnly_attempt {α : Type} {work : Work α} (h : FailsOnly Failure.ofRun work) :
    FailsOnly Failure.ofRun (attempt work) := by
  refine .tryCatch (.map _ h) fun x hx => ?_
  obtain ⟨problem, rfl⟩ | ⟨point, rfl⟩ | ⟨f, rfl⟩ := Failure.cases_of_ofRun hx
  · exact .pure _
  · exact .throw rfl
  · exact .throw rfl

theorem failsOnly_resultOf {read : List Frame × Option Failure}
    (h : ∀ x, read.2 = some x → x.ofRun = true) : FailsOnly Failure.ofRun (resultOf read) := by
  obtain ⟨frames, _ | x⟩ := read
  · exact .pure _
  · obtain ⟨problem, rfl⟩ | ⟨point, rfl⟩ | ⟨f, rfl⟩ := Failure.cases_of_ofRun (h x rfl)
    · exact .pure _
    · exact .throw rfl
    · exact .throw rfl

theorem failsOnly_answer (s : Surroundings) (i : Instance) (p : QueryPlan)
    {read : QueryPlan.Finished → List Frame × Option Failure}
    (h : ∀ finished x, (read finished).2 = some x → x.ofRun = true) :
    FailsOnly Failure.ofRun (answer s i p read) := by
  refine .bind (failsOnly_attempt (p.failsOnly_run s i)) fun outcome => ?_
  cases outcome with
  | error problem => exact .pure _
  | ok finished => exact failsOnly_resultOf (h finished)

theorem failsOnly_answerPlans (s : Surroundings) (i : Instance) (results : Results)
    (plans : List QueryPlan) : FailsOnly Failure.ofRun (answerPlans s i results plans) := by
  induction plans generalizing results with
  | nil => exact .pure _
  | cons p plans ih =>
    have hplan : FailsOnly Failure.ofRun (answerPlan s i p) :=
      .bind (Instance.failsOnly_checkCancelled s _) fun _ =>
        failsOnly_answer s i p fun _ _ => QueryPlan.ofRun_of_frames
    exact .bind hplan fun result => ih _

theorem failsOnly_answerRemarks (hplans : QueryPlan.ofBatch queries = .ok plans) :
    FailsOnly Failure.ofRun (answerRemarks s i queries) := by
  rw [answerRemarks, hplans]
  refine .bind (.pure plans) fun plans => ?_
  cases plans with
  | nil => exact .pure _
  | cons p plans =>
    have hanswer : FailsOnly Failure.ofRun (answer s i p fun finished =>
        p.remarks (templatesOf queries) finished.answer) :=
      failsOnly_answer s i p fun _ _ => QueryPlan.ofRun_of_remarks
    exact .bind hanswer fun result => .pure _

theorem exists_ofPayload_of_ofBatchQuery {range : TimeRange} {p : QueryPlan}
    (h : QueryPlan.ofBatchQuery range first = .ok p) :
    ∃ query, Query.ofPayload first.payload = .ok query := by
  rw [QueryPlan.ofBatchQuery] at h
  split at h
  · cases h
  · next query hquery => exact ⟨query, hquery⟩

/-- A batch whose plans are made fails as its plans do, unless it asks for the default project. -/
theorem failsOnly_answerFor (hplans : QueryPlan.ofBatch queries = .ok plans) {purpose : String}
    (hpurpose : purpose ≠ Query.defaultProjectPurpose) :
    FailsOnly Failure.ofRun (answerFor s i purpose first queries) := by
  rw [answerFor, if_neg hpurpose]
  split
  · exact failsOnly_answerRemarks hplans
  · rw [answerRegular_eq hplans]
    exact failsOnly_answerPlans s i [] plans

theorem answerDefaultProject_batch_iff (s : Surroundings) (i : Instance) (refId : String)
    (e : Exchange) :
    (∃ problem, ((answerDefaultProject s i refId).runFrom e).1 = .error (.batch problem)) ↔
      ∃ problem, ((i.defaultProject s).runFrom e).1 = .error (.credentials problem) := by
  have hfails := i.failsOnly_defaultProject (s := s) e
  rw [answerDefaultProject, runFrom_bind, runFrom_mapFailure]
  rcases h : (i.defaultProject s).runFrom e with ⟨x | project, e'⟩
  · rw [h] at hfails
    obtain ⟨problem, rfl⟩ | ⟨f, rfl⟩ := Failure.cases_of_ofCredentials (hfails x rfl)
    · exact iff_of_true ⟨_, rfl⟩ ⟨_, rfl⟩
    · exact iff_of_false (by rintro ⟨_, ⟨⟩⟩) (by rintro ⟨_, ⟨⟩⟩)
  · exact iff_of_false (by rintro ⟨_, ⟨⟩⟩) (by rintro ⟨_, ⟨⟩⟩)

/-- An instance with tokens of the host has no problem with its default project. -/
theorem defaultProject_ne_credentials (hi : i.authentication = .token) (e : Exchange) :
    ¬ ∃ problem, ((i.defaultProject s).runFrom e).1 = .error (.credentials problem) := by
  rw [Instance.defaultProject, hi]
  rintro ⟨problem, h⟩
  cases h

theorem result_queryData (hq : b.queries = first :: rest) {purpose : String}
    (hp : Query.purposeOf first.payload = .ok purpose)
    (hget : r.get host b.datasource = (.ok n, r')) (hi : r'.instance? n = some i) :
    (queryData host s r b).result =
      ((answerFor s i purpose first b.queries).runFrom { tokens := i.tokens }).1 := by
  simp only [queryData, hq, hp]
  exact (workFor_eq hget hi _).1

theorem answerFor_batch_iff (hplans : QueryPlan.ofBatch queries = .ok plans) (s : Surroundings)
    (i : Instance) (purpose : String) (e : Exchange) :
    (∃ problem, ((answerFor s i purpose first queries).runFrom e).1 = .error (.batch problem)) ↔
      purpose = Query.defaultProjectPurpose ∧
        ∃ problem, ((i.defaultProject s).runFrom e).1 = .error (.credentials problem) := by
  by_cases hpurpose : purpose = Query.defaultProjectPurpose
  · have hremarks : Query.defaultProjectPurpose ≠ Query.remarksPurpose := by decide
    rw [hpurpose, answerFor, if_neg hremarks, if_pos rfl, answerDefaultProject_batch_iff]
    exact (and_iff_right rfl).symm
  · have hfails : FailsOnly Failure.ofRun (answerFor s i purpose first queries) :=
      failsOnly_answerFor hplans hpurpose
    refine iff_of_false ?_ fun h => hpurpose h.1
    rintro ⟨problem, h⟩
    cases hfails e _ h

/-- Let all plans of a batch be made. The batch is refused as a whole exactly if the purpose in its
first payload is void, or if it asks for a default project and ambient credentials have none.
Nothing that the service answers makes a difference. -/
theorem queryData_batch_iff (hq : b.queries = first :: rest)
    (hplans : QueryPlan.ofBatch b.queries = .ok plans)
    (hget : r.get host b.datasource = (.ok n, r')) (hi : r'.instance? n = some i)
    (s : Surroundings) :
    let out := (queryData host s r b).result
    ((∃ problem, out = .error (.batch problem)) ↔ Query.VoidPurpose first.payload ∨
      Query.purposeOf first.payload = .ok Query.defaultProjectPurpose ∧
        ∃ problem, ((i.defaultProject s).runFrom { tokens := i.tokens }).1 =
          .error (.credentials problem)) ∧
    (i.authentication = .token →
      ((∃ problem, out = .error (.batch problem)) ↔ Query.VoidPurpose first.payload)) ∧
    (Query.VoidPurpose first.payload → Query.isFlat first.payload = true ∧
      out = .error (.batch (.undecodable Query.untextual))) := by
  intro out
  have hquery : ∃ query, Query.ofPayload first.payload = .ok query := by
    obtain ⟨_, _, hq', hforall⟩ := QueryPlan.exists_of_ofBatch_eq_ok hplans
    rw [hq] at hforall
    cases hforall with
    | cons hfirst _ => exact exists_ofPayload_of_ofBatchQuery hfirst
  obtain ⟨query, hquery⟩ := hquery
  have hvoid : Query.VoidPurpose first.payload → Query.isFlat first.payload = true ∧
      out = .error (.batch (.undecodable Query.untextual)) := by
    rintro ⟨d, hd, -, huntextual⟩
    refine ⟨(Query.isFlat_of_untextual hquery hd huntextual).1, ?_⟩
    have hp := Query.purposeOf_of_untextual hd huntextual
    simp only [out, queryData, hq, hp]
  have hiff : (∃ problem, out = .error (.batch problem)) ↔ Query.VoidPurpose first.payload ∨
      Query.purposeOf first.payload = .ok Query.defaultProjectPurpose ∧
        ∃ problem, ((i.defaultProject s).runFrom { tokens := i.tokens }).1 =
          .error (.credentials problem) := by
    by_cases hv : Query.VoidPurpose first.payload
    · exact iff_of_true ⟨_, (hvoid hv).2⟩ (.inl hv)
    · obtain ⟨purpose, hp⟩ := Query.exists_purposeOf_of_not_void hquery hv
      have hout : out = ((answerFor s i purpose first b.queries).runFrom
          { tokens := i.tokens }).1 := result_queryData hq hp hget hi
      rw [hout, answerFor_batch_iff hplans, or_iff_right hv, hp, Except.ok.injEq]
  refine ⟨hiff, fun htoken => ?_, hvoid⟩
  have hproject := defaultProject_ne_credentials htoken (s := s) { tokens := i.tokens }
  exact hiff.trans (or_iff_left fun h => hproject h.2)

/-- One metric query in the flat form, with a purpose. -/
def flatBatch (purpose : Data) : Batch where
  queries := [{ BatchQuery.written "A" "" with
    payload := [("type", purpose), ("metricType", .text "count")] }]

/-- How the instance with a number authenticates, if there is one. -/
def authentication? (r : Registry) (n : Nat) : Option Authentication :=
  (r.instance? n).map (·.authentication)

/-- A batch for remarks is not refused though the service fails. -/
theorem queryData_batch_iff_remarks :
    ¬ ∃ problem, (queryData {} down {} (flatBatch (.text Query.remarksPurpose))).result =
      .error (.batch problem) := by
  have hplanned : (QueryPlan.ofBatch (flatBatch (.text Query.remarksPurpose)).queries).toBool =
      true := by decide +kernel
  have hget : (({} : Registry).get {} (flatBatch (.text Query.remarksPurpose)).datasource).1 =
      .ok 0 := by decide +kernel
  have htoken : authentication?
      (({} : Registry).get {} (flatBatch (.text Query.remarksPurpose)).datasource).2 0 =
        some .token := by decide +kernel
  rcases hr : ({} : Registry).get {} (flatBatch (.text Query.remarksPurpose)).datasource
    with ⟨_, r'⟩
  rw [hr] at hget htoken
  subst hget
  obtain ⟨i, hi, hauth⟩ := Option.map_eq_some_iff.mp htoken
  cases hplans : QueryPlan.ofBatch (flatBatch (.text Query.remarksPurpose)).queries with
  | error x =>
    rw [hplans] at hplanned
    cases hplanned
  | ok plans =>
    obtain ⟨-, hiff, -⟩ := queryData_batch_iff rfl hplans hr hi down
    rw [hiff hauth]
    rintro ⟨d, hd, -, huntextual⟩
    exact huntextual _ (Option.some.inj hd).symm

/-- The plan of a batch is made, and its datasource is of use, but the batch is refused: its purpose
is null. -/
theorem queryData_batch_null :
    (QueryPlan.ofBatch (flatBatch .null).queries).toBool = true ∧
    (({} : Registry).get {} (flatBatch .null).datasource).1 = .ok 0 ∧
    authentication? (({} : Registry).get {} (flatBatch .null).datasource).2 0 = some .token ∧
    (queryData {} down {} (flatBatch .null)).result =
      .error (.batch (.undecodable Query.untextual)) := by
  have hresult : (queryData {} down {} (flatBatch .null)).result =
      .error (.batch (.undecodable Query.untextual)) := rfl
  exact ⟨by decide +kernel, by decide +kernel, by decide +kernel, hresult⟩

end Service
end MetricFrames
