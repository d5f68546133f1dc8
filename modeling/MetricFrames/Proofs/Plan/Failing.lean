import MetricFrames.Plan.Remarks
import MetricFrames.Proofs.Datasource.Failing
import MetricFrames.Proofs.Plan.Paging

/-!
# How plans fail

A plan that runs, and the reading of its answer, fail with a problem of the query, because of a
cancellation or with a fault. No plan has a problem with the batch as a whole, which is settled
before the first of them runs.
-/

namespace MetricFrames.QueryPlan

open Work

variable {s : Surroundings} {i : Instance} {x : Failure}

theorem failsOnly_project (p : QueryPlan) : FailsOnly Failure.ofRun (p.project s i) := by
  rw [QueryPlan.project]
  split
  · exact .pure _
  · refine .mapFailure (fun x hx => ?_) i.failsOnly_defaultProject
    obtain ⟨problem, rfl⟩ | ⟨f, rfl⟩ := Failure.cases_of_ofCredentials hx
    · rfl
    · rfl

theorem failsOnly_replyOf {α : Type} (decode : String → Except Rejection α)
    (reply : Nat × String) : FailsOnly Failure.ofRun (replyOf decode reply) := by
  rw [replyOf]
  split
  · split
    · exact .pure _
    · exact .throw rfl
  · exact .throw rfl

theorem failsOnly_fetchPages {F : Format} {ask : String → Instance.Message} (budget : Nat)
    (token : String) :
    FailsOnly Failure.ofRun (fetchPages (F.fetchPage s i ask) F.nextToken budget token) := by
  induction budget generalizing token with
  | zero => exact .pure _
  | succ budget ih =>
    have hpage : FailsOnly Failure.ofRun (F.fetchPage s i ask token) :=
      .bind (i.failsOnly_send s _) fun reply => failsOnly_replyOf _ reply
    refine .bind hpage fun page => ?_
    split
    · exact .pure _
    · exact .bind (ih _) fun pages => .pure _

theorem failsOnly_run (p : QueryPlan) (s : Surroundings) (i : Instance) :
    FailsOnly Failure.ofRun (p.run s i) := by
  refine .bind (failsOnly_project p) fun project => ?_
  refine .bind (.ofFault (fun _ => rfl) _) fun executed => ?_
  rw [fetch_eq]
  refine .bind ?_ fun answer => .pure _
  exact .bind (failsOnly_fetchPages _ _) fun pages => .pure _

theorem ofRun_readingFailure (refId : String) (f : Fault) :
    (readingFailure refId f).ofRun = true := by
  rw [readingFailure]
  split
  · rfl
  · rfl

theorem ofRun_of_frames {p : QueryPlan} {ranIn : Data} {executed : String} {answer : QueryAnswer}
    (h : (p.frames ranIn executed answer).2 = some x) : x.ofRun = true := by
  rw [frames] at h
  split at h
  · cases h
    exact ofRun_readingFailure _ _
  · split at h
    · cases h
    · cases h
      rfl

theorem ofRun_of_remarks {p : QueryPlan} {templates : RemarkTemplates} {answer : QueryAnswer}
    (h : (p.remarks templates answer).2 = some x) : x.ofRun = true := by
  rw [remarks] at h
  split at h
  · cases h
  · cases h
    rfl

end MetricFrames.QueryPlan
