import MetricFrames.Proofs.Work.Quiet

/-!
# Work that is cut short

A cancellation takes effect with a request: work that is cut at `k` does what the whole work does
as long as fewer than `k` requests went to the service, and from the `k`-th request on it sends no
more (`CutAt`). The two may come to different ends then, yet what is composed of such work is cut
at `k` again (`CutAt.bind`, `CutAt.tryCatch`), whatever is done about a failure in between. If every
failure ends the work, the `k`-th request is the last thing that it does (`HaltsAt`).
-/

namespace MetricFrames

/-- The surroundings without a cancellation. -/
def Surroundings.uncancelled (s : Surroundings) : Surroundings := { s with cancelAfter := none }

/-- The surroundings in which the work is cancelled with its `k`-th request to the service. -/
def Surroundings.cancelledAfter (s : Surroundings) (k : Nat) : Surroundings :=
  { s with cancelAfter := some k }

namespace Work

variable {α β : Type} {k : Nat} {s : Surroundings}

theorem isCancelled_cancelledAfter (s : Surroundings) (k : Nat) (e : Exchange) :
    isCancelled (s.cancelledAfter k) e = decide (k ≤ e.sent.length) := rfl

theorem isCancelled_eq_false_of_lt {e : Exchange} (h : e.sent.length < k) :
    isCancelled (s.cancelledAfter k) e = false := by
  rw [isCancelled_cancelledAfter]
  exact decide_eq_false (Nat.not_le.mpr h)

theorem isCancelled_eq_true_of_le {e : Exchange} (h : k ≤ e.sent.length) :
    isCancelled (s.cancelledAfter k) e = true := by
  rw [isCancelled_cancelledAfter]
  exact decide_eq_true h

/-- Started early enough, `cut` does what `whole` does until `k` requests went to the service, and
then sends no more. -/
structure CutBelow (k : Nat) (whole cut : Work α) : Prop where
  grows : ∀ e, e.sent <+: (whole.runFrom e).2.sent
  sent : ∀ e, e.sent.length < k → (cut.runFrom e).2.sent = (whole.runFrom e).2.sent.take k
  same : ∀ e, (whole.runFrom e).2.sent.length < k → cut.runFrom e = whole.runFrom e

/-- The same, and started too late `cut` sends nothing at all. -/
structure CutAt (k : Nat) (whole cut : Work α) : Prop extends CutBelow k whole cut where
  stops : ∀ e, e.sent.length = k → (cut.runFrom e).2.sent = e.sent

theorem take_eq_of_isPrefix {a b : List Web.Request} (h : a <+: b) (hk : k ≤ a.length) :
    b.take k = a.take k := by
  obtain ⟨rest, rfl⟩ := h
  exact List.take_append_of_le_length hk

theorem CutAt.sent_of_le {whole cut : Work α} (h : CutAt k whole cut) {e : Exchange}
    (hle : e.sent.length ≤ k) : (cut.runFrom e).2.sent = (whole.runFrom e).2.sent.take k := by
  rcases Nat.lt_or_eq_of_le hle with hlt | heq
  · exact h.sent e hlt
  · have hreached : k ≤ e.sent.length := Nat.le_of_eq heq.symm
    rw [h.stops e heq, take_eq_of_isPrefix (h.grows e) hreached]
    exact (List.take_of_length_le hle).symm

namespace CutBelow

variable {whole cut : Work α} {next next' : α → Work β}

theorem length_le (h : CutBelow k whole cut) (e : Exchange) :
    e.sent.length ≤ (whole.runFrom e).2.sent.length := (h.grows e).length_le

theorem after_quiet {work : Work α} (hw : Quiet work) (hn : ∀ a, CutBelow k (next a) (next' a)) :
    CutBelow k (work >>= next) (work >>= next') where
  grows e := by
    have hsent := hw e
    rw [runFrom_bind]
    rcases h : work.runFrom e with ⟨x | a, e₁⟩
    · rw [h] at hsent
      exact hsent ▸ List.prefix_refl _
    · rw [h] at hsent
      exact hsent ▸ (hn a).grows e₁
  sent e hlt := by
    have hsent := hw e
    rw [runFrom_bind, runFrom_bind]
    rcases h : work.runFrom e with ⟨x | a, e₁⟩
    · rw [h] at hsent
      refine (List.take_of_length_le ?_).symm
      exact hsent ▸ Nat.le_of_lt hlt
    · rw [h] at hsent
      exact (hn a).sent e₁ (hsent ▸ hlt)
  same e hend := by
    rw [runFrom_bind] at hend ⊢
    rw [runFrom_bind]
    rcases h : work.runFrom e with ⟨x | a, e₁⟩
    · rfl
    · rw [h] at hend
      exact (hn a).same e₁ hend

theorem after_request (request : Web.Request) {next next' : Web.Answer → Work β}
    (hn : ∀ answer, CutAt k (next answer) (next' answer)) :
    CutBelow k (sendToService s.uncancelled request >>= next)
      (sendToService (s.cancelledAfter k) request >>= next') where
  grows e := by
    have hsecond := (hn (s.service e.sent request)).grows { e with sent := e.sent ++ [request] }
    rw [runFrom_bind_ok (runFrom_sendToService _ request e)]
    exact (List.prefix_append _ _).trans hsecond
  sent e hlt := by
    have hlen : (e.sent ++ [request]).length ≤ k := by
      rw [List.length_append]
      exact hlt
    rw [runFrom_bind_ok (runFrom_sendToService _ request e),
      runFrom_bind_ok (runFrom_sendToService _ request e)]
    exact (hn (s.service e.sent request)).sent_of_le hlen
  same e hend := by
    rw [runFrom_bind_ok (runFrom_sendToService _ request e)] at hend ⊢
    rw [runFrom_bind_ok (runFrom_sendToService _ request e)]
    exact (hn _).same _ hend

end CutBelow

namespace CutAt

variable {whole cut : Work α}

theorem of_guard (point : CancelPoint) (h : CutBelow k whole cut) :
    CutAt k (checkCancelled s.uncancelled point >>= fun _ => whole)
      (checkCancelled (s.cancelledAfter k) point >>= fun _ => cut) := by
  have hwhole : ∀ e, (checkCancelled s.uncancelled point >>= fun _ => whole).runFrom e =
      whole.runFrom e := fun e => runFrom_bind_ok (runFrom_checkCancelled_none rfl point e)
  have hcut : ∀ e, e.sent.length < k →
      (checkCancelled (s.cancelledAfter k) point >>= fun _ => cut).runFrom e = cut.runFrom e :=
    fun e hlt => runFrom_bind_ok
      (runFrom_checkCancelled_false (isCancelled_eq_false_of_lt hlt) point)
  refine ⟨⟨fun e => ?_, fun e hlt => ?_, fun e hend => ?_⟩, fun e heq => ?_⟩
  · rw [hwhole]
    exact h.grows e
  · rw [hwhole, hcut e hlt]
    exact h.sent e hlt
  · rw [hwhole] at hend ⊢
    rw [hcut e (Nat.lt_of_le_of_lt (h.length_le e) hend)]
    exact h.same e hend
  · have hlate : isCancelled (s.cancelledAfter k) e = true :=
      isCancelled_eq_true_of_le (Nat.le_of_eq heq.symm)
    rw [runFrom_bind_error (runFrom_checkCancelled_true hlate point)]

theorem of_quiet {work : Work α} (h : Quiet work) : CutAt k work work where
  grows e := by
    have hsent := h e
    exact hsent ▸ List.prefix_refl _
  sent e hlt := by
    rw [h e]
    exact (List.take_of_length_le (Nat.le_of_lt hlt)).symm
  same _ _ := rfl
  stops e _ := h e

/-- Work that goes on from an outcome, whatever it is. -/
theorem resume {whole' cut' : Work β} (hw : CutAt k whole cut)
    (next next' : Except Failure α → Work β) (hn : ∀ r, CutAt k (next r) (next' r))
    (hwhole : ∀ e, whole'.runFrom e = (next (whole.runFrom e).1).runFrom (whole.runFrom e).2)
    (hcut : ∀ e, cut'.runFrom e = (next' (cut.runFrom e).1).runFrom (cut.runFrom e).2) :
    CutAt k whole' cut' where
  grows e := by
    rw [hwhole]
    exact (hw.grows e).trans ((hn _).grows _)
  sent e hlt := by
    rw [hwhole, hcut]
    by_cases hmid : (whole.runFrom e).2.sent.length < k
    · rw [hw.same e hmid]
      exact (hn _).sent _ hmid
    · -- The second part of the cut work may start from another outcome, but it sends nothing.
      have hreached : k ≤ (whole.runFrom e).2.sent.length := Nat.not_lt.mp hmid
      have hfirst := hw.sent e hlt
      have hlen : (cut.runFrom e).2.sent.length = k := by
        rw [hfirst, List.length_take, Nat.min_eq_left hreached]
      rw [(hn _).stops _ hlen, hfirst]
      exact (take_eq_of_isPrefix ((hn _).grows _) hreached).symm
  same e hend := by
    rw [hwhole] at hend ⊢
    have hmid := Nat.lt_of_le_of_lt ((hn _).length_le _) hend
    rw [hcut, hw.same e hmid]
    exact (hn _).same _ hend
  stops e heq := by
    have hfirst := hw.stops e heq
    rw [hcut, (hn _).stops _ (hfirst ▸ heq), hfirst]

theorem bind {next next' : α → Work β} (hw : CutAt k whole cut)
    (hn : ∀ a, CutAt k (next a) (next' a)) : CutAt k (whole >>= next) (cut >>= next') := by
  refine hw.resume
    (fun | .ok a => next a | .error x => throw x)
    (fun | .ok a => next' a | .error x => throw x) (fun r => ?_) (fun e => ?_) fun e => ?_
  · cases r with
    | ok a => exact hn a
    | error x => exact of_quiet (.throw x)
  · rw [runFrom_bind]
    rcases whole.runFrom e with ⟨_ | _, _⟩ <;> rfl
  · rw [runFrom_bind]
    rcases cut.runFrom e with ⟨_ | _, _⟩ <;> rfl

theorem tryCatch {handle handle' : Failure → Work α} (hw : CutAt k whole cut)
    (hh : ∀ x, CutAt k (handle x) (handle' x)) :
    CutAt k (MonadExcept.tryCatch whole handle) (MonadExcept.tryCatch cut handle') := by
  refine hw.resume
    (fun | .ok a => Pure.pure a | .error x => handle x)
    (fun | .ok a => Pure.pure a | .error x => handle' x) (fun r => ?_) (fun e => ?_)
    fun e => ?_
  · cases r with
    | ok a => exact of_quiet (.pure a)
    | error x => exact hh x
  · rw [runFrom_tryCatch]
    rcases whole.runFrom e with ⟨_ | _, _⟩ <;> rfl
  · rw [runFrom_tryCatch]
    rcases cut.runFrom e with ⟨_ | _, _⟩ <;> rfl

theorem map (f : α → β) (hw : CutAt k whole cut) : CutAt k (f <$> whole) (f <$> cut) := by
  refine hw.resume
    (fun | .ok a => Pure.pure (f a) | .error x => throw x)
    (fun | .ok a => Pure.pure (f a) | .error x => throw x) (fun r => ?_) (fun e => ?_)
    fun e => ?_
  · cases r with
    | ok a => exact of_quiet (.pure _)
    | error x => exact of_quiet (.throw x)
  · rw [runFrom_map]
    rcases whole.runFrom e with ⟨_ | _, _⟩ <;> rfl
  · rw [runFrom_map]
    rcases cut.runFrom e with ⟨_ | _, _⟩ <;> rfl

theorem checkCancelled (s : Surroundings) (k : Nat) (point : CancelPoint) :
    CutAt k (Work.checkCancelled s.uncancelled point)
      (Work.checkCancelled (s.cancelledAfter k) point) := by
  have h := of_guard (s := s) point (of_quiet (k := k) (.pure ())).toCutBelow
  rwa [bind_pure_unit, bind_pure_unit] at h

end CutAt

/-! ### The last request -/

/-- Work that comes as far as the `k`-th request fails with it, as `late` says: by the requests
before it and by the request itself. -/
def HaltsAt (k : Nat) (late : List Web.Request → Web.Request → Failure → Prop) (work : Work α) :
    Prop :=
  ∀ e, e.sent.length < k → k ≤ (work.runFrom e).2.sent.length →
    ∃ before request x, (work.runFrom e).1 = .error x ∧
      (work.runFrom e).2.sent = before ++ [request] ∧ before.length + 1 = k ∧
      late before request x

namespace HaltsAt

variable {late : List Web.Request → Web.Request → Failure → Prop}

theorem of_quiet {work : Work α} (h : Quiet work) : HaltsAt k late work := by
  intro e hlt hle
  rw [h e] at hle
  omega

theorem bind {work : Work α} {next : α → Work β} (hw : HaltsAt k late work)
    (hn : ∀ a, HaltsAt k late (next a)) : HaltsAt k late (work >>= next) := by
  intro e hlt hle
  have hfirst := hw e hlt
  rcases h : work.runFrom e with ⟨x | a, e₁⟩
  · rw [h] at hfirst
    rw [runFrom_bind_error h] at hle ⊢
    obtain ⟨before, request, y, hy, hsent, hlen, hlate⟩ := hfirst hle
    cases hy
    exact ⟨before, request, x, rfl, hsent, hlen, hlate⟩
  · rw [h] at hfirst
    rw [runFrom_bind_ok h] at hle ⊢
    by_cases hmid : e₁.sent.length < k
    · exact hn a e₁ hmid hle
    · obtain ⟨before, request, y, hy, -⟩ := hfirst (Nat.not_lt.mp hmid)
      cases hy

theorem of_request (request : Web.Request) {next : Web.Answer → Work β}
    (hq : ∀ answer, Quiet (next answer))
    (hn : ∀ e : Exchange, e.sent.length + 1 = k → ∃ x,
      ((next (s.service e.sent request)).runFrom { e with sent := e.sent ++ [request] }).1 =
        .error x ∧ late e.sent request x) :
    HaltsAt k late (sendToService s request >>= next) := by
  intro e hlt hle
  rw [runFrom_bind_ok (runFrom_sendToService s request e)] at hle ⊢
  rw [hq] at hle ⊢
  have hlen : e.sent.length + 1 = k := by
    rw [List.length_append] at hle
    exact Nat.le_antisymm hlt hle
  obtain ⟨x, hx, hlate⟩ := hn e hlen
  exact ⟨e.sent, request, x, hx, rfl, hlen, hlate⟩

end HaltsAt
end Work
end MetricFrames
