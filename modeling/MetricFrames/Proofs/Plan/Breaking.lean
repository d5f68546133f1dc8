import MetricFrames.Proofs.Plan.Reading
import MetricFrames.Proofs.Plan.Running

/-!
# Plans that break

What goes wrong with one plan is as a rule a problem of its query. A few things are not: a range of
time beyond the calendar, a request that cannot be made or a reply that cannot be placed, a bucket
whose bound is out of range, and a link that is too long. A plan breaks if one of them happens
(`Breaks`), and it either breaks or has an outcome (`runFrom_run_cases`).
-/

namespace MetricFrames.QueryPlan

open Work

variable {p : QueryPlan} {i : Instance} {s : Surroundings} {e e' e₁ : Exchange} {f : Fault}

/-! ### Pages -/

namespace Format

variable {F : Format} {ask : String → Instance.Message} {token token' : String}

/-- The request for the page of a token has no address, or the client is closed; or what comes back
is a fault, or a reply whose address is of no known kind. -/
inductive Breaks (F : Format) (s : Surroundings) (i : Instance) (ask : String → Instance.Message)
    (token : String) (e : Exchange) : Fault → Prop
  | address {f : Fault} (unaddressed : i.addressOf (ask token) = .error f) :
      Breaks F s i ask token e f
  | closed {address : Web.Address} (addressed : i.addressOf (ask token) = .ok address)
      (closed : i.closed = true) : Breaks F s i ask token e .clientClosed
  | broken {f : Fault} (request : Web.Request) (e' : Exchange)
      (answered : Instance.Answered s i (ask token) e request (.broken f) e') :
      Breaks F s i ask token e f
  | kind {f : Fault} (request : Web.Request) (status : Nat) (body : String) (e' : Exchange)
      (answered : Instance.Answered s i (ask token) e request (.reply status body) e')
      (unknown : Web.Address.checkKind request.address = .error f) : Breaks F s i ask token e f

theorem Breaks.runFrom (hc : s.cancelAfter = none) (h : F.Breaks s i ask token e f) :
    ∃ e', (F.fetchPage s i ask token).runFrom e = (.error (.fault f), e') := by
  have hcut : isCancelled s e = false := isCancelled_eq_false hc e
  cases h with
  | address unaddressed =>
    refine ⟨e, runFrom_bind_error (Instance.runFrom_send_unprepared hcut ?_)⟩
    rw [Instance.prepare, unaddressed]
    exact runFrom_bind_error rfl
  | closed addressed closed =>
    refine ⟨e, runFrom_bind_error (Instance.runFrom_send_unprepared hcut ?_)⟩
    rw [Instance.prepare, addressed, ofFault_ok, pure_bind, if_pos closed]
    exact runFrom_bind_error rfl
  | broken request e' answered => exact ⟨e', runFrom_bind_error (answered.runFrom_send hcut)⟩
  | kind request status body e' answered unknown =>
    refine ⟨e', runFrom_bind_error ((answered.runFrom_send hcut).trans ?_)⟩
    rw [Instance.replyIn, unknown]
    exact runFrom_bind_error rfl

/-- With tokens of the host there is nothing else that a request for a page can come to. -/
theorem serves_or_refuses_or_breaks (hi : i.UsesHostToken) (F : Format) (s : Surroundings)
    (ask : String → Instance.Message) (token : String) (e : Exchange) :
    (∃ page e', F.Serves s i ask token e page e') ∨
      (∃ problem e', F.Refuses s i ask token e problem e') ∨ ∃ f, F.Breaks s i ask token e f := by
  cases ha : i.addressOf (ask token) with
  | error f => exact .inr (.inr ⟨f, .address ha⟩)
  | ok address =>
    by_cases hclosed : i.closed = true
    · exact .inr (.inr ⟨.clientClosed, .closed ha hclosed⟩)
    · obtain ⟨request, e', haddress, hanswered⟩ :=
        Instance.exists_answered hi (Bool.eq_false_iff.mpr hclosed) s ha e
      cases hanswer : s.service e.sent request with
      | failed message =>
        rw [hanswer] at hanswered
        exact .inr (.inl ⟨_, e', .transport request hanswered⟩)
      | broken f =>
        rw [hanswer] at hanswered
        exact .inr (.inr ⟨f, .broken request e' hanswered⟩)
      | reply status body =>
        rw [hanswer] at hanswered
        cases hk : Web.Address.checkKind request.address with
        | error f => exact .inr (.inr ⟨f, .kind request status body e' hanswered hk⟩)
        | ok u =>
          cases hs : Web.isSuccess status with
          | false => exact .inr (.inl ⟨_, e', .status request hanswered hk hs⟩)
          | true =>
            cases hd : F.decode body with
            | error rejection =>
              exact .inr (.inl ⟨_, e', .undecodable request status body hanswered hk hs hd⟩)
            | ok page => exact .inl ⟨page, e', .reply request status body hanswered hk hs hd⟩

theorem Follows.runFrom_breaks {pages : List F.Page} (hc : s.cancelAfter = none)
    (h : F.Follows s i ask token e pages token' e₁) (hp : F.Breaks s i ask token' e₁ f)
    {budget : Nat} (hb : pages.length < budget) :
    ∃ e', (fetchPages (F.fetchPage s i ask) F.nextToken budget token).runFrom e =
      (.error (.fault f), e') := by
  obtain ⟨rest, rfl⟩ := Nat.exists_eq_add_of_lt hb
  obtain ⟨e', hrun⟩ := hp.runFrom hc
  refine ⟨e', ?_⟩
  rw [Nat.add_assoc, h.runFrom hc, runFrom_map, fetchPages, runFrom_bind_error hrun]
  rfl

/-- Fetching pages has an outcome, or a chain of pages leads to one that breaks. -/
theorem fetchPages_cases (hi : i.UsesHostToken) (hc : s.cancelAfter = none) (F : Format)
    (ask : String → Instance.Message) (budget : Nat) (token : String) (e : Exchange) :
    (∃ pages e', (fetchPages (F.fetchPage s i ask) F.nextToken budget token).runFrom e =
        (.ok pages, e')) ∨
      (∃ problem e', (fetchPages (F.fetchPage s i ask) F.nextToken budget token).runFrom e =
        (.error (.query problem), e')) ∨
      ∃ pages token' e₁ f, F.Follows s i ask token e pages token' e₁ ∧ pages.length < budget ∧
        F.Breaks s i ask token' e₁ f := by
  -- On the budget; a page that is served and leads on is put in front of what the rest comes to.
  induction budget generalizing token e with
  | zero => exact .inl ⟨[], e, rfl⟩
  | succ budget ih =>
    rw [fetchPages]
    rcases serves_or_refuses_or_breaks hi F s ask token e with
      ⟨page, e₁, hpage⟩ | ⟨problem, e₁, hpage⟩ | ⟨f, hpage⟩
    · rw [runFrom_bind_ok (hpage.runFrom hc)]
      split
      · exact .inl ⟨[page], e₁, rfl⟩
      · rcases ih (F.nextToken page) e₁ with ⟨pages, e₂, h⟩ | ⟨problem, e₂, h⟩ |
          ⟨pages, token', e₂, f, hpages, hlen, hf⟩
        · exact .inl ⟨page :: pages, e₂, runFrom_bind_ok h⟩
        · exact .inr (.inl ⟨problem, e₂, runFrom_bind_error h⟩)
        · have hleads : F.nextToken page ≠ "" := by assumption
          exact .inr (.inr ⟨page :: pages, token', e₂, f, .cons hpage hleads hpages,
            Nat.succ_lt_succ hlen, hf⟩)
    · exact .inr (.inl ⟨problem, e₁, runFrom_bind_error (hpage.runFrom hc)⟩)
    · exact .inr (.inr ⟨[], token, e, f, .nil token e, Nat.succ_pos budget, hpage⟩)

end Format
/-! ### Plans -/

/-- The project in which a plan runs with tokens of the host. -/
def ranIn (p : QueryPlan) (i : Instance) : Data :=
  if p.projectName ≠ "" then .text p.projectName else i.settings.defaultProject

theorem runFrom_project (hi : i.UsesHostToken) (p : QueryPlan) (s : Surroundings) (e : Exchange) :
    (p.project s i).runFrom e = (.ok (p.ranIn i), e) := by
  rw [QueryPlan.project, ranIn]
  split
  · rfl
  · rw [Instance.defaultProject_eq hi, runFrom_mapFailure]
    rfl

/-- A plan breaks if its request cannot be worded, if one of the requests for its pages breaks, or
if all of its answer is there but either the bound of a bucket is out of range, or all was read and
the link cannot be made. -/
inductive Breaks (p : QueryPlan) (s : Surroundings) (i : Instance) (e : Exchange) : Fault → Prop
  | wording {f : Fault} (unworded : p.executed = .error f) : Breaks p s i e f
  | request {f : Fault} (executed : String) (pages : List p.format.Page) (token : String)
      (e₁ : Exchange) (worded : p.executed = .ok executed)
      (fetched : p.format.Follows s i (p.message (p.ranIn i).display executed) "" e pages token e₁)
      (fewer : pages.length < maxPages)
      (breaks : p.format.Breaks s i (p.message (p.ranIn i).display executed) token e₁ f) :
      Breaks p s i e f
  | bound {f : Fault} (finished : Finished) (e₁ : Exchange)
      (ran : (p.run s i).runFrom e = (.ok finished, e₁))
      (unread : (p.readParts finished.executed finished.answer).fault = some f)
      (tooLarge : f.category = .overflow) : Breaks p s i e f
  | link {f : Fault} (finished : Finished) (e₁ : Exchange)
      (ran : (p.run s i).runFrom e = (.ok finished, e₁))
      (read : (p.readParts finished.executed finished.answer).fault = none)
      (filled : finished.answer.isEmpty = false)
      (unlinked : p.link finished.project = .error f) : Breaks p s i e f

/-- A plan has run, or there is a problem of its query, or it breaks before it has run. -/
theorem runFrom_run_cases (hi : i.UsesHostToken) (hc : s.cancelAfter = none) (p : QueryPlan)
    (e : Exchange) :
    (∃ finished e', (p.run s i).runFrom e = (.ok finished, e')) ∨
      (∃ problem e', (p.run s i).runFrom e = (.error (.query problem), e')) ∨
      ∃ f, p.Breaks s i e f := by
  cases hexecuted : p.executed with
  | error f => exact .inr (.inr ⟨f, .wording hexecuted⟩)
  | ok executed =>
    rw [runFrom_run (runFrom_project hi p s e) hexecuted]
    rcases Format.fetchPages_cases hi hc p.format (p.message (p.ranIn i).display executed)
      maxPages "" e with ⟨pages, e₁, h⟩ | ⟨problem, e₁, h⟩ | ⟨pages, token, e₁, f, hp, hlen, hf⟩
    · exact .inl ⟨_, e₁, runFrom_bind_ok h⟩
    · exact .inr (.inl ⟨problem, e₁, runFrom_bind_error h⟩)
    · exact .inr (.inr ⟨f, .request executed pages token e₁ hexecuted hp hlen hf⟩)

theorem isUnreadable_of_overflow (h : f.category = .overflow) : f.isUnreadable = false := by
  rw [Fault.isUnreadable, h]
  decide

variable {finished : Finished}

theorem frames_unreadable (hf : (p.readParts finished.executed finished.answer).fault = some f)
    (hu : f.isUnreadable = true) : ∃ frames, p.frames finished.project finished.executed
      finished.answer = (frames, some (.query (.unreadable p.refId f))) := by
  rw [frames, hf]
  dsimp only
  rw [readingFailure, if_pos hu]
  exact ⟨_, rfl⟩

theorem frames_tooLarge (hf : (p.readParts finished.executed finished.answer).fault = some f)
    (ho : f.category = .overflow) : ∃ frames, p.frames finished.project finished.executed
      finished.answer = (frames, some (.fault f)) := by
  rw [frames, hf]
  dsimp only
  rw [readingFailure, isUnreadable_of_overflow ho]
  exact ⟨_, rfl⟩

theorem frames_unlinked (hf : (p.readParts finished.executed finished.answer).fault = none)
    (hempty : finished.answer.isEmpty = false) (hlink : p.link finished.project = .error f) :
    ∃ frames, p.frames finished.project finished.executed finished.answer =
      (frames, some (.fault f)) := by
  rw [frames, hf]
  dsimp only
  rw [decorate, hempty, hlink]
  exact ⟨_, rfl⟩

theorem frames_linked (hf : (p.readParts finished.executed finished.answer).fault = none)
    (hlink : finished.answer.isEmpty = true ∨ ∃ url, p.link finished.project = .ok url) :
    ∃ frames, p.frames finished.project finished.executed finished.answer = (frames, none) := by
  rw [frames, hf]
  dsimp only
  rw [decorate]
  rcases hlink with hempty | ⟨url, hlink⟩
  · rw [if_pos hempty]
    exact ⟨_, rfl⟩
  · rw [hlink]
    cases finished.answer.isEmpty <;> exact ⟨_, rfl⟩

/-- The frames of an answer come with no failure or a problem of the query, unless the bound of a
bucket is out of range or the link cannot be made. -/
theorem frames_cases (p : QueryPlan) (finished : Finished) :
    (∃ frames, p.frames finished.project finished.executed finished.answer = (frames, none)) ∨
      (∃ frames problem, p.frames finished.project finished.executed finished.answer =
        (frames, some (.query problem))) ∨
      ∃ f, (p.readParts finished.executed finished.answer).fault = some f ∧
          f.category = .overflow ∨
        (p.readParts finished.executed finished.answer).fault = none ∧
          finished.answer.isEmpty = false ∧ p.link finished.project = .error f := by
  cases hfault : (p.readParts finished.executed finished.answer).fault with
  | some f =>
    rcases sound_readParts p _ _ f hfault with hf | hf
    · obtain ⟨frames, h⟩ := frames_unreadable hfault hf
      exact .inr (.inl ⟨frames, _, h⟩)
    · exact .inr (.inr ⟨f, .inl ⟨rfl, hf⟩⟩)
  | none =>
    cases hempty : finished.answer.isEmpty with
    | true => exact .inl (frames_linked hfault (.inl hempty))
    | false =>
      cases hlink : p.link finished.project with
      | ok url => exact .inl (frames_linked hfault (.inr ⟨url, hlink⟩))
      | error f => exact .inr (.inr ⟨f, .inr ⟨rfl, rfl, rfl⟩⟩)

end MetricFrames.QueryPlan
