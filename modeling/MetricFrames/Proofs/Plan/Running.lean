import MetricFrames.Proofs.Data.Stepwise
import MetricFrames.Proofs.Datasource.Sending
import MetricFrames.Proofs.Plan.Building
import MetricFrames.Proofs.Plan.Paging

/-!
# Runs of plans

A plan that runs in its project fetches every page that the service gives, up to a hundred, and
nothing but these (`run_paged`). This holds as far as the requests can be made at all; a project may
have a name that no address can hold (`run_unaddressable`).
-/

namespace MetricFrames.QueryPlan

open Work

/-! ### What a plan sends -/

/-- A token as a list. -/
def tokenList (token : String) : List String := if token = "" then [] else [token]

/-- A request for a page of series: the parameters, and beside them exactly the token. -/
def AsksForSeries (i : Instance) (project : String) (params : RequestParams) (token : String)
    (request : Web.Request) : Prop :=
  request.method = "GET" ∧ request.body = none ∧
    ∃ path address, i.base.below (seriesPath project).toList = .ok path ∧
      path.withQuery (Web.formEncode
        (params.sorted ++ (tokenList token).map fun token => ("pageToken", token))) =
          .ok address ∧
      request.address = String.ofList address.text

/-- A request for a page of a table: the query, and beside it exactly the token. -/
def AsksForTable (i : Instance) (project executed token : String) (request : Web.Request) :
    Prop :=
  request.method = "POST" ∧
    request.body = some (String.ofList (Json.compact false (.object
      (("query", .text executed) ::
        (tokenList token).map fun token => ("pageToken", .text token))))) ∧
    ∃ address, i.base.below (queryPath project).toList = .ok address ∧
      request.address = String.ofList address.text

/-- A request for a page of the answer to a plan. -/
def Asks (p : QueryPlan) (i : Instance) (project executed token : String)
    (request : Web.Request) : Prop :=
  match p.shape with
  | .written .. => AsksForTable i project executed token request
  | _ => AsksForSeries i project p.params token request

variable {p : QueryPlan} {i : Instance} {s : Surroundings} {project executed token : String}
  {request : Web.Request} {e e' : Exchange}

theorem asksForSeries_of_carries {params : RequestParams}
    (h : i.Carries (seriesMessage project params token) request) :
    AsksForSeries i project params token request := by
  obtain ⟨hmethod, hbody, address, ha, haddress⟩ := h
  obtain ⟨path, hpath, hquery⟩ := exists_of_bind_eq_ok ha
  refine ⟨hmethod, hbody, path, address, hpath, ?_, haddress⟩
  rw [← hquery]
  by_cases ht : token = "" <;> simp [seriesMessage, tokenList, ht]

theorem addressOf_queryMessage (i : Instance) (project executed token : String) :
    i.addressOf (queryMessage project executed token) = i.base.below (queryPath project).toList :=
  bind_pure (i.base.below (queryPath project).toList)

theorem asksForTable_of_carries (h : i.Carries (queryMessage project executed token) request) :
    AsksForTable i project executed token request := by
  obtain ⟨hmethod, hbody, address, ha, haddress⟩ := h
  rw [addressOf_queryMessage] at ha
  refine ⟨hmethod, ?_, address, ha, haddress⟩
  rw [hbody]
  by_cases ht : token = "" <;> simp [queryMessage, queryBody, tokenList, ht]

theorem asks_of_carries (h : i.Carries (p.message project executed token) request) :
    p.Asks i project executed token request := by
  rw [message] at h
  rw [Asks]
  cases hshape : p.shape with
  | filter params groupBys =>
    rw [hshape] at h
    exact asksForSeries_of_carries h
  | objective params service slo selector =>
    rw [hshape] at h
    exact asksForSeries_of_carries h
  | written query graphPeriod maxDataPoints =>
    rw [hshape] at h
    exact asksForTable_of_carries h

/-- What was sent meanwhile are requests for the pages of some tokens, one for each. -/
def Requests (p : QueryPlan) (i : Instance) (project executed : String) (tokens : List String)
    (e e' : Exchange) : Prop :=
  ∃ requests, e'.sent = e.sent ++ requests ∧ requests.length = tokens.length ∧
    List.Forall₂ (p.Asks i project executed) tokens requests

theorem requests_of_sends {tokens : List String}
    (h : Format.Sends i (p.message project executed) tokens e e') :
    p.Requests i project executed tokens e e' := by
  obtain ⟨requests, hsent, hall⟩ := h
  exact ⟨requests, hsent, hall.length_eq.symm, hall.imp fun _ _ hr => asks_of_carries hr⟩

/-! ### Runs -/

theorem quiet_project (p : QueryPlan) : Quiet (p.project s i) := by
  rw [QueryPlan.project]
  split
  · exact .pure _
  · exact .mapFailure _ (i.quiet_defaultProject)

theorem runFrom_run {e₀ : Exchange} {project : Data}
    (hproject : (p.project s i).runFrom e = (.ok project, e₀))
    (hexecuted : p.executed = .ok executed) :
    (p.run s i).runFrom e = (do
      let pages ← fetchPages (p.format.fetchPage s i (p.message project.display executed))
        p.format.nextToken maxPages ""
      return (⟨project, executed, p.format.join pages⟩ : Finished)).runFrom e₀ := by
  rw [run, runFrom_bind_ok hproject, hexecuted, ofFault_ok, pure_bind, fetch_eq, bind_assoc]
  rfl

/-- A plan that runs in its project, each of whose requests can be made, comes to all pages up to
the first one without a token, to the first hundred pages if all of these lead on, and to a problem
if a page is refused before. It sends one request for each of these pages, which asks for the plan's
series or table and carries the token of the page before, and no others. How the items are divided
into pages makes no difference. -/
theorem run_paged (p : QueryPlan) {s : Surroundings} (hc : s.cancelAfter = none) (i : Instance)
    {e e₀ : Exchange} {project : Data} {executed : String}
    (hproject : (p.project s i).runFrom e = (.ok project, e₀))
    (hexecuted : p.executed = .ok executed) :
    let F := p.format
    let ask := p.message project.display executed
    let Requests := p.Requests i project.display executed
    (∀ pages page token e₁ e₂, F.Follows s i ask "" e₀ pages token e₁ → pages.length < maxPages →
      F.Serves s i ask token e₁ page e₂ → F.nextToken page = "" →
        (p.run s i).runFrom e = (.ok ⟨project, executed, F.join (pages ++ [page])⟩, e₂) ∧
          Requests ("" :: pages.map F.nextToken) e e₂) ∧
    (∀ pages token e₁, F.Follows s i ask "" e₀ pages token e₁ → pages.length = maxPages →
      (p.run s i).runFrom e = (.ok ⟨project, executed, F.join pages⟩, e₁) ∧
        Requests ("" :: pages.map F.nextToken).dropLast e e₁) ∧
    (∀ pages token problem e₁ e₂, F.Follows s i ask "" e₀ pages token e₁ →
      pages.length < maxPages → F.Refuses s i ask token e₁ problem e₂ →
        (p.run s i).runFrom e = (.error (.query problem), e₂) ∧
          Requests ("" :: pages.map F.nextToken) e e₂) ∧
    ∀ pages pages' : List F.Page, pages.flatMap F.items = pages'.flatMap F.items →
      F.common pages = F.common pages' → F.join pages = F.join pages' := by
  intro F ask Requests
  -- Finding the project sends nothing, so the requests count from the start of the run.
  have hquiet : e₀.sent = e.sent := by
    have hq := quiet_project (s := s) (i := i) p e
    rwa [hproject] at hq
  have hrequests : ∀ tokens e₂, Format.Sends i ask tokens e₀ e₂ → Requests tokens e e₂ := by
    intro tokens e₂ h
    have hr := requests_of_sends h
    rwa [QueryPlan.Requests, hquiet] at hr
  rw [runFrom_run hproject hexecuted]
  refine ⟨?_, ?_, ?_, ?_⟩
  · intro pages page token e₁ e₂ hpages hlen hpage hlast
    obtain ⟨request, answer, hanswered⟩ := hpage.answered
    exact ⟨runFrom_bind_ok (hpages.runFrom_last hc hpage hlast hlen),
      hrequests _ _ (hpages.sends_next hanswered)⟩
  · intro pages token e₁ hpages hlen
    rw [← hlen]
    exact ⟨runFrom_bind_ok (hpages.runFrom_full hc), hrequests _ _ hpages.sends⟩
  · intro pages token problem e₁ e₂ hpages hlen hpage
    obtain ⟨request, answer, hanswered⟩ := hpage.answered
    exact ⟨runFrom_bind_error (hpages.runFrom_refused hc hpage hlen),
      hrequests _ _ (hpages.sends_next hanswered)⟩
  · intro pages pages' hitems hcommon
    rw [Format.join, hitems, hcommon]
    rfl

/-! ### Some services -/

/-- A page of a table that leads on. -/
def leadingPage : String := "\x7b\"nextPageToken\": \"t\"\x7d"

/-- Surroundings in which the service gives some pages that lead on, and from then on one answer. -/
def givingPages (count : Nat) (last : Web.Answer) : Surroundings :=
  { Surroundings.answering fun _ => last with
    service := fun sent _ => if sent.length < count then .reply 200 leadingPage else last }

/-- A plan for a table in a project. -/
def tableOf (project : String) : QueryPlan where
  refId := "A"
  timeRange := ⟨.unixStart (some 0), .unixStart (some 0)⟩
  intervalMs := 1000
  projectName := project
  aliasBy := ""
  shape := .written "fetch" "" 0

/-- The token in a body, if it is that of a page of a table. -/
def tokenIn (body : String) : Option String :=
  (TablePage.ofBody body).toOption.map (·.nextPageToken)

theorem exists_page {body token : String} (h : tokenIn body = some token) :
    ∃ page, TablePage.ofBody body = .ok page ∧ page.nextPageToken = token := by
  rw [tokenIn] at h
  cases hp : TablePage.ofBody body with
  | error rejection =>
    rw [hp] at h
    cases h
  | ok page =>
    rw [hp] at h
    exact ⟨page, rfl, Option.some.inj h⟩

/-- Requests for pages of a table of the project `p` can be made. -/
theorem exists_answered_tableOf (s : Surroundings) (executed token : String) (e : Exchange) :
    ∃ request e', Web.Address.checkKind request.address = .ok () ∧
      Instance.Answered s .bare ((tableOf "p").message "p" executed token) e request
        (s.service e.sent request) e' := by
  have h : ((Instance.bare.base.below (queryPath "p").toList).bind fun address =>
      Web.Address.checkKind (String.ofList address.text)).toBool = true := by decide +kernel
  cases hknown : (Instance.bare.base.below (queryPath "p").toList).bind fun address =>
      Web.Address.checkKind (String.ofList address.text) with
  | error f =>
    rw [hknown] at h
    cases h
  | ok u =>
    obtain ⟨address, ha, hknown⟩ := exists_of_bind_eq_ok hknown
    rw [← addressOf_queryMessage _ _ executed token] at ha
    obtain ⟨request, e', haddress, hanswered⟩ :=
      Instance.exists_answered Instance.usesHostToken_bare rfl s ha e
    exact ⟨request, e', by rw [haddress, hknown], hanswered⟩

theorem follows_givingPages {count n : Nat} (last : Web.Answer) (executed : String)
    {e : Exchange} (h : e.sent.length + n ≤ count) (token : String) :
    ∃ pages token' e', (tableOf "p").format.Follows (givingPages count last) .bare
      ((tableOf "p").message "p" executed) token e pages token' e' ∧ pages.length = n ∧
        e'.sent.length = e.sent.length + n := by
  induction n generalizing e token with
  | zero => exact ⟨[], token, e, .nil token e, rfl, rfl⟩
  | succ n ih =>
    obtain ⟨request, e₁, hknown, hanswered⟩ :=
      exists_answered_tableOf (givingPages count last) executed token e
    have hsent : e₁.sent.length = e.sent.length + 1 := by
      rw [hanswered.sent, List.length_append]
      rfl
    have hbody : tokenIn leadingPage = some "t" := by decide +kernel
    obtain ⟨page, hpage, htoken⟩ := exists_page hbody
    have hlt : e.sent.length < count := by omega
    have hservice : (givingPages count last).service e.sent request = .reply 200 leadingPage :=
      if_pos hlt
    rw [hservice] at hanswered
    obtain ⟨pages, token', e₂, hrest, hlen, hsent'⟩ := ih (e := e₁) (by omega) page.nextPageToken
    have hleads : page.nextPageToken ≠ "" := by
      rw [htoken]
      decide
    exact ⟨page :: pages, token', e₂,
      .cons (.reply request 200 leadingPage hanswered hknown rfl hpage) hleads hrest,
      congrArg (· + 1) hlen, by omega⟩

/-- The last answer of a service that gave its pages. -/
theorem answered_givingPages {count : Nat} (last : Web.Answer) (executed : String) {e : Exchange}
    (h : count ≤ e.sent.length) (token : String) :
    ∃ request e', Web.Address.checkKind request.address = .ok () ∧
      Instance.Answered (givingPages count last) .bare ((tableOf "p").message "p" executed token) e
        request last e' := by
  obtain ⟨request, e', hknown, hanswered⟩ :=
    exists_answered_tableOf (givingPages count last) executed token e
  have hservice : (givingPages count last).service e.sent request = last :=
    if_neg (Nat.not_lt.mpr h)
  rw [hservice] at hanswered
  exact ⟨request, e', hknown, hanswered⟩

theorem length_sent_of_requests {tokens : List String}
    (h : p.Requests i project executed tokens {} e') : e'.sent.length = tokens.length := by
  obtain ⟨requests, hsent, hlen, -⟩ := h
  rw [hsent, ← hlen]
  rfl

/-- Two pages and a last one, a hundred pages of a service that would give more, and two pages
before a failure. -/
theorem run_paged_tableOf : ∃ executed, (tableOf "p").executed = .ok executed ∧
    (∃ answer e', ((tableOf "p").run (givingPages 2 (.reply 200 "\x7b\x7d")) .bare).runFrom {} =
      (.ok ⟨.text "p", executed, answer⟩, e') ∧ e'.sent.length = 3) ∧
    (∃ answer e', ((tableOf "p").run (givingPages 101 (.failed "")) .bare).runFrom {} =
      (.ok ⟨.text "p", executed, answer⟩, e') ∧ e'.sent.length = 100) ∧
    ∃ e', ((tableOf "p").run (givingPages 2 (.failed "down")) .bare).runFrom {} =
      (.error (.query (.transport "down")), e') ∧ e'.sent.length = 3 := by
  have hok : (tableOf "p").executed.toBool = true := by decide +kernel
  cases hexecuted : (tableOf "p").executed with
  | error f =>
    rw [hexecuted] at hok
    cases hok
  | ok executed =>
    have hproject : ∀ s, ((tableOf "p").project s .bare).runFrom {} = (.ok (.text "p"), {}) :=
      fun s => rfl
    refine ⟨executed, rfl, ?_, ?_, ?_⟩
    · obtain ⟨pages, token, e₁, hpages, hlen, hsent⟩ :=
        follows_givingPages (n := 2) (.reply 200 "\x7b\x7d") executed (e := {}) (Nat.le_refl 2) ""
      obtain ⟨request, e₂, hknown, hanswered⟩ :=
        answered_givingPages _ executed (Nat.le_of_eq hsent.symm) token
      have hbody : tokenIn "\x7b\x7d" = some "" := by decide +kernel
      obtain ⟨page, hpage, htoken⟩ := exists_page hbody
      obtain ⟨hlast, -⟩ := run_paged _ (s := givingPages 2 (.reply 200 "\x7b\x7d")) rfl .bare
        (hproject _) hexecuted
      obtain ⟨hrun, hrequests⟩ := hlast pages page token e₁ e₂ hpages (by rw [hlen]; decide)
        (.reply request 200 _ hanswered hknown rfl hpage) htoken
      refine ⟨_, _, hrun, (length_sent_of_requests hrequests).trans ?_⟩
      rw [List.length_cons, List.length_map, hlen]
    · obtain ⟨pages, token, e₁, hpages, hlen, hsent⟩ :=
        follows_givingPages (n := 100) (.failed "") executed (e := {}) (Nat.le_succ 100) ""
      obtain ⟨-, hfull, -⟩ := run_paged _ (s := givingPages 101 (.failed "")) rfl .bare
        (hproject _) hexecuted
      obtain ⟨hrun, hrequests⟩ := hfull pages token e₁ hpages hlen
      refine ⟨_, _, hrun, (length_sent_of_requests hrequests).trans ?_⟩
      rw [List.length_dropLast, List.length_cons, List.length_map, hlen]
    · obtain ⟨pages, token, e₁, hpages, hlen, hsent⟩ :=
        follows_givingPages (n := 2) (.failed "down") executed (e := {}) (Nat.le_refl 2) ""
      obtain ⟨request, e₂, -, hanswered⟩ :=
        answered_givingPages _ executed (Nat.le_of_eq hsent.symm) token
      obtain ⟨-, -, hrefused, -⟩ := run_paged _ (s := givingPages 2 (.failed "down")) rfl .bare
        (hproject _) hexecuted
      obtain ⟨hrun, hrequests⟩ := hrefused pages token _ e₁ e₂ hpages (by rw [hlen]; decide)
        (.transport request hanswered)
      refine ⟨_, hrun, (length_sent_of_requests hrequests).trans ?_⟩
      rw [List.length_cons, List.length_map, hlen]

/-- A project with a line break in its name is resolved like any other, and the service would give a
valid last page at once; but no address can hold the name, so that nothing is sent and there is
neither an answer nor a problem of the query. -/
theorem run_unaddressable :
    let s := givingPages 0 (.reply 200 "\x7b\x7d")
    let p := tableOf "a\nb"
    (∀ request, ∃ page, s.service [] request = .reply 200 "\x7b\x7d" ∧
      TablePage.ofBody "\x7b\x7d" = .ok page ∧ page.nextPageToken = "") ∧
    (p.project s .bare).runFrom {} = (.ok (.text "a\nb"), {}) ∧
    ∃ f e', (p.run s .bare).runFrom {} = (.error (.fault f), e') ∧ e'.sent = [] := by
  intro s p
  refine ⟨fun request => ?_, rfl, ?_⟩
  · have hbody : tokenIn "\x7b\x7d" = some "" := by decide +kernel
    obtain ⟨page, hpage, htoken⟩ := exists_page hbody
    exact ⟨page, rfl, hpage, htoken⟩
  · have hfault : (faultOf ((p.run s .bare).runFrom {}).1).isSome = true := by decide +kernel
    have hsent : ((p.run s .bare).runFrom {}).2.sent = [] := by decide +kernel
    obtain ⟨f, hf⟩ := Option.isSome_iff_exists.mp hfault
    exact ⟨f, _, runFrom_eq_of_fst (eq_of_faultOf hf), hsent⟩

end MetricFrames.QueryPlan
