import MetricFrames.Plan.Running
import MetricFrames.Proofs.Datasource.Requests
import Mathlib.Data.List.Forall2

/-!
# Paging

Series and tables are fetched page by page in the same way. A `Format` says how a page is decoded,
which token leads on from it, and how pages make up an answer. The requests for pages are served or
refused one by one (`Serves`, `Refuses`); pages that lead on to each other form a chain (`Follows`).
-/

namespace MetricFrames.QueryPlan

open Work

/-! ### Formats -/

/-- How pages are read and put together: each has items, and there is something that all pages
together say beside their items. -/
structure Format where
  Page : Type
  Item : Type
  Common : Type
  decode : String → Except Rejection Page
  nextToken : Page → String
  items : Page → List Item
  common : List Page → Common
  whole : List Item → Common → QueryAnswer

namespace Format

/-- The answer in some pages. -/
def join (F : Format) (pages : List F.Page) : QueryAnswer :=
  F.whole (pages.flatMap F.items) (F.common pages)

/-- Pages of series; the first unit that is given is that of the answer. -/
def series : Format where
  Page := SeriesPage
  Item := Series
  Common := String
  decode := SeriesPage.ofBody
  nextToken := SeriesPage.nextPageToken
  items := SeriesPage.series
  common pages := ((pages.find? fun page => page.unit ≠ "").map SeriesPage.unit).getD ""
  whole items unit := .series { series := items, unit := unit }

/-- Pages of a table; the first one describes the answer. -/
def tables : Format where
  Page := TablePage
  Item := TableRow
  Common := TableDescriptor
  decode := TablePage.ofBody
  nextToken := TablePage.nextPageToken
  items := TablePage.rows
  common pages := (pages.head?.map TablePage.descriptor).getD {}
  whole items descriptor := .table { descriptor := descriptor, rows := items }

/-- Fetches one page. -/
def fetchPage (F : Format) (s : Surroundings) (i : Instance) (ask : String → Instance.Message)
    (token : String) : Work F.Page := do
  replyOf F.decode (← i.send s (ask token))

end Format

/-- The format of the answer to a plan. -/
def format (p : QueryPlan) : Format :=
  match p.shape with
  | .written .. => .tables
  | _ => .series

theorem fetch_eq (p : QueryPlan) (s : Surroundings) (i : Instance) (project executed : String) :
    p.fetch s i project executed = (do
      let pages ← fetchPages (p.format.fetchPage s i (p.message project executed))
        p.format.nextToken maxPages ""
      return p.format.join pages) := by
  rw [fetch, format]
  cases p.shape <;> rfl

/-! ### Single pages -/

namespace Format

variable {F : Format} {s : Surroundings} {i : Instance} {ask : String → Instance.Message}
  {token token' : String} {e e₁ e₂ : Exchange} {page : F.Page} {problem : QueryProblem}

/-- The request for the page of a token comes to a valid page. -/
inductive Serves (F : Format) (s : Surroundings) (i : Instance) (ask : String → Instance.Message)
    (token : String) (e : Exchange) (page : F.Page) (e' : Exchange) : Prop
  | reply (request : Web.Request) (status : Nat) (body : String)
      (answered : Instance.Answered s i (ask token) e request (.reply status body) e')
      (known : Web.Address.checkKind request.address = .ok ())
      (success : Web.isSuccess status = true) (decoded : F.decode body = .ok page)

/-- The request for the page of a token comes to no valid page: it fails on the way, the reply does
not report success, or it cannot be decoded. -/
inductive Refuses (F : Format) (s : Surroundings) (i : Instance) (ask : String → Instance.Message)
    (token : String) (e : Exchange) : QueryProblem → Exchange → Prop
  | transport {message : String} {e' : Exchange} (request : Web.Request)
      (answered : Instance.Answered s i (ask token) e request (.failed message) e') :
      Refuses F s i ask token e (.transport message) e'
  | status {status : Nat} {body : String} {e' : Exchange} (request : Web.Request)
      (answered : Instance.Answered s i (ask token) e request (.reply status body) e')
      (known : Web.Address.checkKind request.address = .ok ())
      (failure : Web.isSuccess status = false) :
      Refuses F s i ask token e (.status status body) e'
  | undecodable {rejection : Rejection} {e' : Exchange} (request : Web.Request) (status : Nat)
      (body : String)
      (answered : Instance.Answered s i (ask token) e request (.reply status body) e')
      (known : Web.Address.checkKind request.address = .ok ())
      (success : Web.isSuccess status = true) (rejected : F.decode body = .error rejection) :
      Refuses F s i ask token e (.undecodable rejection) e'

theorem Serves.answered (h : F.Serves s i ask token e page e₁) :
    ∃ request answer, Instance.Answered s i (ask token) e request answer e₁ := by
  cases h with
  | reply request status body answered known success decoded => exact ⟨_, _, answered⟩

theorem Refuses.answered (h : F.Refuses s i ask token e problem e₁) :
    ∃ request answer, Instance.Answered s i (ask token) e request answer e₁ := by
  cases h with
  | transport request answered => exact ⟨_, _, answered⟩
  | status request answered known failure => exact ⟨_, _, answered⟩
  | undecodable request status body answered known success rejected => exact ⟨_, _, answered⟩

theorem Serves.runFrom (hc : s.cancelAfter = none) (h : F.Serves s i ask token e page e₁) :
    (F.fetchPage s i ask token).runFrom e = (.ok page, e₁) := by
  have hcut : isCancelled s e = false := isCancelled_eq_false hc e
  cases h with
  | reply request status body answered known success decoded =>
    have hsend := (answered.runFrom_send hcut).trans (Instance.runFrom_replyIn_reply hc known)
    rw [fetchPage, runFrom_bind_ok hsend, replyOf, if_pos success, decoded]
    rfl

theorem Refuses.runFrom (hc : s.cancelAfter = none) (h : F.Refuses s i ask token e problem e₁) :
    (F.fetchPage s i ask token).runFrom e = (.error (.query problem), e₁) := by
  have hcut : isCancelled s e = false := isCancelled_eq_false hc e
  cases h with
  | transport request answered => exact runFrom_bind_error (answered.runFrom_send hcut)
  | status request answered known failure =>
    have hsend := (answered.runFrom_send hcut).trans (Instance.runFrom_replyIn_reply hc known)
    rw [fetchPage, runFrom_bind_ok hsend, replyOf, failure]
    rfl
  | undecodable request status body answered known success rejected =>
    have hsend := (answered.runFrom_send hcut).trans (Instance.runFrom_replyIn_reply hc known)
    rw [fetchPage, runFrom_bind_ok hsend, replyOf, if_pos success, rejected]
    rfl

/-! ### Chains of pages -/

/-- Pages that are served one after another, each with the token of the page before, the first one
with `token`; all of them lead on, the last one with `token'`. -/
inductive Follows (F : Format) (s : Surroundings) (i : Instance)
    (ask : String → Instance.Message) : String → Exchange → List F.Page → String → Exchange → Prop
  | nil (token : String) (e : Exchange) : Follows F s i ask token e [] token e
  | cons {token token' : String} {e e₁ e₂ : Exchange} {page : F.Page} {pages : List F.Page}
      (first : F.Serves s i ask token e page e₁) (leads : F.nextToken page ≠ "")
      (rest : Follows F s i ask (F.nextToken page) e₁ pages token' e₂) :
      Follows F s i ask token e (page :: pages) token' e₂

variable {pages : List F.Page}

/-- Pages that lead on are fetched, and then what follows. -/
theorem Follows.runFrom (hc : s.cancelAfter = none) (h : F.Follows s i ask token e pages token' e₁)
    (budget : Nat) :
    (fetchPages (F.fetchPage s i ask) F.nextToken (pages.length + budget) token).runFrom e =
      (((pages ++ ·) <$>
        fetchPages (F.fetchPage s i ask) F.nextToken budget token').runFrom e₁) := by
  -- Each page of the chain takes one of the budget and passes its token on.
  induction h with
  | nil token e =>
    rw [runFrom_map, List.length_nil, Nat.zero_add]
    rcases (fetchPages (F.fetchPage s i ask) F.nextToken budget token).runFrom e with ⟨_ | _, _⟩ <;>
      rfl
  | cons first leads rest ih =>
    rw [List.length_cons, Nat.add_right_comm, fetchPages, runFrom_bind_ok (first.runFrom hc),
      if_neg leads, runFrom_bind, ih, runFrom_map, runFrom_map]
    rcases (fetchPages (F.fetchPage s i ask) F.nextToken budget _).runFrom _ with ⟨_ | _, _⟩ <;> rfl

/-- The pages after a chain whose budget is used up: none. -/
theorem Follows.runFrom_full (hc : s.cancelAfter = none)
    (h : F.Follows s i ask token e pages token' e₁) :
    (fetchPages (F.fetchPage s i ask) F.nextToken pages.length token).runFrom e =
      (.ok pages, e₁) := by
  have hrun := h.runFrom hc 0
  rw [runFrom_map] at hrun
  rw [Nat.add_zero] at hrun
  rw [hrun]
  show (Except.ok (pages ++ []), e₁) = _
  rw [List.append_nil]

/-- A page without a token is the last one. -/
theorem Follows.runFrom_last (hc : s.cancelAfter = none)
    (h : F.Follows s i ask token e pages token' e₁) (hp : F.Serves s i ask token' e₁ page e₂)
    (hlast : F.nextToken page = "") {budget : Nat} (hb : pages.length < budget) :
    (fetchPages (F.fetchPage s i ask) F.nextToken budget token).runFrom e =
      (.ok (pages ++ [page]), e₂) := by
  obtain ⟨rest, rfl⟩ := Nat.exists_eq_add_of_lt hb
  rw [Nat.add_assoc, h.runFrom hc, runFrom_map, fetchPages, runFrom_bind_ok (hp.runFrom hc),
    if_pos hlast]
  rfl

/-- A page that is refused ends the chain. -/
theorem Follows.runFrom_refused (hc : s.cancelAfter = none)
    (h : F.Follows s i ask token e pages token' e₁)
    (hp : F.Refuses s i ask token' e₁ problem e₂) {budget : Nat} (hb : pages.length < budget) :
    (fetchPages (F.fetchPage s i ask) F.nextToken budget token).runFrom e =
      (.error (.query problem), e₂) := by
  obtain ⟨rest, rfl⟩ := Nat.exists_eq_add_of_lt hb
  rw [Nat.add_assoc, h.runFrom hc, runFrom_map, fetchPages, runFrom_bind_error (hp.runFrom hc)]
  rfl

/-! ### Requests of a chain -/

/-- What was sent meanwhile are requests for the pages of some tokens, one for each. -/
def Sends (i : Instance) (ask : String → Instance.Message) (tokens : List String)
    (e e' : Exchange) : Prop :=
  ∃ requests, e'.sent = e.sent ++ requests ∧
    List.Forall₂ (fun token request => i.Carries (ask token) request) tokens requests

theorem Sends.cons {tokens : List String} {request : Web.Request} {answer : Web.Answer}
    (h : Instance.Answered s i (ask token) e request answer e₁) (hs : Sends i ask tokens e₁ e₂) :
    Sends i ask (token :: tokens) e e₂ := by
  obtain ⟨requests, hsent, hall⟩ := hs
  refine ⟨request :: requests, ?_, .cons h.carries hall⟩
  rw [hsent, h.sent, List.append_assoc]
  rfl

/-- The requests of a chain, one for each page. -/
theorem Follows.sends (h : F.Follows s i ask token e pages token' e₁) :
    Sends i ask (token :: pages.map F.nextToken).dropLast e e₁ := by
  induction h with
  | nil token e => exact ⟨[], (List.append_nil _).symm, .nil⟩
  | cons first leads rest ih =>
    obtain ⟨request, answer, h⟩ := first.answered
    rw [List.map_cons, List.dropLast_cons_cons]
    exact .cons h ih

/-- The requests of a chain and of one more page. -/
theorem Follows.sends_next {request : Web.Request} {answer : Web.Answer}
    (h : F.Follows s i ask token e pages token' e₁)
    (hn : Instance.Answered s i (ask token') e₁ request answer e₂) :
    Sends i ask (token :: pages.map F.nextToken) e e₂ := by
  induction h with
  | nil token e => exact .cons hn ⟨[], (List.append_nil _).symm, .nil⟩
  | cons first leads rest ih =>
    obtain ⟨request, answer, h⟩ := first.answered
    rw [List.map_cons]
    exact .cons h (ih hn)

end Format
end MetricFrames.QueryPlan
