import MetricFrames.Datasource.Instance
import MetricFrames.Plan.Frames
import MetricFrames.Series.Decoding

/-!
# Running plans

A plan runs in a project: its own, or the default project of the datasource. The answer comes in
pages; each page but the last gives a token for the next one. A service that never stops giving
tokens is left after a hundred pages.
-/

namespace MetricFrames.QueryPlan

/-- How many pages are fetched at most. -/
def maxPages : Nat := 100

/-- Fetches pages, each with the token of the page before, until a page has no token or the budget
is used up. -/
def fetchPages {Page : Type} (fetch : String → Work Page) (nextToken : Page → String) :
    (budget : Nat) → (token : String) → Work (List Page)
  | 0, _ => pure []
  | budget + 1, token => do
    let page ← fetch token
    if nextToken page = "" then return [page]
    else
      let pages ← fetchPages fetch nextToken budget (nextToken page)
      return page :: pages

/-- All pages of series as one: their series in order and the first unit that is given. -/
def joinSeries (pages : List SeriesPage) : SeriesPage where
  series := pages.flatMap (·.series)
  unit := ((pages.find? fun p => p.unit ≠ "").map (·.unit)).getD ""

/-- All pages of a table as one: their rows in order, under the descriptor of the first page. -/
def joinTables (pages : List TablePage) : TablePage where
  descriptor := (pages.head?.map (·.descriptor)).getD {}
  rows := pages.flatMap (·.rows)

/-- The value in the reply to a message: a reply that does not report success is a problem of the
query, and so is one that cannot be decoded. -/
def replyOf {α : Type} (decode : String → Except Rejection α) (reply : Nat × String) : Work α :=
  if Web.isSuccess reply.1 then
    match decode reply.2 with
    | .ok a => pure a
    | .error rejection => throw (.query (.undecodable rejection))
  else throw (.query (.status reply.1 reply.2))

/-- The path for series in a project. -/
def seriesPath (project : String) : String := "/v3/projects/" ++ project ++ "/timeSeries"

/-- The path for queries in a project. -/
def queryPath (project : String) : String := seriesPath project ++ ":query"

/-- The message for a page of series. -/
def seriesMessage (project : String) (params : RequestParams) (token : String) :
    Instance.Message where
  method := "GET"
  path := seriesPath project
  query := some (params.sorted ++ if token = "" then [] else [("pageToken", token)])

/-- The body of a message for a page of a table. -/
def queryBody (executed token : String) : Data :=
  .object (("query", .text executed) :: if token = "" then [] else [("pageToken", .text token)])

/-- The message for a page of a table. -/
def queryMessage (project executed token : String) : Instance.Message where
  method := "POST"
  path := queryPath project
  body := some (String.ofList (Json.compact false (queryBody executed token)))

/-- The project in which a plan runs. -/
def project (p : QueryPlan) (s : Surroundings) (i : Instance) : Work Data :=
  if p.projectName ≠ "" then pure (.text p.projectName)
  else
    Work.mapFailure (fun
      | .credentials problem => .query (.project problem)
      | failure => failure) (i.defaultProject s)

/-- The message for a page of the answer to a plan. -/
def message (p : QueryPlan) (project executed token : String) : Instance.Message :=
  match p.shape with
  | .written .. => queryMessage project executed token
  | _ => seriesMessage project p.params token

/-- Fetches the whole answer to a plan in a project. -/
def fetch (p : QueryPlan) (s : Surroundings) (i : Instance) (project executed : String) :
    Work QueryAnswer :=
  let send (token : String) : Work (Nat × String) := i.send s (p.message project executed token)
  match p.shape with
  | .written .. => do
    let pages ← fetchPages (fun token => do replyOf TablePage.ofBody (← send token))
      TablePage.nextPageToken maxPages ""
    return .table (joinTables pages)
  | _ => do
    let pages ← fetchPages (fun token => do replyOf SeriesPage.ofBody (← send token))
      SeriesPage.nextPageToken maxPages ""
    return .series (joinSeries pages)

/-- A plan that has run: in which project, for which request, and with what answer. -/
structure Finished where
  project : Data
  executed : String
  answer : QueryAnswer

/-- Runs a plan. -/
def run (p : QueryPlan) (s : Surroundings) (i : Instance) : Work Finished := do
  let project ← p.project s i
  let executed ← Work.ofFault p.executed
  let answer ← p.fetch s i project.display executed
  return ⟨project, executed, answer⟩

end MetricFrames.QueryPlan
