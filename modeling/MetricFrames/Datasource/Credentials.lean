import MetricFrames.Datasource.Exchange
import MetricFrames.Json.Encoding
import MetricFrames.Web.Address

/-!
# Ambient credentials

A machine in the cloud gets a token and its project from the metadata server. A token is used again
until a minute before it expires. What is not a token is a problem of the credentials; what is not
even an object with members is a fault.
-/

namespace MetricFrames.Credentials

/-- Where the metadata server is. -/
def defaultAddress : String := "http://metadata.google.internal/computeMetadata/v1"

/-- The path of the token. -/
def tokenPath : String := "/instance/service-accounts/default/token"

/-- The path of the project. -/
def projectPath : String := "/project/project-id"

/-- What a token has to allow. -/
def scope : String := "https://www.googleapis.com/auth/monitoring.read"

/-- A token is given up this many seconds before it expires. -/
def margin : Int := 60

/-- A request to the metadata server. -/
def request (base path : String) (query : List (String × String)) : Except Fault Web.Request := do
  let whole := Text.dropTrailing '/' base.toList ++ path.toList
  let address ← Web.Address.empty.below whole
  let address ← if query.isEmpty then .ok address else address.withQuery (Web.formEncode query)
  return {
    method := "GET"
    address := String.ofList address.text
    authorization := address.authority.authorization?
    flavor := some "Google" }

/-- The body of an answer, unless it reports a problem. -/
def body (request : Web.Request) : Web.Answer → Except Failure (Except MetadataProblem String)
  | .failed message => .ok (.error (.failed message))
  | .broken f => .error (.fault f)
  | .reply status text =>
    match Web.Address.checkKind request.address with
    | .error f => .error (.fault f)
    | .ok () =>
      .ok (if Web.isSuccess status then .ok text else .error (.status status request.address))

/-- Asks the metadata server; `problem` says what could not be had if it fails. A client that was
closed asks nothing. -/
def ask (s : Surroundings) (closed : Bool) (path : String) (query : List (String × String))
    (problem : MetadataProblem → CredentialProblem) : Work String := do
  let request ← Work.ofFault (request s.metadataAddress path query)
  if closed then throw (.fault .clientClosed)
  match body request (← Work.sendToMetadata s request) with
  | .ok (.ok text) => return text
  | .ok (.error p) => throw (.credentials (problem p))
  | .error failure => throw failure

/-- A new token and how long it is valid. -/
structure Grant where
  token : Data
  lifetime : Data

/-- The member of an object; null if it has none. -/
def member (members : Members Data) (name : String) : Data := (members.get? name).getD .null

/-- Whether a lifetime is positive; not every value can be asked. -/
def isPositive : Data → Except Fault Bool
  | .null => .ok false
  | .bool b => .ok b
  | .int i => .ok (0 < i)
  | .float x => .ok (!x.le (.zero false))
  | d => .error (.notComparable d.typeName)

/-- The grant in the data that the metadata server gave. -/
def grantOf (d : Data) : Except Failure Grant :=
  match d.members? with
  | none => .error (.fault (.noMember d.typeName "get"))
  | some members =>
    let token := member members "access_token"
    let lifetime := (member members "expires_in").orElse (.int 0)
    if !token.isGiven then .error (.credentials .invalid)
    else
      match isPositive lifetime with
      | .ok true => .ok ⟨token, lifetime⟩
      | .ok false => .error (.credentials .invalid)
      | .error f => .error (.fault f)

/-- When a token that was granted now is given up. -/
def expiry (now : Binary64) : Data → Except Fault Binary64
  | .float x =>
    let rest := x.sub (.ofInt margin)
    .ok (now.add (if rest.lt (.zero false) then .zero false else rest))
  | .int i => (Binary64.ofInteger (max (i - margin) 0)).map now.add
  | _ => .ok (now.add (.zero false))

/-- The grant in a body. -/
def readGrant (text : String) : Except Failure Grant :=
  let unreadable (reason : String) : Failure := .credentials (.token (.unreadable reason))
  match Json.documentText text with
  | .error p => .error (unreadable p.message)
  | .ok text =>
    match Json.read .document text with
    | .ok d => grantOf d
    | .error p => .error (unreadable (p.message text))

/-- Keeps a new token. -/
def keep (s : Surroundings) (g : Grant) : Work Data := do
  modify fun e => { e with tokens := { e.tokens with token := some g.token } }
  let expires ← Work.ofFault (expiry s.answered g.lifetime)
  modify fun e => { e with tokens := { e.tokens with expires := expires } }
  return g.token

/-- A failure while a token is fetched: faults of conversion count against the token. -/
def ofToken : Failure → Failure
  | .fault f =>
    if f.category = .value then .credentials (.token (.unreadable f.message)) else .fault f
  | failure => failure

/-- A valid token: the one that is kept, or a new one. -/
def token (s : Surroundings) (closed : Bool) : Work Data := do
  match (← get).tokens.valid? s.now with
  | some token => return token
  | none =>
    let text ← Work.mapFailure ofToken (ask s closed tokenPath [("scopes", scope)] .token)
    match readGrant text with
    | .ok grant => keep s grant
    | .error failure => throw failure

/-- The project of the machine. -/
def project (s : Surroundings) (closed : Bool) : Work String := do
  let text ← ask s closed projectPath [] .project
  let project := Text.trim text.toList
  if project.isEmpty then throw (.credentials .emptyProject)
  return String.ofList project

end MetricFrames.Credentials
