import MetricFrames.Datasource.Credentials

/-!
# Datasource instances

An instance is a datasource ready for requests: its settings with the address, the timeout and the
way of authentication worked out. Once closed it sends nothing. The metadata credentials of an
instance may be taken away; its requests still use them for their tokens.
-/

namespace MetricFrames

/-- Where the bearer token of a request comes from. -/
inductive Bearer where
  | fixed (token : String)
  | ambient
  deriving DecidableEq

/-- What the host gives: perhaps a source of tokens. -/
structure Host where
  token : Option (Settings → String) := none

/-- A datasource ready for requests. -/
structure Instance where
  settings : Settings
  authentication : Authentication
  bearer : Option Bearer
  base : Web.Address
  timeout : Binary64
  hasMetadata : Bool
  closed : Bool := false
  tokens : TokenCache := {}

namespace Instance

/-- The bearer token of the requests of a datasource. -/
def bearerOf (host : Host) (s : Settings) : Authentication → Option Bearer
  | .ambient => some .ambient
  | .token => host.token.map fun source => .fixed (source s)

/-- The instance of some settings. -/
def build (host : Host) (s : Settings) : Except Failure Instance :=
  match s.authentication with
  | .error unknown => .error (.batch (.badSettings unknown))
  | .ok authentication =>
    match s.timeout with
    | .error f => .error (.fault f)
    | .ok timeout =>
      match Web.Address.readBase s.serviceAddress.toList with
      | .error f => .error (.fault f)
      | .ok base =>
        .ok {
          settings := s
          authentication := authentication
          bearer := bearerOf host s authentication
          base := base
          timeout := timeout
          hasMetadata := authentication = .ambient }

/-- The instance without its metadata credentials. -/
def detached (i : Instance) : Instance := { i with hasMetadata := false }

/-- The default project of a datasource. With ambient credentials it is that of the machine, if
there is a valid token. -/
def defaultProject (i : Instance) (s : Surroundings) : Work Data :=
  match i.authentication with
  | .token => pure i.settings.defaultProject
  | .ambient => do
    if !i.hasMetadata then throw (.credentials .notAttached)
    let _ ← Credentials.token s i.closed
    return .text (← Credentials.project s i.closed)

/-- The authorization of a request: that of its bearer, or else of the user in its address. -/
def authorization (i : Instance) (s : Surroundings) (address : Web.Address) :
    Work (Option String) :=
  match i.bearer with
  | none => pure address.authority.authorization?
  | some (.fixed token) => pure (some ("Bearer " ++ token))
  | some .ambient => do
    let token ← Credentials.token s false
    return some ("Bearer " ++ token.display)

/-- What a request says besides where it comes from. -/
structure Message where
  method : String
  path : String
  query : Option (List (String × String)) := none
  body : Option String := none

/-- The address of a message. -/
def addressOf (i : Instance) (m : Message) : Except Fault Web.Address := do
  let address ← i.base.below m.path.toList
  match m.query with
  | none => return address
  | some query => address.withQuery (Web.formEncode query)

/-- A failure of credentials as a problem of the query that needed them. -/
def ofQuery : Failure → Failure
  | .credentials problem => .query (.credentials problem)
  | failure => failure

/-- The request of a message. A client that was closed makes none. -/
def prepare (i : Instance) (s : Surroundings) (m : Message) : Work Web.Request := do
  let address ← Work.ofFault (i.addressOf m)
  if i.closed then throw (.fault .clientClosed)
  let authorization ← Work.mapFailure ofQuery (i.authorization s address)
  return {
    method := m.method
    address := String.ofList address.text
    authorization := authorization
    body := m.body }

/-- What an answer comes to: the status and the body of a reply. What comes back after the work was
cancelled is dropped. -/
def replyIn (s : Surroundings) (m : Message) (request : Web.Request) :
    Web.Answer → Work (Nat × String)
  | .failed message => throw (.query (.transport message))
  | .broken f => throw (.fault f)
  | .reply status body => do
    Work.ofFault (Web.Address.checkKind request.address)
    Work.checkCancelled s (.request m.path)
    return (status, body)

/-- Sends a message to the service. -/
def send (i : Instance) (s : Surroundings) (m : Message) : Work (Nat × String) := do
  Work.checkCancelled s (.request m.path)
  let request ← i.prepare s m
  replyIn s m request (← Work.sendToService s request)

end Instance
end MetricFrames
