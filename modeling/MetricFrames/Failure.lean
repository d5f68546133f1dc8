import MetricFrames.Data.Text
import MetricFrames.Datasource.Settings
import MetricFrames.Request.Filter
import MetricFrames.Web.Exchange

/-!
# Failures

Failures fall into those of a batch, which leave no result at all, and those of one query, which the
result of that query reports while its siblings go on. A batch also ends when it is cancelled and
when a fault arises that nobody handles.
-/

namespace MetricFrames

/-- Why the metadata server could not be read. -/
inductive MetadataProblem where
  | failed (message : String)
  | status (status : Nat) (address : String)
  | unreadable (reason : String)
  deriving DecidableEq

/-- The wording of a problem with the metadata server. -/
def MetadataProblem.message : MetadataProblem → String
  | .failed message => message
  | .status code address => Web.statusReport code address
  | .unreadable reason => reason

/-- Why ambient credentials are of no use. -/
inductive CredentialProblem where
  | token (problem : MetadataProblem)
  | invalid
  | project (problem : MetadataProblem)
  | emptyProject
  | notAttached
  deriving DecidableEq

/-- The wording of a problem with credentials. -/
def CredentialProblem.message : CredentialProblem → String
  | .token problem => "failed to retrieve GCP credential token: " ++ problem.message
  | .invalid => "failed to validate GCP credentials"
  | .project problem => "failed to retrieve default project: " ++ problem.message
  | .emptyProject => "metadata server returned an empty project id"
  | .notAttached => "gce authentication configured without metadata credentials"

/-- Why a batch is of no use as a whole. -/
inductive BatchProblem where
  | noQueries
  | undecodable (rejection : Rejection)
  | undecodableQuery (rejection : Rejection)
  | malformedFilter (refId : String) (filter : Filter.Malformed)
  | unknownKind (kind : String)
  | badSettings (unknown : UnknownAuthentication)
  | noDefaultProject (problem : CredentialProblem)
  deriving DecidableEq

/-- The wording of a problem with a batch. -/
def BatchProblem.message : BatchProblem → String
  | .noQueries => "query contains no queries"
  | .undecodable rejection => "could not unmarshal query json: " ++ rejection.message
  | .undecodableQuery rejection =>
    "could not unmarshal CloudMonitoringQuery json: " ++ rejection.message
  | .malformedFilter refId filter => "query " ++ refId ++ ": " ++ filter.message
  | .unknownKind kind =>
    "unrecognized query type " ++ String.ofList (Text.quoted kind.toList)
  | .badSettings unknown => "error reading settings: " ++ unknown.message
  | .noDefaultProject problem =>
    "failed to retrieve default project from GCE metadata server, error: " ++ problem.message

/-- Why one query has no result, or only a part of it. -/
inductive QueryProblem where
  | transport (message : String)
  | credentials (problem : CredentialProblem)
  | project (problem : CredentialProblem)
  | status (status : Nat) (body : String)
  | undecodable (rejection : Rejection)
  | unreadable (refId : String) (fault : Fault)
  | unreadableRemarks (refId : String) (fault : Fault)
  deriving DecidableEq

/-- The wording of a problem with a query. -/
def QueryProblem.message : QueryProblem → String
  | .transport message => "query failed: " ++ message
  | .credentials problem => "query failed: " ++ problem.message
  | .project problem => "failed to resolve default project: " ++ problem.message
  | .status code body => "query failed: " ++ body ++ " (status " ++ toString code ++ ")"
  | .undecodable rejection => "failed to unmarshal query response: " ++ rejection.message
  | .unreadable refId fault =>
    "failed to parse response for query " ++ refId ++ ": " ++ fault.message
  | .unreadableRemarks refId fault =>
    "failed to parse annotations for query " ++ refId ++ ": " ++ fault.message

/-- Whether a problem was found while an answer was read, not while it was fetched. -/
def QueryProblem.isUnreadable : QueryProblem → Bool
  | .unreadable .. | .unreadableRemarks .. => true
  | _ => false

/-- Where a cancellation was noticed. -/
inductive CancelPoint where
  | query (refId : String)
  | request (path : String)
  deriving DecidableEq

/-- The wording of a cancellation. -/
def CancelPoint.message : CancelPoint → String
  | .query refId => "query " ++ refId ++ " cancelled"
  | .request path => "request to " ++ path ++ " cancelled"

/-- Everything that can end a piece of work. -/
inductive Failure where
  | batch (problem : BatchProblem)
  | cancelled (point : CancelPoint)
  | query (problem : QueryProblem)
  | credentials (problem : CredentialProblem)
  | fault (fault : Fault)
  deriving DecidableEq

/-- The wording of a failure. -/
def Failure.message : Failure → String
  | .batch problem => problem.message
  | .cancelled point => point.message
  | .query problem => problem.message
  | .credentials problem => problem.message
  | .fault f => f.message

end MetricFrames
