import MetricFrames.Frame.Decoding
import MetricFrames.Main
import MetricFrames.Proofs.Binary64.BoundText
import MetricFrames.Proofs.Command.Loading
import MetricFrames.Proofs.Command.Previews
import MetricFrames.Proofs.Datasource.Transparency
import MetricFrames.Proofs.Files.Naming
import MetricFrames.Proofs.Legend.Expansion
import MetricFrames.Proofs.Legend.Remarks
import MetricFrames.Proofs.Plan.Aggregation
import MetricFrames.Proofs.Plan.Distributions
import MetricFrames.Proofs.Plan.GraphPeriod
import MetricFrames.Proofs.Plan.Joining
import MetricFrames.Proofs.Plan.Outcomes
import MetricFrames.Proofs.Plan.Remarking
import MetricFrames.Proofs.Query.FlatForm
import MetricFrames.Proofs.Query.Spelling
import MetricFrames.Proofs.Request.Alignment
import MetricFrames.Proofs.Request.Groups
import MetricFrames.Proofs.Request.Params
import MetricFrames.Proofs.Request.Wildcard
import MetricFrames.Proofs.Series.BucketBound
import MetricFrames.Proofs.Service.Acceptance
import MetricFrames.Proofs.Service.Authorization
import MetricFrames.Proofs.Service.Cancellation
import MetricFrames.Proofs.Service.Containment
import MetricFrames.Proofs.Service.DefaultProject
import MetricFrames.Proofs.Service.Independence
import MetricFrames.Proofs.Service.Refusal
import MetricFrames.Proofs.Time.Rfc3339
import MetricFrames.Proofs.Web.Explorer
