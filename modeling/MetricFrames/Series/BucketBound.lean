import MetricFrames.Binary64.Arithmetic
import MetricFrames.Binary64.Text
import MetricFrames.Series.Basic

/-!
# Bounds of buckets

The lower bound of a bucket as a text. The first bucket takes everything below the layout and
starts at zero. Linear and exponential bounds are cut to integers, explicit ones keep their value,
and the last bucket, beyond the explicit bounds, starts at infinity.
-/

namespace MetricFrames

/-- The bound of a linear layout: its offset and width, both cut, that many widths further on. -/
def LinearBuckets.bound (b : LinearBuckets) (n : Int) : Except Fault String := do
  let offset ← b.offset.toInteger
  let width ← b.width.toInteger
  return toString (offset + width * (n - 1))

/-- The bound of an exponential layout, cut. -/
def ExponentialBuckets.bound (b : ExponentialBuckets) (n : Int) : Except Fault String := do
  let power ← b.growthFactor.pow (n - 1)
  let bound ← (b.scale.mul power).toInteger
  return toString bound

/-- The bound of an explicit layout. -/
def ExplicitBuckets.bound (b : ExplicitBuckets) (n : Int) : Except Fault String :=
  if n < b.bounds.length then
    (atPosition b.bounds n).map fun x => String.ofList x.boundText
  else .ok "+Inf"

/-- The lower bound of bucket `n`. -/
def BucketOptions.bound (o : BucketOptions) (n : Int) : Except Fault String :=
  if n = 0 then .ok "0"
  else
    match o.linear, o.exponential, o.explicit with
    | some b, _, _ => b.bound n
    | none, some b, _ => b.bound n
    | none, none, some b => b.bound n
    | none, none, none => .ok "0"

end MetricFrames
