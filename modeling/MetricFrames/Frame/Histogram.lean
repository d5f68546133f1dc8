import MetricFrames.Binary64.Reading
import MetricFrames.Frame.Samples
import MetricFrames.Series.BucketBound

/-!
# Histograms over time

A list of distributions over time is turned into buckets, each with the samples of its counts. The
buckets are kept in a table by position. A count opens the bucket at its position if it is not there
yet; when all counts of a distribution have been taken, the missing buckets below the highest one
that it opened are opened too, so that there is no hole. The layout of the distribution that opens a
bucket gives its bound.
-/

namespace MetricFrames

/-- A bucket: its lower bound and its counts over time. -/
structure Bucket where
  bound : String
  samples : List Sample := []

/-- The counts of a distribution; a count that is not a number is left open. -/
def Distribution.counts (d : Distribution) : List (Option Binary64) :=
  d.bucketCounts.map fun count => Binary64.readLenient? count.toList

namespace Histogram

/-- Buckets with their positions, in the order in which they were opened. -/
abbrev Table := List (Nat × Bucket)

namespace Table

/-- Whether there is a bucket at a position. -/
def has (t : Table) (i : Nat) : Bool := t.any fun entry => entry.1 == i

/-- The table with a new bucket at a position, which has no samples yet. -/
def withBucket (t : Table) (layout : BucketOptions) (i : Nat) : Except Fault Table :=
  (layout.bound i).map fun bound => t ++ [(i, { bound := bound })]

/-- The table with a bucket at a position, a new one if there is none. -/
def ensured (t : Table) (layout : BucketOptions) (i : Nat) : Except Fault Table :=
  if t.has i then .ok t else t.withBucket layout i

/-- Adds a sample to the bucket at a position. -/
def addSample (t : Table) (i : Nat) (sample : Sample) : Table :=
  t.map fun entry =>
    if entry.1 = i then (i, { entry.2 with samples := entry.2.samples ++ [sample] }) else entry

/-- Opens the missing buckets below a position. -/
def closeGaps (t : Table) (layout : BucketOptions) (top : Nat) : Except Fault Table :=
  (List.range top).foldlM (fun t i => t.ensured layout i) t

/-- The buckets by position. -/
def sorted (t : Table) : List Bucket := (t.mergeSort fun a b => a.1 ≤ b.1).map (·.2)

end Table

/-- A table to which counts of one time are added, and the highest position that they opened. -/
structure Counting where
  table : Table
  top : Nat := 0

namespace Counting

/-- Adds the count at a position. -/
def addCount (c : Counting) (layout : BucketOptions) (i : Nat) (sample : Sample) :
    Except Fault Counting :=
  (c.table.ensured layout i).map fun t =>
    ⟨t.addSample i sample, if c.table.has i then c.top else max c.top i⟩

/-- Adds the counts from a position on; those that are not numbers are passed over. -/
def addCounts (time : Timestamp) (layout : BucketOptions) :
    Nat → List (Option Binary64) → Counting → Except Fault Counting
  | _, [], c => .ok c
  | i, none :: counts, c => addCounts time layout (i + 1) counts c
  | i, some count :: counts, c =>
    (c.addCount layout i ⟨time, count⟩).bind (addCounts time layout (i + 1) counts)

end Counting

/-- Adds the distribution of one time to the buckets. -/
def add (t : Table) (time : Timestamp) (d : Distribution) : Except Fault Table :=
  (Counting.addCounts time d.bucketOptions 0 d.counts { table := t }).bind fun c =>
    c.table.closeGaps d.bucketOptions c.top

/-- The buckets of distributions in the order of time. -/
def buckets (points : List (Timestamp × Distribution)) : Except Fault (List Bucket) :=
  (points.foldlM (fun t point => add t point.1 point.2) []).map Table.sorted

end Histogram
end MetricFrames
