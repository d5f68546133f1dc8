import MetricFrames.Decode.Scalar
import MetricFrames.Json.Reading
import MetricFrames.Query.Decoding
import MetricFrames.Series.Basic

/-!
# Decoding answers

The fields of the two shapes of answers. `SeriesPage.ofBody` and `TablePage.ofBody` read the body
of a reply; a body that is not JSON is a problem of the whole value. The decoders of values and
times know where their data come from.
-/

namespace MetricFrames

open Decoder

/-- A field with a record that may be left out. -/
def recordField {α : Type} (wire plain : String) (fallback : α) (fields : Members Data → Checked α)
    (ms : Members Data) : Checked α :=
  FieldName.optional ⟨wire, plain⟩ fallback (record fields) ms

/-- A field with a list of records that may be left out. -/
def recordsField {α : Type} (wire plain : String) (fields : Members Data → Checked α)
    (ms : Members Data) : Checked (List α) :=
  FieldName.optional ⟨wire, plain⟩ [] (list (record fields)) ms

/-- A field with a record that may be null or left out. -/
def nullableField {α : Type} (wire plain : String) (fields : Members Data → Checked α)
    (ms : Members Data) : Checked (Option α) :=
  FieldName.optional ⟨wire, plain⟩ none (nullable (record fields)) ms

/-- A field with a number that may be left out. -/
def numberField (source : Source) (wire plain : String) (ms : Members Data) : Checked Binary64 :=
  FieldName.optional ⟨wire, plain⟩ (.zero false) (number source) ms

/-- A span of time from its members. -/
def Interval.ofMembers (source : Source) (ms : Members Data) : Checked Interval :=
  let time := fineTimestamp source
  Interval.mk <$> FieldName.optional ⟨"startTime", "start_time"⟩ none (nullable time) ms
    <*> FieldName.required ⟨"endTime", "end_time"⟩ time ms

/-- The count of finite buckets. -/
def finiteBucketsField (ms : Members Data) : Checked Int :=
  FieldName.optional ⟨"numFiniteBuckets", "num_finite_buckets"⟩ 0 integer ms

/-- A layout of buckets from its members. -/
def BucketOptions.ofMembers (source : Source) (ms : Members Data) : Checked BucketOptions :=
  BucketOptions.mk
    <$> nullableField "linearBuckets" "linear_buckets" (fun ms =>
      LinearBuckets.mk <$> finiteBucketsField ms
        <*> numberField source "width" "width" ms
        <*> numberField source "offset" "offset" ms) ms
    <*> nullableField "exponentialBuckets" "exponential_buckets" (fun ms =>
      ExponentialBuckets.mk <$> finiteBucketsField ms
        <*> numberField source "growthFactor" "growth_factor" ms
        <*> numberField source "scale" "scale" ms) ms
    <*> nullableField "explicitBuckets" "explicit_buckets" (fun ms =>
      ExplicitBuckets.mk <$>
        FieldName.optional ⟨"bounds", "bounds"⟩ [] (list (number source)) ms) ms

/-- A histogram from its members. -/
def Distribution.ofMembers (source : Source) (ms : Members Data) : Checked Distribution :=
  Distribution.mk <$> FieldName.optional ⟨"count", "count"⟩ "0" text ms
    <*> recordField "bucketOptions" "bucket_options" {} (BucketOptions.ofMembers source) ms
    <*> FieldName.optional ⟨"bucketCounts", "bucket_counts"⟩ [] (list text) ms

/-- A flag that may be left out. -/
def flagField (wire plain : String) (ms : Members Data) : Checked Bool :=
  FieldName.optional ⟨wire, plain⟩ false flag ms

/-- A value from its members. -/
def TypedValue.ofMembers (source : Source) (ms : Members Data) : Checked TypedValue :=
  TypedValue.mk <$> numberField source "doubleValue" "double_value" ms
    <*> textField "int64Value" "int64_value" ms
    <*> flagField "boolValue" "bool_value" ms
    <*> textField "stringValue" "string_value" ms
    <*> recordField "distributionValue" "distribution_value" {} (Distribution.ofMembers source) ms

/-- A point from its members. -/
def Point.ofMembers (source : Source) (ms : Members Data) : Checked Point :=
  Point.mk <$> FieldName.required ⟨"interval", "interval"⟩ (record (Interval.ofMembers source)) ms
    <*> recordField "value" "value" {} (TypedValue.ofMembers source) ms

/-- A type with labels from its members. -/
def Labelled.ofMembers (ms : Members Data) : Checked Labelled :=
  Labelled.mk <$> textField "type" "type" ms
    <*> FieldName.optional ⟨"labels", "labels"⟩ [] (dictionary text) ms

/-- A series from its members. -/
def Series.ofMembers (source : Source) (ms : Members Data) : Checked Series :=
  Series.mk <$> recordField "metric" "metric" {} Labelled.ofMembers ms
    <*> recordField "resource" "resource" {} Labelled.ofMembers ms
    <*> textField "metricKind" "metric_kind" ms
    <*> textField "valueType" "value_type" ms
    <*> recordsField "points" "points" (Point.ofMembers source) ms
    <*> FieldName.optional ⟨"metadata", "meta_data"⟩ [] (dictionary (dictionary any)) ms

/-- The name of the model in reports. -/
def SeriesPage.model : String := "TimeSeriesListResponse"

/-- A page of series. -/
def SeriesPage.decoder (source : Source) : Decoder SeriesPage :=
  record fun ms =>
    SeriesPage.mk <$> recordsField "timeSeries" "time_series" (Series.ofMembers source) ms
      <*> textField "nextPageToken" "next_page_token" ms
      <*> textField "unit" "unit" ms

/-- The description of a label from its members. -/
def LabelDescriptor.ofMembers (ms : Members Data) : Checked LabelDescriptor :=
  LabelDescriptor.mk <$> FieldName.required ⟨"key", "key"⟩ text ms
    <*> FieldName.optional ⟨"valueType", "value_type"⟩ "STRING" text ms

/-- The description of a value from its members. -/
def PointDescriptor.ofMembers (ms : Members Data) : Checked PointDescriptor :=
  PointDescriptor.mk <$> FieldName.required ⟨"key", "key"⟩ text ms
    <*> textField "valueType" "value_type" ms
    <*> textField "metricKind" "metric_kind" ms
    <*> textField "unit" "unit" ms

/-- The description of a table from its members. -/
def TableDescriptor.ofMembers (ms : Members Data) : Checked TableDescriptor :=
  TableDescriptor.mk
    <$> recordsField "labelDescriptors" "label_descriptors" LabelDescriptor.ofMembers ms
    <*> recordsField "pointDescriptors" "point_descriptors" PointDescriptor.ofMembers ms

/-- A label of a row from its members. -/
def LabelValue.ofMembers (ms : Members Data) : Checked LabelValue :=
  LabelValue.mk <$> flagField "boolValue" "bool_value" ms
    <*> textField "int64Value" "int64_value" ms
    <*> textField "stringValue" "string_value" ms

/-- A point of a row from its members. -/
def RowPoint.ofMembers (source : Source) (ms : Members Data) : Checked RowPoint :=
  RowPoint.mk <$> recordsField "values" "values" (TypedValue.ofMembers source) ms
    <*> FieldName.required ⟨"timeInterval", "time_interval"⟩ (record (Interval.ofMembers source)) ms

/-- A row from its members. -/
def TableRow.ofMembers (source : Source) (ms : Members Data) : Checked TableRow :=
  TableRow.mk <$> recordsField "labelValues" "label_values" LabelValue.ofMembers ms
    <*> recordsField "pointData" "point_data" (RowPoint.ofMembers source) ms

/-- The name of the model in reports. -/
def TablePage.model : String := "TimeSeriesQueryResponse"

/-- A page of a table. -/
def TablePage.decoder (source : Source) : Decoder TablePage :=
  record fun ms =>
    TablePage.mk
      <$> recordField "timeSeriesDescriptor" "time_series_descriptor" {}
        TableDescriptor.ofMembers ms
      <*> recordsField "timeSeriesData" "time_series_data" (TableRow.ofMembers source) ms
      <*> textField "nextPageToken" "next_page_token" ms

/-- Decodes the body of a reply. -/
def Decoder.ofBody {α : Type} (decoder : Source → Decoder α) (body : String) : Checked α :=
  match Json.read .body body.toList with
  | .ok d => decoder .json d
  | .error _ => .bad .json

/-- The page of series in a body. -/
def SeriesPage.ofBody (body : String) : Except Rejection SeriesPage :=
  (Decoder.ofBody SeriesPage.decoder body).report SeriesPage.model

/-- The page of a table in a body. -/
def TablePage.ofBody (body : String) : Except Rejection TablePage :=
  (Decoder.ofBody TablePage.decoder body).report TablePage.model

end MetricFrames
