import MetricFrames.Frame.Basic
import MetricFrames.Series.Decoding

/-!
# Decoding frames

Frames that come from outside are decoded field by field like every other record.
-/

namespace MetricFrames

open Decoder

/-- A link from its members. -/
def DataLink.ofMembers (ms : Members Data) : Checked DataLink :=
  DataLink.mk <$> FieldName.required ⟨"title", "title"⟩ text ms
    <*> flagField "targetBlank" "target_blank" ms
    <*> FieldName.required ⟨"url", "url"⟩ text ms

/-- Display settings from their members. -/
def FieldConfig.ofMembers (ms : Members Data) : Checked FieldConfig :=
  FieldConfig.mk
    <$> FieldName.optional ⟨"displayNameFromDS", "display_name_from_ds"⟩ none (nullable text) ms
    <*> FieldName.optional ⟨"unit", "unit"⟩ none (nullable text) ms
    <*> recordsField "links" "links" DataLink.ofMembers ms

/-- A field from its members. -/
def FrameField.ofMembers (ms : Members Data) : Checked FrameField :=
  FrameField.mk <$> FieldName.required ⟨"name", "name"⟩ text ms
    <*> FieldName.optional ⟨"values", "values"⟩ [] (list any) ms
    <*> FieldName.optional ⟨"labels", "labels"⟩ none (nullable (dictionary text)) ms
    <*> nullableField "config" "config" FieldConfig.ofMembers ms

/-- The origin of a frame from its members. -/
def FrameOrigin.ofMembers (ms : Members Data) : Checked FrameOrigin :=
  FrameOrigin.mk <$> textField "executedQueryString" "executed_query_string" ms
    <*> FieldName.optional ⟨"custom", "custom"⟩ [] (dictionary any) ms

/-- A frame. -/
def Frame.decoder : Decoder Frame :=
  record fun ms =>
    Frame.mk <$> textField "name" "name" ms
      <*> textField "refId" "ref_id" ms
      <*> recordsField "fields" "fields" FrameField.ofMembers ms
      <*> nullableField "meta" "meta" FrameOrigin.ofMembers ms

/-- The name of the model in reports. -/
def Frame.model : String := "Frame"

end MetricFrames
