import MetricFrames.Frame.Basic

/-!
# Frames as data

Results go out as data under the names on the wire, members in the order of their declaration.
Members without a value are null, or left out where the reader does not want them.
-/

namespace MetricFrames

/-- A member that may lack a value. -/
def optionalMember (nulls : Bool) (name : String) : Option Data → Members Data
  | some d => [(name, d)]
  | none => if nulls then [(name, .null)] else []

/-- A link as data. -/
def DataLink.toData (l : DataLink) : Data :=
  .object [("title", .text l.title), ("targetBlank", .bool l.targetBlank), ("url", .text l.url)]

/-- Display settings as data. -/
def FieldConfig.toData (nulls : Bool) (c : FieldConfig) : Data :=
  .object (optionalMember nulls "displayNameFromDS" (c.displayName.map .text) ++
    optionalMember nulls "unit" (c.unit.map .text) ++
    [("links", .list (c.links.map DataLink.toData))])

/-- Labels as data. -/
def labelData (labels : Members String) : Data :=
  .object (labels.map fun (name, value) => (name, .text value))

/-- A field as data. -/
def FrameField.toData (nulls : Bool) (f : FrameField) : Data :=
  .object ([("name", .text f.name), ("values", .list f.values)] ++
    optionalMember nulls "labels" (f.labels.map labelData) ++
    optionalMember nulls "config" (f.config.map (FieldConfig.toData nulls)))

/-- The origin of a frame as data. -/
def FrameOrigin.toData (o : FrameOrigin) : Data :=
  .object [("executedQueryString", .text o.executedQuery), ("custom", .object o.custom)]

/-- A frame as data. -/
def Frame.toData (nulls : Bool) (f : Frame) : Data :=
  .object ([("name", .text f.name), ("refId", .text f.refId),
      ("fields", .list (f.fields.map (FrameField.toData nulls)))] ++
    optionalMember nulls "meta" (f.origin.map FrameOrigin.toData))

/-- The result of a query as data. -/
def QueryResult.toData (nulls : Bool) (r : QueryResult) : Data :=
  .object (("frames", .list (r.frames.map (Frame.toData nulls))) ::
    optionalMember nulls "error" (r.error.map .text))

end MetricFrames
