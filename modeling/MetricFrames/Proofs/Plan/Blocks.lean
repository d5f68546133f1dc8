import MetricFrames.Plan.Results
import MetricFrames.Proofs.Data.Stepwise
import MetricFrames.Proofs.Frame.Histogram
import MetricFrames.Proofs.Plan.Building

/-!
# Blocks of frames

An answer is made of strands: the series of a list, or the columns of the rows of a table. The
frames of an answer are those of its first strands, one block for each, and of all its strands if
the reading came to its end (`covers_readParts`). If the points of each strand come newest first,
every frame has its rows in order of time, and that of a strand of numbers has a row for each point
(`readInto_inOrder`).
-/

namespace MetricFrames

open QueryPlan

/-! ### Frames that show samples -/

/-- Whether a timestamp can be compared with another one and is not after it. -/
def Timestamp.NotAfter (t u : Timestamp) : Prop :=
  t.offset.isSome = u.offset.isSome ∧ t.instantMicros ≤ u.instantMicros

instance (t u : Timestamp) : Decidable (t.NotAfter u) := inferInstanceAs (Decidable (_ ∧ _))

namespace Frame

/-- A frame shows samples under a name: row by row, and with the same name throughout. -/
structure Shows (f : Frame) (refId : String) (samples : List Sample) : Prop where
  refId_eq : f.refId = refId
  fields_eq : ∃ times values config, f.fields = [times, values] ∧
    times.values = samples.map (fun s => .time s.time) ∧
    values.values = samples.map (fun s => .float s.value) ∧
    values.name = f.name ∧ values.config = some config ∧ config.displayName = some f.name

variable {f : Frame} {refId : String} {samples : List Sample}

theorem shows_ofSamples (refId executed name : String) (labels : Members String)
    (samples : List Sample) :
    (ofSamples refId executed name labels samples).Shows refId samples :=
  ⟨rfl, _, _, _, rfl, rfl, rfl, rfl, rfl, rfl⟩

theorem Shows.decorate (h : f.Shows refId samples) (url unit : String) :
    (f.decorate url unit).Shows refId samples := by
  obtain ⟨hid, times, values, config, hfields, htimes, hvalues, hname, hconfig, hdisplay⟩ := h
  have hdecorated : (f.decorate url unit).fields = [times, values.decorate url unit] := by
    rw [Frame.decorate, modifyValueField, hfields]
    rfl
  refine ⟨hid, times, values.decorate url unit, _, hdecorated, htimes, hvalues, hname, rfl, ?_⟩
  rw [hconfig]
  exact hdisplay

theorem Shows.withCustom (h : f.Shows refId samples) (custom : Members Data) :
    (QueryPlan.withCustom custom f).Shows refId samples := ⟨h.refId_eq, h.fields_eq⟩

/-- A frame of an id with one name throughout, whose rows are in order of time. -/
structure InOrder (f : Frame) (refId : String) : Prop where
  refId_eq : f.refId = refId
  fields_eq : ∃ times values config, f.fields = [times, values] ∧
    times.values.length = values.values.length ∧
    (∃ ts : List Timestamp, times.values = ts.map Data.time ∧ ts.Pairwise Timestamp.NotAfter) ∧
    values.name = f.name ∧ values.config = some config ∧ config.displayName = some f.name

theorem Shows.inOrder (h : f.Shows refId samples)
    (htimes : (samples.map (·.time)).Pairwise Timestamp.NotAfter) : f.InOrder refId := by
  obtain ⟨hid, times, values, config, hfields, hts, hvs, hname⟩ := h
  refine ⟨hid, times, values, config, hfields, ?_, ⟨samples.map (·.time), ?_, htimes⟩, hname⟩
  · rw [hts, hvs, List.length_map, List.length_map]
  · rw [hts, List.map_map]
    rfl

theorem Shows.values_eq (h : f.Shows refId samples) : f.fields.map (·.values) =
    [(samples.map (·.time)).map Data.time, (samples.map (·.value)).map Data.float] := by
  obtain ⟨-, times, values, config, hfields, hts, hvs, -⟩ := h
  rw [hfields, List.map_cons, List.map_cons, hts, hvs, List.map_map, List.map_map]
  rfl

end Frame

/-! ### Strands -/

/-- The values of one series, or of one column of a row, newest first. A row may lack a value. -/
structure Strand where
  valueType : String
  points : List (Timestamp × Option TypedValue)

namespace Strand

/-- The times of a strand. -/
def times (x : Strand) : List Timestamp := x.points.map (·.1)

/-- The strand of a series. -/
def ofSeries (s : Series) : Strand :=
  ⟨s.valueType, s.points.map fun point => (point.interval.stop, some point.value)⟩

/-- The strand of a column of a row. -/
def ofColumn (row : TableRow) (d : PointDescriptor) (n : Nat) : Strand :=
  ⟨d.valueType, row.points.map fun point => (point.interval.stop, point.values[n]?)⟩

/-- The strands of a row. -/
def ofRow (t : TableDescriptor) (row : TableRow) : List Strand :=
  t.points.zipIdx.map fun (d, n) => ofColumn row d n

/-- Whether a strand has a value for each of its times. -/
def Has (x : Strand) (values : List TypedValue) : Prop := x.points.map (·.2) = values.map some

end Strand

/-- The strands of an answer. -/
def QueryAnswer.strands : QueryAnswer → List Strand
  | .series page => page.series.map Strand.ofSeries
  | .table page => page.rows.flatMap (Strand.ofRow page.descriptor)

/-! ### Readings of strands -/

namespace Reading

variable {α β : Type} {R : α → List Frame → Prop} {a b : Reading} {xs ys : List α}

theorem andThen_of_fault {f : Fault} (h : a.fault = some f) (b : Reading) : a.andThen b = a := by
  rw [Reading.andThen, h]

theorem andThen_of_read (h : a.fault = none) (b : Reading) :
    a.andThen b = ⟨a.frames ++ b.frames, a.labels ++ b.labels, b.fault⟩ := by
  rw [Reading.andThen, h]

/-- A reading covers strands if its frames come in blocks, which are related to the first of the
strands, and to all of them if no fault ended it. -/
def Covers (R : α → List Frame → Prop) (r : Reading) (xs : List α) : Prop :=
  ∃ blocks, r.frames = blocks.flatten ∧ List.Forall₂ R (xs.take blocks.length) blocks ∧
    (r.fault = none → blocks.length = xs.length)

theorem covers_ofLabels (labels : List (String × String)) : (ofLabels labels).Covers R [] :=
  ⟨[], rfl, .nil, fun _ => rfl⟩

theorem covers_of_fault {f : Fault} (hframes : a.frames = []) (hfault : a.fault = some f)
    (xs : List α) : a.Covers R xs :=
  ⟨[], hframes, .nil, fun h => by rw [hfault] at h; cases h⟩

theorem covers_ofFrames {frames : Except Fault (List Frame)} {x : α}
    (h : ∀ block, frames = .ok block → R x block) : (ofFrames frames).Covers R [x] := by
  cases frames with
  | error f => exact covers_of_fault rfl rfl _
  | ok block =>
    refine ⟨[block], (List.append_nil block).symm, ?_, fun _ => rfl⟩
    exact .cons (h block rfl) .nil

theorem Covers.andThen (ha : a.Covers R xs) (hb : b.Covers R ys) :
    (a.andThen b).Covers R (xs ++ ys) := by
  obtain ⟨blocks, hframes, hblocks, hall⟩ := ha
  cases hfault : a.fault with
  | some f =>
    have hlen : blocks.length ≤ xs.length := by
      have h := hblocks.length_eq
      rw [List.length_take] at h
      omega
    rw [andThen_of_fault hfault]
    refine ⟨blocks, hframes, ?_, fun h => ?_⟩
    · rw [List.take_append_of_le_length hlen]
      exact hblocks
    · rw [hfault] at h
      cases h
  | none =>
    obtain ⟨more, hmore, hrelated, hend⟩ := hb
    have hlen := hall hfault
    rw [andThen_of_read hfault]
    refine ⟨blocks ++ more, ?_, ?_, fun h => ?_⟩
    · rw [List.flatten_append, hframes, hmore]
    · rw [hlen, List.take_length] at hblocks
      rw [List.length_append, hlen, List.take_length_add_append]
      exact List.rel_append hblocks hrelated
    · rw [List.length_append, List.length_append, hlen, hend h]

theorem Covers.exists_of_mem {f : Frame} (h : a.Covers R xs) (hf : f ∈ a.frames) :
    ∃ x ∈ xs, ∃ block, R x block ∧ f ∈ block := by
  obtain ⟨blocks, hframes, hblocks, -⟩ := h
  rw [hframes] at hf
  obtain ⟨block, hblock, hf⟩ := List.mem_flatten.mp hf
  obtain ⟨i, hi, rfl⟩ := List.mem_iff_getElem.mp hblock
  have hx : i < (xs.take blocks.length).length := by rwa [hblocks.length_eq]
  exact ⟨_, List.mem_of_mem_take (List.getElem_mem hx), _, hblocks.get hx hi, hf⟩

theorem covers_all {read : β → Reading} {strands : β → List α} (items : List β)
    (h : ∀ item ∈ items, (read item).Covers R (strands item)) :
    (all (items.map read)).Covers R (items.flatMap strands) := by
  induction items with
  | nil => exact ⟨[], rfl, .nil, fun _ => rfl⟩
  | cons item items ih =>
    rw [List.flatMap_cons]
    exact (h item List.mem_cons_self).andThen
      (ih fun other hother => h other (List.mem_cons_of_mem _ hother))

end Reading

namespace QueryPlan

/-! ### Frames of one strand -/

/-- The frames of a strand show samples at some of its times. A strand of numbers has one frame,
with a sample for each of its points. -/
def FramesOf (refId executed : String) (x : Strand) (block : List Frame) : Prop :=
  (∀ f ∈ block, ∃ name labels samples, f = Frame.ofSamples refId executed name labels samples ∧
    (samples.map (·.time)).Sublist x.times.reverse) ∧
  (x.valueType ≠ distributionType → ∃ name labels samples values, x.Has values ∧
    block = [Frame.ofSamples refId executed name labels samples] ∧
    samples.map (·.time) = x.times.reverse ∧
    samples.map (·.value) = values.reverse.map (·.number x.valueType))

variable {s : FrameSource} {labels : Members String} {x : Strand} {block : List Frame}

theorem times_samplesAt (points : List (Timestamp × Distribution)) (i : Nat) :
    ((Histogram.samplesAt points i).map (·.time)).Sublist (points.map (·.1)) := by
  induction points with
  | nil => exact .slnil
  | cons p points ih =>
    rw [Histogram.samplesAt, List.filterMap_cons]
    cases p.2.countAt i with
    | none => exact ih.cons p.1
    | some count => exact ih.cons_cons p.1

theorem framesOf_bucketFrames {points : List (Timestamp × Distribution)}
    (htype : x.valueType = distributionType) (htimes : points.map (·.1) = x.times.reverse)
    (h : s.bucketFrames labels points = .ok block) : FramesOf s.refId s.executed x block := by
  refine ⟨fun f hf => ?_, fun hne => absurd htype hne⟩
  rw [FrameSource.bucketFrames] at h
  rcases Histogram.buckets_cases points with ⟨buckets, hbuckets, -, hfits⟩ | ⟨g, hg, -⟩
  · rw [hbuckets] at h
    cases h
    obtain ⟨b, hb, rfl⟩ := List.mem_map.mp hf
    obtain ⟨i, hi⟩ := List.mem_iff_getElem?.mp hb
    refine ⟨_, _, b.samples, rfl, ?_⟩
    rw [(hfits i b hi).2, ← htimes]
    exact times_samplesAt points i
  · rw [hg] at h
    cases h

theorem framesOf_valueFrame {samples : List Sample} (values : List TypedValue)
    (hvalues : x.Has values) (htimes : samples.map (·.time) = x.times.reverse)
    (hnumbers : samples.map (·.value) = values.reverse.map (·.number x.valueType)) :
    FramesOf s.refId s.executed x [s.valueFrame labels samples] := by
  refine ⟨fun f hf => ?_, fun _ => ⟨_, labels, samples, values, hvalues, rfl, htimes, hnumbers⟩⟩
  rw [List.mem_singleton.mp hf]
  exact ⟨_, labels, samples, rfl, by rw [htimes]⟩

theorem covers_readSeries (p : QueryPlan) (executed : String) (x : Series) :
    (p.readSeries executed x).Covers (FramesOf p.refId executed) [Strand.ofSeries x] := by
  have htimes : (Strand.ofSeries x).times.reverse =
      x.points.reverse.map fun point => point.interval.stop := by
    simp [Strand.ofSeries, Strand.times, Function.comp_def]
  refine (Reading.covers_ofLabels _).andThen (Reading.covers_ofFrames fun block h => ?_)
  split at h
  case isTrue htype =>
    refine framesOf_bucketFrames htype ?_ h
    rw [htimes, List.map_map]
    rfl
  case isFalse =>
    cases h
    refine framesOf_valueFrame (x.points.map (·.value)) ?_ ?_ ?_
    · simp [Strand.ofSeries, Strand.Has, Function.comp_def]
    · rw [htimes, List.map_map]
      rfl
    · simp [Strand.ofSeries, Function.comp_def]

/-- What the values of a column are, if a row has one at each time. -/
theorem values_of_forall₂ {n : Nat} {points : List RowPoint}
    {found : List (Timestamp × TypedValue)}
    (h : List.Forall₂ (fun point y =>
      (itemAt point.values n).map (fun v => (point.interval.stop, v)) = .ok y) points found) :
    points.map (·.interval.stop) = found.map (·.1) ∧
      points.map (·.values[n]?) = found.map fun y => some y.2 := by
  induction h with
  | nil => exact ⟨rfl, rfl⟩
  | @cons point y points found hpoint _ ih =>
    rw [itemAt] at hpoint
    cases hv : point.values[n]? with
    | none =>
      rw [hv] at hpoint
      cases hpoint
    | some v =>
      rw [hv] at hpoint
      cases hpoint
      simp [hv, ih.1, ih.2]

theorem framesOf_columnFrames {d : PointDescriptor} {n : Nat} {row : TableRow}
    (h : columnFrames s labels d n row = .ok block) :
    FramesOf s.refId s.executed (Strand.ofColumn row d n) block := by
  obtain ⟨found, hfound, h⟩ := exists_of_bind_eq_ok h
  obtain ⟨htimes, hvalues⟩ := values_of_forall₂ ((mapM_eq_ok_iff _ _ _).mp hfound)
  have hstops : (Strand.ofColumn row d n).times.reverse = found.map (·.1) := by
    rw [← htimes]
    simp [Strand.ofColumn, Strand.times, Function.comp_def]
  split at h
  case isTrue htype =>
    refine framesOf_bucketFrames htype ?_ h
    rw [hstops, List.map_map]
    rfl
  case isFalse =>
    cases h
    refine framesOf_valueFrame (found.map (·.2)).reverse ?_ ?_ ?_
    · have hreversed := congrArg List.reverse hvalues
      simpa [Strand.ofColumn, Strand.Has, Function.comp_def] using hreversed
    · rw [hstops, List.map_map]
      rfl
    · simp [Strand.ofColumn, Function.comp_def]

theorem covers_readColumn (p : QueryPlan) (executed : String) (labels : Members String)
    (row : TableRow) (d : PointDescriptor) (n : Nat) :
    (p.readColumn executed labels row d n).Covers (FramesOf p.refId executed)
      [Strand.ofColumn row d n] :=
  (Reading.covers_ofLabels _).andThen (Reading.covers_ofFrames fun _ h => framesOf_columnFrames h)

theorem covers_readRow (p : QueryPlan) (executed : String) (t : TableDescriptor)
    (row : TableRow) :
    (p.readRow executed t row).Covers (FramesOf p.refId executed) (Strand.ofRow t row) := by
  rw [readRow]
  cases rowLabels t row with
  | error f => exact Reading.covers_of_fault rfl rfl _
  | ok labels =>
    have hcolumns := Reading.covers_all t.points.zipIdx
      fun item _ => covers_readColumn p executed (byName labels) row item.1 item.2
    rw [← List.map_eq_flatMap] at hcolumns
    exact (Reading.covers_ofLabels _).andThen hcolumns

/-- The frames of an answer are those of its first strands, and of all of them if it was read to its
end. -/
theorem covers_readParts (p : QueryPlan) (executed : String) (answer : QueryAnswer) :
    (p.readParts executed answer).Covers (FramesOf p.refId executed) answer.strands := by
  cases answer with
  | series page =>
    have hseries := Reading.covers_all page.series
      fun x _ => covers_readSeries p executed x
    rw [← List.map_eq_flatMap] at hseries
    exact hseries
  | table page =>
    exact Reading.covers_all page.rows fun row _ => covers_readRow p executed page.descriptor row

theorem exists_samples_of_mem {p : QueryPlan} {executed : String} {answer : QueryAnswer}
    {f : Frame} (h : f ∈ (p.readParts executed answer).frames) :
    ∃ name labels samples, f = Frame.ofSamples p.refId executed name labels samples := by
  obtain ⟨x, -, block, hblock, hf⟩ := (covers_readParts p executed answer).exists_of_mem h
  obtain ⟨name, labels, samples, heq, -⟩ := hblock.1 f hf
  exact ⟨name, labels, samples, heq⟩

/-! ### All frames -/

theorem readParts_of_isEmpty {answer : QueryAnswer} (h : answer.isEmpty = true) (p : QueryPlan)
    (executed : String) : p.readParts executed answer = {} := by
  cases answer with
  | series page => rw [readParts, List.isEmpty_iff.mp h, List.map_nil, Reading.all, List.foldr_nil]
  | table page => rw [readParts, List.isEmpty_iff.mp h, List.map_nil, Reading.all, List.foldr_nil]

/-- What becomes of a reading: a fault ended it, there was nothing to read, the link cannot be made,
or all frames get it. -/
theorem frames_eq_cases (p : QueryPlan) (ranIn : Data) (executed : String)
    (answer : QueryAnswer) :
    (∃ f, (p.readParts executed answer).fault = some f ∧ p.frames ranIn executed answer =
      ((p.readParts executed answer).frames, some (readingFailure p.refId f))) ∨
    (answer.isEmpty = true ∧ p.frames ranIn executed answer = ([], none)) ∨
    ((p.readParts executed answer).fault = none ∧ answer.isEmpty = false ∧
      ∃ f, p.link ranIn = .error f ∧ p.frames ranIn executed answer =
        ((p.readParts executed answer).frames, some (.fault f))) ∨
    ((p.readParts executed answer).fault = none ∧ answer.isEmpty = false ∧
      ∃ url, p.link ranIn = .ok url ∧ p.frames ranIn executed answer =
        ((p.readParts executed answer).frames.map fun f =>
          withCustom (p.custom (p.readParts executed answer).labels)
            (f.decorate url answer.unit), none)) := by
  rw [frames]
  cases hfault : (p.readParts executed answer).fault with
  | some f => exact .inl ⟨f, rfl, rfl⟩
  | none =>
    dsimp only
    rw [decorate]
    cases hempty : answer.isEmpty with
    | true =>
      rw [readParts_of_isEmpty hempty]
      exact .inr (.inl ⟨rfl, rfl⟩)
    | false =>
      cases hlink : p.link ranIn with
      | error f => exact .inr (.inr (.inl ⟨rfl, rfl, f, rfl, rfl⟩))
      | ok url => exact .inr (.inr (.inr ⟨rfl, rfl, url, rfl, rfl⟩))

theorem fault_eq_none_of_frames {p : QueryPlan} {ranIn : Data} {executed : String}
    {answer : QueryAnswer} (h : (p.frames ranIn executed answer).2 = none) :
    (p.readParts executed answer).fault = none := by
  rcases frames_eq_cases p ranIn executed answer with ⟨f, -, hframes⟩ | ⟨hempty, -⟩ |
    ⟨hfault, -⟩ | ⟨hfault, -⟩
  · rw [hframes] at h
    cases h
  · rw [readParts_of_isEmpty hempty]
  · exact hfault
  · exact hfault

/-- Whatever becomes of a reading, its frames show what they showed. -/
theorem exists_change (p : QueryPlan) (ranIn : Data) (executed : String)
    (answer : QueryAnswer) : ∃ change : Frame → Frame,
      (p.frames ranIn executed answer).1 = (p.readParts executed answer).frames.map change ∧
      ∀ f refId samples, f.Shows refId samples → (change f).Shows refId samples := by
  have hsame : (p.readParts executed answer).frames =
      (p.readParts executed answer).frames.map id := (List.map_id _).symm
  rcases frames_eq_cases p ranIn executed answer with ⟨f, -, hframes⟩ | ⟨hempty, hframes⟩ |
    ⟨-, -, f, -, hframes⟩ | ⟨-, -, url, -, hframes⟩
  · rw [hframes]
    exact ⟨id, hsame, fun _ _ _ h => h⟩
  · rw [hframes, readParts_of_isEmpty hempty]
    exact ⟨id, rfl, fun _ _ _ h => h⟩
  · rw [hframes]
    exact ⟨id, hsame, fun _ _ _ h => h⟩
  · rw [hframes]
    exact ⟨_, rfl, fun _ _ _ h => (h.decorate _ _).withCustom _⟩

theorem pairwise_of_sublist {x : Strand} {samples : List Sample}
    (hx : x.times.Pairwise fun t u => u.NotAfter t)
    (h : (samples.map (·.time)).Sublist x.times.reverse) :
    (samples.map (·.time)).Pairwise Timestamp.NotAfter :=
  (List.pairwise_reverse.mpr hx).sublist h

/-- If the points of each strand come newest first, every frame that an answer adds to a result has
its rows in order of time and one name throughout. The frames come in blocks, one for each of the
first strands, or of all strands if nothing failed. The block of a strand of numbers is one frame
with a row for each point, in reverse. -/
theorem readInto_inOrder {answer : QueryAnswer}
    (h : ∀ x ∈ answer.strands, x.times.Pairwise fun t u => u.NotAfter t) (p : QueryPlan)
    (ranIn : Data) (executed : String) (result : QueryResult) :
    ∃ blocks : List (List Frame),
      (p.readInto ranIn executed answer result).1.frames = result.frames ++ blocks.flatten ∧
      ((p.readInto ranIn executed answer result).2 = none →
        blocks.length = answer.strands.length) ∧
      List.Forall₂ (fun x block =>
        (∀ f ∈ block, f.InOrder p.refId) ∧
        (x.valueType ≠ distributionType → ∃ f values, block = [f] ∧ x.Has values ∧
          f.fields.map (·.values) = [x.times.reverse.map Data.time,
            values.reverse.map fun v => .float (v.number x.valueType)]))
        (answer.strands.take blocks.length) blocks := by
  obtain ⟨change, hchange, hshows⟩ := exists_change p ranIn executed answer
  obtain ⟨blocks, hframes, hblocks, hall⟩ := covers_readParts p executed answer
  rw [readInto_eq]
  refine ⟨blocks.map (List.map change), ?_, fun hnone => ?_, ?_⟩
  · show result.frames ++ (p.frames ranIn executed answer).1 = _
    rw [hchange, hframes, List.map_flatten]
  · rw [List.length_map]
    exact hall (fault_eq_none_of_frames hnone)
  · rw [List.length_map, List.forall₂_map_right_iff]
    have hordered := (List.forall₂_and_left (p := fun x : Strand =>
      x.times.Pairwise fun t u => u.NotAfter t) _ _).mpr
      ⟨fun x hx => h x (List.mem_of_mem_take hx), hblocks⟩
    refine hordered.imp fun x block ⟨hx, hall, hnumbers⟩ => ⟨?_, fun htype => ?_⟩
    · intro shown hshown
      obtain ⟨f, hf, rfl⟩ := List.mem_map.mp hshown
      obtain ⟨name, labels, samples, rfl, htimes⟩ := hall f hf
      have hshown := hshows _ _ _ (Frame.shows_ofSamples p.refId executed name labels samples)
      exact hshown.inOrder (pairwise_of_sublist hx htimes)
    · obtain ⟨name, labels, samples, values, hvalues, rfl, htimes, hsamples⟩ := hnumbers htype
      have hshown := hshows _ _ _ (Frame.shows_ofSamples p.refId executed name labels samples)
      refine ⟨_, values, rfl, hvalues, ?_⟩
      rw [hshown.values_eq, htimes, hsamples, List.map_map]
      rfl

/-- A plan against an objective. -/
def healthPlan : QueryPlan where
  refId := "A"
  timeRange := ⟨.unixStart (some 0), .unixStart (some 0)⟩
  intervalMs := 0
  projectName := "p"
  aliasBy := ""
  shape := .objective {} "checkout" "availability" "select_slo_health"

/-- A series of counts, of which one is not a number. -/
def countSeries : Series where
  valueType := "INT64"
  points := [{ interval := { stop := .unixStart (some 0) }, value := { int64 := "7" } },
    { interval := { stop := .unixStart (some 3600) }, value := { int64 := "x" } }]

/-- A series of distributions, of which one has no count for its first bucket. -/
def sizeSeries : Series where
  valueType := distributionType
  points := [["1", "2"], ["", "3"]].map fun counts =>
    { interval := { stop := .unixStart (some 0) }
      value := { distribution := { bucketCounts := counts } } }

theorem readInto_inOrder_counts :
    let answer : QueryAnswer := .series { series := [countSeries, sizeSeries] }
    (∀ x ∈ answer.strands, x.times.Pairwise fun t u => u.NotAfter t) ∧
    ∃ f more, (healthPlan.readInto .null "q" answer {}).1.frames = f :: more ∧
      (∀ g ∈ f :: more, g.InOrder "A") ∧
      f.fields.map (·.values) = [
        [.time (.unixStart (some 3600)), .time (.unixStart (some 0))],
        [({ int64 := "x" } : TypedValue), { int64 := "7" }].map fun v =>
          .float (v.number "INT64")] := by
  intro answer
  have hnewest : ∀ x ∈ answer.strands, x.times.Pairwise fun t u => u.NotAfter t := by
    decide +kernel
  have hread : (healthPlan.readInto .null "q" answer {}).2 = none :=
    Option.isNone_iff_eq_none.mp (by decide +kernel)
  refine ⟨hnewest, ?_⟩
  obtain ⟨blocks, hframes, hall, hblocks⟩ := readInto_inOrder hnewest healthPlan .null "q" {}
  rw [hall hread] at hblocks
  obtain ⟨block, rest, ⟨hcount, hnumbers⟩, hrest, rfl⟩ := List.forall₂_cons_left_iff.mp hblocks
  obtain ⟨sizes, _, ⟨hsizes, -⟩, hnil, rfl⟩ := List.forall₂_cons_left_iff.mp hrest
  rw [List.forall₂_nil_left_iff.mp hnil] at hframes
  obtain ⟨f, values, rfl, hvalues, hrows⟩ := hnumbers (by decide)
  have hvalues' : [({ int64 := "7" } : TypedValue), { int64 := "x" }] = values :=
    List.map_injective_iff.mpr (fun _ _ => Option.some.inj) hvalues
  rw [← hvalues'] at hrows
  refine ⟨f, sizes, ?_, fun g hg => ?_, hrows⟩
  · rw [hframes]
    simp
  · rcases List.mem_cons.mp hg with rfl | hg
    · exact hcount g List.mem_cons_self
    · exact hsizes g hg

end QueryPlan
end MetricFrames
