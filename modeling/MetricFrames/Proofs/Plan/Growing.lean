import MetricFrames.Proofs.Plan.Blocks

/-!
# Results grow frame by frame

Reading an answer into a result leaves alone what the result has. If nothing failed, each frame that
was added has one link. If the answer is not readable, there is a place in it where the reading
broke, and what was added are the whole frames of all that comes before that place, without a link,
a unit or labels of the answer (`readInto_grows`).
-/

namespace MetricFrames

/-- The frame without a link, a unit and what it says about the whole answer. -/
def Frame.undecorated (f : Frame) : Frame :=
  QueryPlan.withCustom [] (f.modifyValueField fun field =>
    { field with config := field.config.map fun c => { c with unit := none, links := [] } })

/-- A place in an answer: what comes before it, in parts, and an answer that ends with it. A place
in a list is a series. In a table it is the labels of a row, or a column of a row; the columns
before it are in both answers then. -/
inductive QueryAnswer.Place : QueryAnswer → List QueryAnswer → QueryAnswer → Prop
  | series {page : SeriesPage} {before after : List Series} {x : Series}
      (series_eq : page.series = before ++ x :: after) :
      Place (.series page) [.series { page with series := before }]
        (.series { page with series := [x] })
  | labels {page : TablePage} {before after : List TableRow} {row : TableRow}
      (rows_eq : page.rows = before ++ row :: after) :
      Place (.table page) [.table { page with rows := before }]
        (.table { page with
          rows := [row], descriptor := { page.descriptor with points := [] } })
  | column {page : TablePage} {before after : List TableRow} {row : TableRow}
      {columns others : List PointDescriptor} {d : PointDescriptor}
      (rows_eq : page.rows = before ++ row :: after)
      (points_eq : page.descriptor.points = columns ++ d :: others) :
      Place (.table page)
        [.table { page with rows := before }, .table { page with
          rows := [row], descriptor := { page.descriptor with points := columns } }]
        (.table { page with
          rows := [row], descriptor := { page.descriptor with points := columns ++ [d] } })

namespace Reading

variable {β : Type} {a b : Reading} {f : Fault}

theorem all_cons (r : Reading) (rs : List Reading) : all (r :: rs) = r.andThen (all rs) := rfl

theorem all_singleton (r : Reading) : all [r] = r := andThen_empty r

/-- The first of some parts that a fault ended: all before it were read, and nothing after it. -/
theorem exists_of_fault_all {read : β → Reading} {items : List β}
    (h : (all (items.map read)).fault = some f) :
    ∃ before item after, items = before ++ item :: after ∧
      (all (before.map read)).fault = none ∧ (read item).fault = some f ∧
      (all (items.map read)).frames = (all (before.map read)).frames ++ (read item).frames := by
  induction items with
  | nil => cases h
  | cons item items ih =>
    rw [List.map_cons, all_cons] at h ⊢
    cases hitem : (read item).fault with
    | some g =>
      rw [andThen_of_fault hitem, hitem] at h
      cases h
      refine ⟨[], item, items, rfl, rfl, hitem, ?_⟩
      rw [andThen_of_fault hitem]
      rfl
    | none =>
      rw [andThen_of_read hitem] at h
      obtain ⟨before, x, after, rfl, hbefore, hx, hframes⟩ := ih h
      refine ⟨item :: before, x, after, rfl, ?_, hx, ?_⟩
      · rw [List.map_cons, all_cons, andThen_of_read hitem]
        exact hbefore
      · rw [List.map_cons, all_cons, andThen_of_read hitem, andThen_of_read hitem, hframes,
          List.append_assoc]

end Reading

namespace QueryPlan

open Reading

variable {p : QueryPlan} {executed : String} {f : Fault}

/-! ### Frames without decoration -/

theorem undecorated_ofSamples (refId name : String) (labels : Members String)
    (samples : List Sample) :
    (Frame.ofSamples refId executed name labels samples).undecorated =
      Frame.ofSamples refId executed name labels samples := rfl

theorem undecorated_decorate (refId name : String) (labels : Members String)
    (samples : List Sample) (url unit : String) (custom : Members Data) :
    (withCustom custom
      ((Frame.ofSamples refId executed name labels samples).decorate url unit)).undecorated =
      Frame.ofSamples refId executed name labels samples := rfl

/-- Without decoration, the frames of an answer are those that were read. -/
theorem map_undecorated_frames (p : QueryPlan) (ranIn : Data) (executed : String)
    (answer : QueryAnswer) :
    (p.frames ranIn executed answer).1.map Frame.undecorated =
      (p.readParts executed answer).frames := by
  have hplain : (p.readParts executed answer).frames.map Frame.undecorated =
      (p.readParts executed answer).frames := by
    refine (List.map_congr_left fun f hf => ?_).trans (List.map_id _)
    obtain ⟨name, labels, samples, rfl⟩ := exists_samples_of_mem hf
    exact undecorated_ofSamples ..
  rcases frames_eq_cases p ranIn executed answer with ⟨f, -, hframes⟩ | ⟨hempty, hframes⟩ |
    ⟨-, -, f, -, hframes⟩ | ⟨-, -, url, -, hframes⟩
  · rw [hframes, hplain]
  · rw [hframes, readParts_of_isEmpty hempty]
    rfl
  · rw [hframes, hplain]
  · rw [hframes, List.map_map]
    refine (List.map_congr_left fun f hf => ?_).trans (List.map_id _)
    obtain ⟨name, labels, samples, rfl⟩ := exists_samples_of_mem hf
    exact undecorated_decorate ..

/-! ### Where a reading broke -/

theorem frames_ofFrames_of_fault {made : Except Fault (List Frame)}
    {labels : List (String × String)}
    (h : ((ofLabels labels).andThen (ofFrames made)).fault = some f) :
    ((ofLabels labels).andThen (ofFrames made)).frames = [] := by
  cases made with
  | ok frames => cases h
  | error g => rfl

theorem readParts_series_singleton (p : QueryPlan) (executed : String) (x : Series)
    (token unit : String) :
    p.readParts executed (.series ⟨[x], token, unit⟩) = p.readSeries executed x := all_singleton _

theorem readParts_table_singleton (p : QueryPlan) (executed : String) (t : TableDescriptor)
    (row : TableRow) (token : String) :
    p.readParts executed (.table ⟨t, [row], token⟩) = p.readRow executed t row := all_singleton _

/-- What a row comes to when only some of its columns are read. -/
theorem readRow_of_labels {t : TableDescriptor} {row : TableRow}
    {labels : List (String × String)} (h : rowLabels t row = .ok labels) (p : QueryPlan)
    (executed : String) (columns : List PointDescriptor) :
    p.readRow executed { t with points := columns } row =
      (ofLabels labels).andThen (all (columns.zipIdx.map fun (d, n) =>
        p.readColumn executed (byName labels) row d n)) := by
  have hlabels : rowLabels { t with points := columns } row = .ok labels := h
  rw [readRow, hlabels]

/-- A fault ended the reading at a place, and what was read is what comes before that place. -/
theorem exists_place_of_fault {answer : QueryAnswer}
    (h : (p.readParts executed answer).fault = some f) :
    ∃ earlier here, answer.Place earlier here ∧
      (∀ part ∈ earlier, (p.readParts executed part).fault = none) ∧
      (p.readParts executed here).fault = some f ∧
      (p.readParts executed answer).frames =
        earlier.flatMap fun part => (p.readParts executed part).frames := by
  cases answer with
  | series page =>
    obtain ⟨before, x, after, hpage, hbefore, hx, hframes⟩ := exists_of_fault_all h
    refine ⟨_, _, .series hpage, ?_, ?_, ?_⟩
    · intro part hpart
      rw [List.mem_singleton.mp hpart]
      exact hbefore
    · rw [readParts_series_singleton]
      exact hx
    · have hnone : (p.readSeries executed x).frames = [] := frames_ofFrames_of_fault hx
      rw [hnone, List.append_nil] at hframes
      rw [List.flatMap_singleton]
      exact hframes
  | table page =>
    obtain ⟨before, row, after, hpage, hbefore, hrow, hframes⟩ := exists_of_fault_all h
    cases hlabels : rowLabels page.descriptor row with
    | error g =>
      have hread : p.readRow executed page.descriptor row = { fault := some g } := by
        rw [readRow, hlabels]
      rw [hread] at hrow hframes
      refine ⟨_, _, .labels hpage, ?_, ?_, ?_⟩
      · intro part hpart
        rw [List.mem_singleton.mp hpart]
        exact hbefore
      · have hhere : rowLabels { page.descriptor with points := [] } row = .error g := hlabels
        rw [readParts_table_singleton, readRow, hhere]
        exact hrow
      · rw [List.flatMap_singleton]
        exact hframes.trans (List.append_nil _)
    | ok labels =>
      have hread := readRow_of_labels hlabels p executed
      have hall : p.readRow executed page.descriptor row = _ := hread page.descriptor.points
      rw [hall] at hrow hframes
      obtain ⟨first, ⟨d, n⟩, rest, hzip, hfirst, hd, hmade⟩ := exists_of_fault_all hrow
      obtain ⟨columns, others, hpoints, rfl, hothers⟩ := List.zipIdx_eq_append_iff.mp hzip
      obtain ⟨column, others, rfl, hcolumn, -⟩ := List.zipIdx_eq_cons_iff.mp hothers.symm
      cases hcolumn
      have hnone : (p.readColumn executed (byName labels) row d (0 + columns.length)).frames = [] :=
        frames_ofFrames_of_fault hd
      rw [hnone, List.append_nil] at hmade
      refine ⟨_, _, .column hpage hpoints, ?_, ?_, ?_⟩
      · intro part hpart
        rcases List.mem_cons.mp hpart with rfl | hpart
        · exact hbefore
        · rw [List.mem_singleton.mp hpart, readParts_table_singleton, hread]
          exact hfirst
      · have hzip : (columns ++ [d]).zipIdx = columns.zipIdx ++ [(d, 0 + columns.length)] :=
          List.zipIdx_append
        rw [readParts_table_singleton, hread, hzip, List.map_append, all_append,
          andThen_of_read hfirst, List.map_singleton, all_singleton]
        exact hd
      · have hcolumns : ((ofLabels labels).andThen (all (page.descriptor.points.zipIdx.map
            fun (d, n) => p.readColumn executed (byName labels) row d n))).frames =
            ((ofLabels labels).andThen (all (columns.zipIdx.map
              fun (d, n) => p.readColumn executed (byName labels) row d n))).frames := hmade
        rw [List.flatMap_cons, List.flatMap_singleton, readParts_table_singleton, hread,
          ← hcolumns]
        exact hframes

theorem readingFailure_eq_query {refId : String} {problem : QueryProblem}
    (h : readingFailure refId f = .query problem) : problem = .unreadable refId f := by
  rw [readingFailure] at h
  split at h
  · exact (Failure.query.inj h).symm
  · cases h

theorem frames_of_fault {answer : QueryAnswer} (h : (p.readParts executed answer).fault = some f)
    (ranIn : Data) :
    p.frames ranIn executed answer =
      ((p.readParts executed answer).frames, some (readingFailure p.refId f)) := by
  rw [frames, h]

/-- The frames of an answer that failed to be read as what it should be. -/
theorem exists_fault_of_query {answer : QueryAnswer} {ranIn : Data} {problem : QueryProblem}
    (h : (p.frames ranIn executed answer).2 = some (.query problem)) :
    ∃ f, (p.readParts executed answer).fault = some f ∧ problem = .unreadable p.refId f := by
  rcases frames_eq_cases p ranIn executed answer with ⟨f, hfault, hframes⟩ | ⟨-, hframes⟩ |
    ⟨-, -, f, -, hframes⟩ | ⟨-, -, url, -, hframes⟩
  · rw [hframes] at h
    exact ⟨f, hfault, readingFailure_eq_query (Option.some.inj h)⟩
  · rw [hframes] at h
    cases h
  · rw [hframes] at h
    cases h
  · rw [hframes] at h
    cases h

theorem exists_link_of_mem {answer : QueryAnswer} {ranIn : Data} {frame : Frame}
    (h : (p.frames ranIn executed answer).2 = none)
    (hmem : frame ∈ (p.frames ranIn executed answer).1) :
    ∃ times values config url, frame.fields = [times, values] ∧ values.config = some config ∧
      p.link ranIn = .ok url ∧ config.links = [⟨FrameField.linkTitle, true, url⟩] := by
  rcases frames_eq_cases p ranIn executed answer with ⟨f, -, hframes⟩ | ⟨-, hframes⟩ |
    ⟨-, -, f, -, hframes⟩ | ⟨-, -, url, hlink, hframes⟩
  · rw [hframes] at h
    cases h
  · rw [hframes] at hmem
    cases hmem
  · rw [hframes] at h
    cases h
  · rw [hframes] at hmem
    obtain ⟨plain, hplain, rfl⟩ := List.mem_map.mp hmem
    obtain ⟨name, labels, samples, rfl⟩ := exists_samples_of_mem hplain
    exact ⟨_, _, _, url, rfl, rfl, hlink, rfl⟩

/-- Reading an answer into a result leaves its frames and its error as they are, and adds frames. If
nothing failed, each of these has exactly one link next to its values. If the answer is not
readable, the reading broke at a place in it, and the frames that were added are those that all
before that place comes to when it is read by itself, without what they get at the end. -/
theorem readInto_grows (p : QueryPlan) (ranIn : Data) (executed : String)
    (answer : QueryAnswer) (result : QueryResult) :
    ∃ added, (p.readInto ranIn executed answer result).1 = result.add added ∧
      ((p.readInto ranIn executed answer result).2 = none → ∀ f ∈ added,
        ∃ times values config url, f.fields = [times, values] ∧ values.config = some config ∧
          p.link ranIn = .ok url ∧ config.links = [⟨FrameField.linkTitle, true, url⟩]) ∧
      ∀ problem, (p.readInto ranIn executed answer result).2 = some (.query problem) →
        ∃ f earlier here, problem = .unreadable p.refId f ∧ answer.Place earlier here ∧
          (∀ part ∈ earlier, (p.readParts executed part).fault = none) ∧
          (p.readInto ranIn executed here {}).2 = some (.query problem) ∧
          added = (earlier.flatMap fun part =>
            (p.readInto ranIn executed part {}).1.frames).map Frame.undecorated := by
  rw [readInto_eq]
  refine ⟨_, rfl, fun hnone f hf => exists_link_of_mem hnone hf, fun problem hproblem => ?_⟩
  obtain ⟨f, hfault, rfl⟩ := exists_fault_of_query hproblem
  obtain ⟨earlier, here, hplace, hread, hhere, hframes⟩ := exists_place_of_fault hfault
  refine ⟨f, earlier, here, rfl, hplace, hread, ?_, ?_⟩
  · rw [frames_of_fault hfault] at hproblem
    rw [readInto_eq, frames_of_fault hhere]
    exact hproblem
  · have hparts : ∀ part, (p.readInto ranIn executed part {}).1.frames.map Frame.undecorated =
        (p.readParts executed part).frames := by
      intro part
      rw [readInto_eq]
      exact map_undecorated_frames p ranIn executed part
    rw [frames_of_fault hfault, List.map_flatMap]
    simp only [hparts]
    exact hframes

end QueryPlan
end MetricFrames
