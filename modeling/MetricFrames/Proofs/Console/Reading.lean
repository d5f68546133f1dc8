import MetricFrames.Proofs.Console.Widths
import MetricFrames.Proofs.Console.Wrapping

/-!
# Reading tables

A table of two columns is read from its lines: from the end, up to the headers, and each line from
its start, up to the mark behind its first cell (`read?`). In what is printed of a title and of rows
with names and values, exactly the fields are read that are left where these are set out
(`read?_onConsole`).
-/

namespace MetricFrames.Console.Table

open Text

/-! ### The reader -/

/-- Whether a line starts with a mark. -/
def starts (mark : Char) (line : List Char) : Bool := line.head? == some mark

/-- The two cells of a line; the first one ends at the next mark. -/
def cellsOf (line : List Char) : List Char × List Char :=
  let (name, value) := (line.drop 1).span (· != '│')
  (name, (value.drop 1).dropLast)

/-- Puts lines of cells together. A line without a name goes on with the row above it; lines that go
on with no row are left over. -/
def gather : List (List Char × List Char) → List (List Char) × List (String × String)
  | [] => ([], [])
  | (name, value) :: lines =>
    let (more, rows) := gather lines
    if fields name = [] then (value :: more, rows)
    else ([], (tidied [name], tidied (value :: more)) :: rows)

/-- What a table of names and values says. -/
structure Told where
  title : String
  rows : List (String × String)
  deriving DecidableEq

/-- Reads the lines of a table of names and values. -/
def read? (lines : List (List Char)) : Option Told :=
  let upward := lines.reverse
  let (rows, above) := (upward.drop 1).span (starts '│')
  let (_, title) := (above.drop 1).span (starts '┃')
  let isFramed := upward.head?.any (starts '└') && above.head?.any (starts '┡') &&
    title.head?.any (starts '┏')
  match gather (rows.reverse.map cellsOf) with
  | ([], rows) => if isFramed then some ⟨tidied (title.drop 1).reverse, rows⟩ else none
  | _ => none

/-! ### Lines -/

variable {a b : List Char}

theorem span_append_cons {α : Type} {p : α → Bool} {xs : List α} {x : α}
    (hxs : ∀ y ∈ xs, p y = true) (hx : p x = false) (ys : List α) :
    (xs ++ x :: ys).span p = (xs, x :: ys) := by
  rw [List.span_eq_takeWhile_dropWhile, List.takeWhile_append_of_pos hxs,
    List.dropWhile_append_of_pos hxs, List.takeWhile_cons, List.dropWhile_cons, hx]
  simp

/-- The lines of a table are told apart by their marks. -/
theorem read?_framed {title headers rows : List (List Char)} {top middle bottom : List Char}
    (htop : starts '┏' top = true) (hheaders : ∀ line ∈ headers, starts '┃' line = true)
    (hmiddle : starts '┡' middle = true) (hrows : ∀ line ∈ rows, starts '│' line = true)
    (hbottom : starts '└' bottom = true) {told : List (String × String)} {left : List (List Char)}
    (hgather : gather (rows.map cellsOf) = (left, told)) :
    read? (title ++ top :: headers ++ middle :: rows ++ [bottom]) =
      if left = [] then some ⟨tidied title, told⟩ else none := by
  have hmark : ∀ {mark mark' : Char} {line : List Char}, mark ≠ mark' →
      starts mark line = true → starts mark' line = false := by
    intro mark mark' line hne h
    rw [starts, beq_iff_eq] at h
    rw [starts, h]
    simpa using hne
  have hupward : (title ++ top :: headers ++ middle :: rows ++ [bottom]).reverse =
      bottom :: (rows.reverse ++ middle :: (headers.reverse ++ top :: title.reverse)) := by
    simp
  have hbelow := span_append_cons (fun line hline => hrows line (List.mem_reverse.mp hline))
    (hmark (by decide) hmiddle) (headers.reverse ++ top :: title.reverse)
  have habove := span_append_cons (fun line hline => hheaders line (List.mem_reverse.mp hline))
    (hmark (by decide) htop) title.reverse
  rw [read?, hupward]
  simp only [List.drop_succ_cons, List.drop_zero, hbelow, habove, List.reverse_reverse, hgather,
    List.head?_cons, Option.any_some, htop, hmiddle, hbottom, Bool.and_self, if_true]
  cases left with
  | nil => rfl
  | cons line left => rfl

example : read? (["  A: GET /p", "┏━━━┳━━━┓", "┃ P ┃ V ┃", "┡━━━╇━━━┩", "│ a │ b │", "│   │ c │",
    "└───┴───┘"].map String.toList) = some ⟨"A: GET /p", [("a", "b c")]⟩ := by decide +kernel

theorem cellsOf_lineOf (h : '│' ∉ a) (b : List Char) : cellsOf (lineOf '│' [a, b]) = (a, b) := by
  have hmarkless : ∀ c ∈ a, (c != '│') = true := by
    rintro c hc
    rw [bne_iff_ne]
    rintro rfl
    exact h hc
  have hspan : (a ++ '│' :: (b ++ ['│'])).span (· != '│') = (a, '│' :: (b ++ ['│'])) :=
    span_append_cons hmarkless (by decide) _
  have hline : (lineOf '│' [a, b]).drop 1 = a ++ '│' :: (b ++ ['│']) := by
    simp [lineOf, joinWith]
  rw [cellsOf, hline, hspan]
  simp

/-! ### Rows -/

theorem gather_append_of_blank {lines : List (List Char × List Char)}
    (h : ∀ line ∈ lines, fields line.1 = []) (more : List (List Char × List Char)) :
    gather (lines ++ more) = (lines.map (·.2) ++ (gather more).1, (gather more).2) := by
  induction lines with
  | nil => rfl
  | cons line lines ih =>
    obtain ⟨hline, hlines⟩ := List.forall_mem_cons.mp h
    rw [List.cons_append, gather, ih hlines]
    dsimp only
    rw [if_pos hline]
    rfl

/-- A row is as high as its value; only its first line has a name. -/
theorem gather_row (ha : fields a ≠ []) (b : List Char) {lines : List (List Char × List Char)}
    (h : ∀ line ∈ lines, fields line.1 = []) {more : List (List Char × List Char)}
    (hmore : (gather more).1 = []) : gather ((a, b) :: lines ++ more) =
      ([], (tidied [a], tidied (b :: lines.map (·.2))) :: (gather more).2) := by
  rw [List.cons_append, gather, gather_append_of_blank h]
  dsimp only
  rw [if_neg ha, hmore, List.append_nil]

theorem map_getD_range {α β : Type} {xs : List α} {ys : List β} (h : xs.length = ys.length)
    (d : α) (e : β) : (List.range xs.length).map (fun i => ((xs[i]?).getD d, (ys[i]?).getD e)) =
      xs.zip ys := by
  refine List.ext_getElem (by simp [h]) fun i hi hi' => ?_
  have hx : i < xs.length := by simpa using hi
  have hy : i < ys.length := h ▸ hx
  simp [hx, hy]

theorem not_mem_blank {c : Char} (hc : c ≠ ' ') (width : Nat) : c ∉ List.replicate width ' ' :=
  fun h => hc (List.eq_of_mem_replicate h)

/-- The cells of a row whose name takes one line: both columns are filled up with blank lines to the
height of the row. -/
theorem map_cellsOf_rowLines (ha : '│' ∉ a) (width width' : Nat) {values : List (List Char)}
    {more : Nat} (hmore : max 1 values.length = more + 1) :
    (rowLines '│' false [width, width'] [[a], values]).map cellsOf =
      (a :: List.replicate more (List.replicate width ' ')).zip
        (values ++ List.replicate (more + 1 - values.length) (List.replicate width' ' ')) := by
  generalize hnames : a :: List.replicate more (List.replicate width ' ') = names
  generalize hfilled : values ++ List.replicate (more + 1 - values.length)
    (List.replicate width' ' ') = filled
  have hlength : names.length = filled.length := by
    rw [← hnames, ← hfilled, List.length_cons, List.length_append, List.length_replicate,
      List.length_replicate]
    omega
  have hmarkless (i : Nat) : '│' ∉ (names[i]?).getD [] := by
    cases hcell : names[i]? with
    | none => exact List.not_mem_nil
    | some cell =>
      have hmem := List.mem_of_getElem? hcell
      rw [← hnames] at hmem
      rcases List.mem_cons.mp hmem with rfl | hmem
      · exact ha
      · exact List.eq_of_mem_replicate hmem ▸ not_mem_blank (by decide) width
  have hrow : rowLines '│' false [width, width'] [[a], values] = (List.range (more + 1)).map
      fun i => lineOf '│' [(names[i]?).getD [], (filled[i]?).getD []] := by
    rw [rowLines, ← hnames, ← hfilled]
    simp [hmore]
  have hcount : names.length = more + 1 := by
    rw [← hnames, List.length_cons, List.length_replicate]
  rw [hrow, List.map_map, ← map_getD_range hlength [] [], hcount]
  exact List.map_congr_left fun i _ => cellsOf_lineOf (hmarkless i) _

/-- The lines of a row whose name takes one line. -/
theorem exists_cellsOf_rowLines (ha : '│' ∉ a) (width width' : Nat) (values : List (List Char)) :
    ∃ b lines, (rowLines '│' false [width, width'] [[a], values]).map cellsOf = (a, b) :: lines ∧
      (∀ line ∈ lines, fields line.1 = []) ∧ tidied (b :: lines.map (·.2)) = tidied values := by
  obtain ⟨more, hmore⟩ : ∃ more, max 1 values.length = more + 1 :=
    ⟨max 1 values.length - 1, by omega⟩
  have hcells := map_cellsOf_rowLines ha width width' hmore
  generalize hfilled : values ++ List.replicate (more + 1 - values.length)
    (List.replicate width' ' ') = filled at hcells
  have hlength : filled.length = more + 1 := by
    rw [← hfilled, List.length_append, List.length_replicate]
    omega
  obtain ⟨b, others, rfl⟩ := List.exists_cons_of_length_eq_add_one hlength
  have hothers : others.length = more := Nat.succ.inj hlength
  refine ⟨b, (List.replicate more (List.replicate width ' ')).zip others, hcells, ?_, ?_⟩
  · intro line hline
    have hname := (List.of_mem_zip (a := line.1) (b := line.2) hline).1
    rw [List.eq_of_mem_replicate hname]
    exact fields_eq_nil isBlank_of_mem_replicate
  · rw [List.map_snd_zip (by simp [hothers]), ← hfilled]
    have hfill : (List.replicate (more + 1 - values.length) (List.replicate width' ' ')).flatMap
        fields = [] := List.flatMap_eq_nil_iff.mpr fun line hline =>
      List.eq_of_mem_replicate hline ▸ fields_eq_nil isBlank_of_mem_replicate
    refine tidied_congr ?_
    rw [List.flatMap_append, hfill, List.append_nil]

/-! ### Names -/

/-- A name that can stand in a table: one field without a mark or an ellipsis. -/
structure IsName (name : List Char) : Prop where
  ne_nil : name ≠ []
  solid : ∀ c ∈ name, isBlank c = false
  markless : '│' ∉ name
  whole : '…' ∉ name

instance (name : List Char) : Decidable (IsName name) :=
  decidable_of_iff (name ≠ [] ∧ name.all (!isBlank ·) ∧ '│' ∉ name ∧ '…' ∉ name) <| by
    rw [List.all_eq_true]
    simp only [Bool.not_eq_true']
    exact ⟨fun h => ⟨h.1, h.2.1, h.2.2.1, h.2.2.2⟩,
      fun h => ⟨h.ne_nil, h.solid, h.markless, h.whole⟩⟩

variable {name : List Char}

theorem IsName.fields_eq (h : IsName name) : fields name = [name] :=
  fields_eq_singleton h.ne_nil h.solid

theorem go_eq_singleton (hn : name ≠ []) (h : ∀ c ∈ name, isBlank c = false) :
    words.go name = [name] := by
  induction name with
  | nil => exact absurd rfl hn
  | cons c name ih =>
    cases name with
    | nil => rfl
    | cons d name =>
      have hc : isBlank c = false := h c List.mem_cons_self
      rw [words.go, ih (List.cons_ne_nil d name) fun e he => h e (List.mem_cons_of_mem c he)]
      simp [hc]

theorem IsName.words_eq (h : IsName name) : words name = [name] := by
  obtain ⟨c, rest, rfl⟩ := List.exists_cons_of_ne_nil h.ne_nil
  have hc : isBlank c = false := h.solid c List.mem_cons_self
  have hdrop : (c :: rest).dropWhile isBlank = c :: rest := by simp [hc]
  have htake : (c :: rest).takeWhile isBlank = [] := by simp [hc]
  rw [words, hdrop, htake, go_eq_singleton h.ne_nil h.solid]
  rfl

theorem splitAt_eq_singleton {sep : Char} (h : sep ∉ name) : splitAt sep name = [name] := by
  induction name with
  | nil => rfl
  | cons c name ih =>
    rw [List.mem_cons, not_or] at h
    rw [splitAt, ih h.2]
    simp [Ne.symm h.1]

/-- A name stands in one line. -/
theorem IsName.wrapText_eq (h : IsName name) (width : Nat) :
    wrapText false width name = [name] := by
  have hmem {c : Char} (hc : isBlank c = true) : c ∉ name := fun hmem => by
    rw [h.solid c hmem] at hc
    cases hc
  have hwrap : wrap false width name = [name] := by
    rw [wrap, h.words_eq]
    rcases Filling.place_cases width {} name with hplace | hplace
    all_goals simp [hplace, Filling.text, Filling.add, Filling.break]
  have hend : withoutEnd name = name := List.rdropWhile_eq_self_iff.mpr fun hn hlast => by
    rw [h.solid _ (List.getLast_mem hn)] at hlast
    cases hlast
  have hdrop : dropExcess width name = name := by
    simp [dropExcess, hend]
  rw [wrapText, splitAt_eq_singleton (hmem (by decide)), List.flatMap_singleton, expandTabs,
    splitAt_eq_singleton (hmem (by decide)), expandParts, hwrap, List.map_singleton, hdrop]

theorem fields_ne_nil {c : Char} (hc : c ∈ a) (h : isBlank c = false) : fields a ≠ [] := by
  intro hnone
  have hflatten := flatten_fields a
  rw [hnone] at hflatten
  have hmem : c ∈ a.filter (!isBlank ·) := List.mem_filter.mpr ⟨hc, by rw [h]; rfl⟩
  rw [← hflatten] at hmem
  cases hmem

theorem IsName.cellLines_eq (h : IsName name) {width : Nat} (hwidth : ¬ width ≤ padding) :
    cellLines width name = [' ' :: fit (width - padding) name ++ [' ']] := by
  rw [cellLines, if_neg hwidth, h.wrapText_eq, List.map_singleton]

/-- The cell of a name is one line, which is blank only if there is no room for the name. -/
theorem IsName.exists_cellLines (h : IsName name) (width : Nat) :
    ∃ cell, cellLines width name = [cell] ∧ '│' ∉ cell ∧ (fields cell = [] ↔ width ≤ padding) := by
  by_cases hwidth : width ≤ padding
  · rw [cellLines, if_pos hwidth]
    exact ⟨_, rfl, not_mem_blank (by decide) width,
      iff_of_true (fields_eq_nil isBlank_of_mem_replicate) hwidth⟩
  · rw [h.cellLines_eq hwidth]
    refine ⟨_, rfl, ?_, iff_of_false ?_ hwidth⟩
    · intro hmem
      rcases List.mem_append.mp hmem with hmem | hmem
      · rcases List.mem_cons.mp hmem with hmem | hmem
        · cases hmem
        · rcases mem_fit hmem with hmem | hmem | hmem
          · exact h.markless hmem
          · cases hmem
          · cases hmem
      · cases List.mem_singleton.mp hmem
    · obtain ⟨c, hc, hsolid⟩ : ∃ c ∈ fit (width - padding) name, isBlank c = false := by
        rw [fit]
        split
        · obtain ⟨c, rest, rfl⟩ := List.exists_cons_of_ne_nil h.ne_nil
          exact ⟨c, by simp, h.solid c List.mem_cons_self⟩
        · exact ⟨'…', by simp, by decide⟩
      exact fields_ne_nil (List.mem_append_left _ (List.mem_cons_of_mem _ hc)) hsolid

theorem IsName.tidied_eq (h : IsName name) : tidied [name] = String.ofList name := by
  rw [tidied, List.flatMap_singleton, h.fields_eq]
  rfl

theorem tidied_cellLines_of_le {width : Nat} (h : width ≤ padding) (s : List Char) :
    tidied (cellLines width s) = "" := by
  rw [cellLines, if_pos h, tidied, List.flatMap_singleton, fields_eq_nil isBlank_of_mem_replicate]
  rfl

/-- A name is told in its cell, unless it is cut there or has no room at all. -/
theorem IsName.told_eq (h : IsName name) {width : Nat}
    (htold : IsName (tidied (cellLines width name)).toList) :
    tidied (cellLines width name) = String.ofList name := by
  by_cases hwidth : width ≤ padding
  · rw [tidied_cellLines_of_le hwidth] at htold
    exact absurd rfl htold.ne_nil
  · rw [h.cellLines_eq hwidth] at htold ⊢
    by_cases hfit : cellWidth name ≤ width - padding
    · rw [← h.tidied_eq]
      refine tidied_eq_of_flatMap ?_
      rw [List.flatMap_singleton, List.cons_append, fields_cons (by decide),
        fields_append_space, fields_fit hfit]
    · -- A name that is too wide for its column ends in an ellipsis there.
      refine absurd ?_ htold.whole
      rw [mem_tidied_iff (by decide), fit, if_neg hfit]
      exact ⟨_, List.mem_singleton_self _, by simp⟩

/-! ### Tables of names and values -/

/-- What a title and rows of names and values tell in columns of some widths. -/
def Told.inColumns (widths : List Nat) (title : List Char) (rows : List (List Char × List Char)) :
    Told where
  title := tidied ((wrapText true (fullWidth widths) title).map (centre (fullWidth widths)))
  rows := rows.map fun (name, value) => (tidied (cellLines ((widths[0]?).getD 0) name),
    tidied (cellLines ((widths[1]?).getD 0) value))

/-- A text fits a column of a width: there is room between the blanks, and the text fits it. -/
def FitsColumn (width : Nat) (s : List Char) : Prop := padding < width ∧ Fits (width - padding) s

instance (width : Nat) (s : List Char) : Decidable (FitsColumn width s) :=
  inferInstanceAs (Decidable (_ ∧ _))

/-- A text that fits its column is told as it is. -/
theorem FitsColumn.tidied_cellLines {width : Nat} {s : List Char} (h : FitsColumn width s) :
    tidied (cellLines width s) = tidied [s] := by
  refine tidied_eq_of_flatMap ?_
  rw [cellLines, if_neg (Nat.not_le.mpr h.1)]
  refine h.2.flatMap_fields (fun line hline => ?_) false
  rw [List.cons_append, fields_cons (by decide), fields_append_space, fields_fit hline]

/-- What is told in a cell stands in its text, but for an ellipsis. -/
theorem mem_of_mem_tidied_cellLines {c : Char} {width : Nat} {s : List Char}
    (hc : isBlank c = false) (hcut : c ≠ '…') (h : c ∈ (tidied (cellLines width s)).toList) :
    c ∈ s := by
  have hspace : c ≠ ' ' := by
    rintro rfl
    cases hc
  by_cases hwidth : width ≤ padding
  · rw [tidied_cellLines_of_le hwidth] at h
    cases h
  · obtain ⟨cell, hcell, hmem⟩ := (mem_tidied_iff hc _).mp h
    rw [cellLines, if_neg hwidth] at hcell
    obtain ⟨line, hline, rfl⟩ := List.mem_map.mp hcell
    have hfit : c ∈ fit (width - padding) line := by simpa [hspace] using hmem
    have hmem : c ∈ line := (mem_fit hfit).resolve_right fun h => h.elim hspace hcut
    have htidied : tidied (wrapText false (width - padding) s) = tidied [s] :=
      tidied_eq_of_flatMap (flatMap_fields_wrapText _ s)
    have hs := (mem_tidied_iff hc _).mpr ⟨line, hline, hmem⟩
    rw [htidied, mem_tidied_iff hc] at hs
    obtain ⟨_, hsame, hs⟩ := hs
    exact List.mem_singleton.mp hsame ▸ hs

/-- The lines of cells in which rows are printed. -/
def cellsIn (width width' : Nat) (rows : List (List Char × List Char)) :
    List (List Char × List Char) :=
  rows.flatMap fun (name, value) =>
    (rowLines '│' false [width, width'] [cellLines width name, cellLines width' value]).map cellsOf

variable {width width' : Nat} {rows : List (List Char × List Char)}

theorem gather_cellsIn (hnames : ∀ row ∈ rows, IsName row.1)
    (hwidth : rows ≠ [] → padding < width) :
    gather (cellsIn width width' rows) =
      ([], rows.map fun (name, value) => (tidied (cellLines width name),
        tidied (cellLines width' value))) := by
  induction rows with
  | nil => rfl
  | cons row rows ih =>
    obtain ⟨hname, hnames⟩ := List.forall_mem_cons.mp hnames
    obtain ⟨cell, hcell, hmark, hblank⟩ := hname.exists_cellLines width
    obtain ⟨b, lines, hlines, hrest, htidied⟩ :=
      exists_cellsOf_rowLines hmark width width' (cellLines width' row.2)
    -- The rows below are gathered first. Nothing of them is left over, so this row ends above them.
    have hroom : padding < width := hwidth (List.cons_ne_nil row rows)
    have hsome : fields cell ≠ [] := mt hblank.mp (Nat.not_le.mpr hroom)
    have hrows := ih hnames fun _ => hroom
    have hmore : (gather (cellsIn width width' rows)).1 = [] := by rw [hrows]
    rw [cellsIn, List.flatMap_cons]
    dsimp only
    rw [hcell, hlines, ← cellsIn, gather_row hsome b hrest hmore, hrows, htidied,
      List.map_cons, hcell]

/-- Without room for names, nothing is read but what is left over. -/
theorem gather_cellsIn_of_le (hnames : ∀ row ∈ rows, IsName row.1) (hwidth : width ≤ padding) :
    (gather (cellsIn width width' rows)).2 = [] := by
  induction rows with
  | nil => rfl
  | cons row rows ih =>
    obtain ⟨hname, hnames⟩ := List.forall_mem_cons.mp hnames
    obtain ⟨cell, hcell, hmark, hblank⟩ := hname.exists_cellLines width
    obtain ⟨b, lines, hlines, hrest, -⟩ :=
      exists_cellsOf_rowLines hmark width width' (cellLines width' row.2)
    have hnone : ∀ line ∈ (cell, b) :: lines, fields line.1 = [] :=
      List.forall_mem_cons.mpr ⟨hblank.mpr hwidth, hrest⟩
    rw [cellsIn, List.flatMap_cons]
    dsimp only
    rw [hcell, hlines, ← cellsIn, gather_append_of_blank hnone]
    exact ih hnames

/-- The two columns of rows under headers. -/
def columnsOf (header header' : List Char) (rows : List (List Char × List Char)) : List Column :=
  [⟨header, rows.map (·.1)⟩, ⟨header', rows.map (·.2)⟩]

theorem rows_columnsOf (header header' : List Char) (rows : List (List Char × List Char)) :
    Columns.rows ((columnsOf header header' rows).map Column.cells) =
      rows.map fun row => [row.1, row.2] := by
  have hfirst : Columns.firstRows rows.length [rows.map (·.1), rows.map (·.2)] =
      rows.map fun row => [row.1, row.2] := by
    induction rows with
    | nil => rfl
    | cons row rows ih => simpa [Columns.firstRows] using ih
  simpa [columnsOf, Columns.rows] using hfirst

theorem starts_of_mem_rowLines {mark : Char} {isHeader : Bool} {widths : List Nat}
    {cells : List (List (List Char))} :
    ∀ line ∈ rowLines mark isHeader widths cells, starts mark line = true := by
  intro line hline
  obtain ⟨i, -, rfl⟩ := List.mem_map.mp hline
  simp [starts, lineOf]

theorem read?_layout (width width' : Nat) (title header header' : List Char)
    (rows : List (List Char × List Char)) :
    read? (layout [width, width'] title (columnsOf header header' rows)) =
      if (gather (cellsIn width width' rows)).1 = [] then
        some ⟨tidied ((wrapText true (fullWidth [width, width']) title).map
          (centre (fullWidth [width, width']))), (gather (cellsIn width width' rows)).2⟩
      else none := by
  rw [layout]
  dsimp only
  rw [rows_columnsOf, List.flatMap_map]
  refine read?_framed ?_ starts_of_mem_rowLines ?_ ?_ ?_ ?_
  · simp [starts, Rule.over, top]
  · simp [starts, Rule.over, middle]
  · intro line hline
    obtain ⟨row, -, hline⟩ := List.mem_flatMap.mp hline
    exact starts_of_mem_rowLines line hline
  · simp [starts, Rule.over, bottom]
  · rw [List.map_flatMap]
    rfl

/-- On a console with room for its marks, a table of names and values is read as what it tells in
its columns; if there is no room for names, no row of it is read. -/
theorem read?_onConsole (hnames : ∀ row ∈ rows, IsName row.1) {console : Nat}
    (hconsole : markWidth 2 ≤ console) (title header header' : List Char) :
    let columns := columnsOf header header' rows
    let widths := widths console columns
    ((rows ≠ [] → padding < (widths[0]?).getD 0) →
      read? (onConsole console title columns) = some (.inColumns widths title rows)) ∧
    ((widths[0]?).getD 0 ≤ padding →
      ∀ told, read? (onConsole console title columns) = some told → told.rows = []) := by
  intro columns widths'
  obtain ⟨width, width', hwidths, hle⟩ : ∃ width width', widths' = [width, width'] ∧
      width + width' ≤ console - markWidth 2 := Widths.fitting_pair _ _ _
  have hfull : fullWidth [width, width'] ≤ console := by
    have hlength : [width, width'].length = 2 := rfl
    rw [fullWidth, Widths.total_pair, hlength]
    omega
  have hlines : onConsole console title columns = layout [width, width'] title columns := by
    have hsame : Table.widths console columns = [width, width'] := hwidths
    rw [onConsole, hsame, if_pos hfull]
  rw [hlines, hwidths, read?_layout]
  constructor
  · intro hroom
    have hgather : gather (cellsIn width width' rows) = _ := gather_cellsIn hnames hroom
    rw [hgather, if_pos rfl]
    rfl
  · intro hroom told htold
    have hnone : (gather (cellsIn width width' rows)).2 = [] := gather_cellsIn_of_le hnames hroom
    rw [hnone] at htold
    split at htold
    · cases htold
      rfl
    · cases htold

theorem Told.rows_inColumns (widths : List Nat) (title : List Char)
    (rows : List (List Char × List Char)) :
    (inColumns widths title rows).rows = rows.map fun row =>
      (tidied (cellLines ((widths[0]?).getD 0) row.1),
        tidied (cellLines ((widths[1]?).getD 0) row.2)) := rfl

theorem Told.map_snd_inColumns (widths : List Nat) (title : List Char)
    (rows : List (List Char × List Char)) :
    (inColumns widths title rows).rows.map (·.2) =
      rows.map fun row => tidied (cellLines ((widths[1]?).getD 0) row.2) := by
  rw [rows_inColumns, List.map_map]
  rfl

/-- What is told under whole names has the names of the rows. -/
theorem Told.map_fst_inColumns (hnames : ∀ row ∈ rows, IsName row.1) {widths : List Nat}
    {title : List Char} (htold : ∀ row ∈ (inColumns widths title rows).rows, IsName row.1.toList) :
    (inColumns widths title rows).rows.map (·.1) = rows.map fun row => String.ofList row.1 := by
  rw [rows_inColumns] at htold ⊢
  rw [List.map_map]
  refine List.map_congr_left fun row hrow => ?_
  have hname := List.forall_mem_map.mp htold row hrow
  exact (hnames row hrow).told_eq hname

/-- Whole names are read exactly if they are told. -/
theorem read?_onConsole_iff (hnames : ∀ row ∈ rows, IsName row.1) {console : Nat}
    (hconsole : markWidth 2 ≤ console) (title header header' : List Char) {told : Told}
    (htold : ∀ row ∈ told.rows, IsName row.1.toList) (hsome : told.rows = [] → rows = []) :
    read? (onConsole console title (columnsOf header header' rows)) = some told ↔
      Told.inColumns (widths console (columnsOf header header' rows)) title rows = told := by
  obtain ⟨hread, hnone⟩ := read?_onConsole hnames hconsole title header header'
  constructor
  · intro h
    rw [hread fun hrows => Nat.lt_of_not_le fun hle => hrows (hsome (hnone hle told h))] at h
    exact Option.some.inj h
  · rintro rfl
    refine hread fun hrows => Nat.lt_of_not_le fun hle => ?_
    obtain ⟨row, hrow⟩ := List.exists_mem_of_ne_nil rows hrows
    rw [Told.rows_inColumns] at htold
    have hname := (htold _ (List.mem_map_of_mem hrow)).ne_nil
    rw [tidied_cellLines_of_le hle] at hname
    exact hname rfl

end MetricFrames.Console.Table
