import MetricFrames.Proofs.Command.Seen
import MetricFrames.Proofs.Json.RoundTrip
import MetricFrames.Proofs.Request.Params

/-!
# Messages that lines name

A preview foretells a message if it has its method, its path and its content (`Preview.Foretells`).
The lines in which it is printed are read back by their marks, white space counting as one space
(`Preview.Says`). They name the message exactly if markup and the console leave all words of the
preview (`Preview.named_iff`). A console that has room for what markup leaves changes nothing about
that (`Preview.legible_iff`).
-/

namespace MetricFrames.Preview

/-! ### What a preview foretells -/

open RequestParams in
/-- The content of a message: the same values of each name in the same order, or the same body. -/
def Content.Tells (m : Instance.Message) : Content → Prop
  | .params items => m.body = none ∧
      ∃ query, m.query = some query ∧ ∀ name, named name items = named name query
  | .body d => m.query = none ∧ m.body = some (String.ofList (Json.compact false d))

/-- A preview has the method, the path and the content of a message. -/
structure Foretells (v : Preview) (m : Instance.Message) : Prop where
  method : v.method = m.method
  path : v.path = m.path
  content : v.content.Tells m

/-- The title of a message under an id. -/
def titleOf (refId : String) (m : Instance.Message) : List Char :=
  (refId ++ ": " ++ m.method ++ " " ++ m.path).toList

/-! ### What lines tell -/

open Text

/-- What is told: a table of names and values, or a text. -/
inductive Told where
  | table (t : Console.Table.Told)
  | text (s : String)
  deriving DecidableEq

/-- What the lines of an entry say, above the empty line at its end. -/
def Says (entry : List (List Char)) : Told → Prop
  | .table t => ∃ lines, entry = lines ++ [[]] ∧ Console.Table.read? lines = some t
  | .text s => ∃ lines, entry = lines ++ [[]] ∧ s = tidied lines

theorem says_table_iff {lines : List (List Char)} {t : Console.Table.Told} :
    Says (lines ++ [[]]) (.table t) ↔ Console.Table.read? lines = some t := by
  constructor
  · rintro ⟨lines', hlines, h⟩
    rwa [List.append_cancel_right hlines]
  · exact fun h => ⟨lines, rfl, h⟩

theorem says_text_iff {lines : List (List Char)} {s : String} :
    Says (lines ++ [[]]) (.text s) ↔ s = tidied lines := by
  constructor
  · rintro ⟨lines', hlines, h⟩
    rwa [List.append_cancel_right hlines]
  · exact fun h => ⟨lines, rfl, h⟩

/-- A parameter with its white space tidied. -/
def tidy (item : String × String) : String × String :=
  (tidied [item.1.toList], tidied [item.2.toList])

open RequestParams in
/-- What is told names the method and the path of a message in a title, and then the same values of
each name in the same order, or the JSON of its body. -/
def Told.Names (refId : String) (m : Instance.Message) : Told → Prop
  | .table t => t.title = tidied [titleOf refId m] ∧ m.body = none ∧
      ∃ query, m.query = some query ∧ ∀ name, named name t.rows = named name (query.map tidy)
  | .text s => m.query = none ∧ ∃ body d, m.body = some body ∧
      Json.read .document body.toList = .ok d ∧ s = tidied [titleOf refId m, Json.indented 0 d]

/-- The lines of an entry name a message. -/
def Named (refId : String) (m : Instance.Message) (entry : List (List Char)) : Prop :=
  ∃ told, Says entry told ∧ told.Names refId m

open Console in
/-- What is told of a preview where it is set out on a console. -/
def Seen.told (console : Nat) (v : Seen) : Told :=
  match v.content with
  | .params items =>
    .table (.inColumns (Table.widths console (columnsOf items)) v.title (items.map row))
  | .body d =>
    .text (tidied (Report.printed console v.title ++ Report.printed console (Json.indented 0 d)))

/-- What a preview has to tell. -/
def Seen.meant (v : Seen) : Told :=
  match v.content with
  | .params items => .table ⟨tidied [v.title], items.map tidy⟩
  | .body d => .text (tidied [v.title, Json.indented 0 d])

/-- What a preview has to tell if markup leaves it alone. -/
def meant (v : Preview) : Told := Seen.meant ⟨v.title, v.content⟩

/-- Markup can be read in a preview and leaves all its words. -/
def Verbatim (v : Preview) : Prop := ∃ seen, v.seen = .ok seen ∧ seen.meant = v.meant

/-- Markup can be read in a preview, and what it leaves shows all its words where it is set out on a
console. -/
def Legible (console : Nat) (v : Preview) : Prop :=
  ∃ seen, v.seen = .ok seen ∧ seen.told console = v.meant

instance (console : Nat) (v : Preview) : Decidable (v.Legible console) :=
  match h : v.seen with
  | .ok seen => decidable_of_iff (seen.told console = v.meant)
    ⟨fun htold => ⟨seen, h, htold⟩, fun ⟨_, hseen, htold⟩ =>
      Except.ok.inj (h.symm.trans hseen) ▸ htold⟩
  | .error _ => .isFalse fun ⟨_, hseen, _⟩ => nomatch h.symm.trans hseen

open Console in
/-- A console has room for what is seen of a preview: no word is folded and no line is cut. -/
def Seen.Fits (console : Nat) (v : Seen) : Prop :=
  match v.content with
  | .params items =>
    let widths := Table.widths console (columnsOf items)
    Console.Fits (Table.fullWidth widths) v.title ∧
      ∀ item ∈ items, Table.FitsColumn ((widths[0]?).getD 0) item.1.toList ∧
        Table.FitsColumn ((widths[1]?).getD 0) item.2.toList
  | .body d => Console.Fits console v.title ∧ Console.Fits console (Json.indented 0 d)

instance (console : Nat) : (v : Seen) → Decidable (v.Fits console)
  | ⟨_, .params items⟩ => inferInstanceAs (Decidable (_ ∧ ∀ item ∈ items, _))
  | ⟨_, .body _⟩ => inferInstanceAs (Decidable (_ ∧ _))

/-- Where there is room, everything is told. -/
theorem Seen.told_eq_meant {console : Nat} {v : Seen} (h : v.Fits console) :
    v.told console = v.meant := by
  obtain ⟨title, items | d⟩ := v
  · obtain ⟨htitle, hitems⟩ := h
    rw [Seen.told, Seen.meant]
    dsimp only at htitle hitems ⊢
    rw [Console.Table.Told.inColumns, List.map_map,
      tidied_eq_of_flatMap htitle.flatMap_fields_centre]
    refine congrArg (fun rows => Told.table ⟨_, rows⟩) (List.map_congr_left fun item hitem => ?_)
    obtain ⟨hname, hvalue⟩ := hitems item hitem
    exact Prod.ext hname.tidied_cellLines hvalue.tidied_cellLines
  · obtain ⟨htitle, hbody⟩ := h
    rw [Seen.told, Seen.meant]
    dsimp only at htitle hbody ⊢
    refine congrArg Told.text (tidied_congr ?_)
    rw [List.flatMap_append, Console.Report.printed, Console.Report.printed,
      htitle.flatMap_fields_cut, hbody.flatMap_fields_cut]
    simp

/-- A console that has room for what is seen of a preview. -/
def FitsOn (console : Nat) (v : Preview) : Prop := ∀ seen, v.seen = .ok seen → seen.Fits console

instance (console : Nat) (v : Preview) : Decidable (v.FitsOn console) :=
  match h : v.seen with
  | .ok seen => decidable_of_iff (seen.Fits console)
    ⟨fun hfits _ hseen => Except.ok.inj (h.symm.trans hseen) ▸ hfits, fun hfits => hfits seen h⟩
  | .error _ => .isTrue fun _ hseen => nomatch h.symm.trans hseen

/-- Where there is room, a preview is legible if markup leaves its words. -/
theorem legible_iff {console : Nat} {v : Preview} (h : v.FitsOn console) :
    v.Legible console ↔ v.Verbatim := by
  refine exists_congr fun seen => and_congr_right fun hseen => ?_
  rw [Seen.told_eq_meant (h seen hseen)]

/-! ### Named messages -/

/-- A content as plans make it: parameters under fixed names, or a body of texts. -/
def Content.IsRegular : Content → Prop
  | .params items => QueryPlan.HasFixedNames ⟨items⟩
  | .body d => Json.Textual d

theorem isName_paramNames : ∀ name ∈ QueryPlan.paramNames, Console.Table.IsName name.toList := by
  decide +kernel

/-- What stands in a value of a legible table is left there by markup. -/
theorem Legible.exists_render {console : Nat} {refId method path : String}
    {items : List (String × String)} (hn : QueryPlan.HasFixedNames ⟨items⟩)
    (h : Legible console ⟨refId, method, path, .params items⟩) {item : String × String}
    (hitem : item ∈ items) {c : Char} (hc : isBlank c = false) (hcut : c ≠ '…')
    (hmem : c ∈ item.2.toList) :
    ∃ shown, Markup.render item.2.toList = .ok shown ∧ c ∈ shown := by
  obtain ⟨seen, hseen, htold⟩ := h
  obtain ⟨title, values, rfl, hall⟩ := exists_of_seen_params hn hseen
  obtain ⟨n, hn'⟩ := List.mem_iff_getElem?.mp hitem
  obtain ⟨shown, hshown, hrender⟩ := exists_of_forall₂_getElem? hall hn'
  have hlen : (items.map (·.1.toList)).length = values.length := by
    rw [List.length_map, hall.length_eq]
  -- The second column holds the values one by one.
  have hcolumn := congrArg (·.rows.map (·.2)) (Told.table.inj htold)
  dsimp only at hcolumn
  rw [Console.Table.Told.map_snd_inColumns, List.map_map, List.map_map] at hcolumn
  generalize ((Console.Table.widths console _)[1]?).getD 0 = width at hcolumn
  have hvalues : values.map (fun value => tidied (Console.Table.cellLines width value)) =
      items.map fun item => tidied [item.2.toList] := by
    rw [← map_snd_rows hlen, List.map_map]
    exact hcolumn
  have hcell := congrArg (·[n]?) hvalues
  simp only [List.getElem?_map, hn', hshown, Option.map_some, Option.some.injEq] at hcell
  have htold : c ∈ (tidied (Console.Table.cellLines width shown)).toList := by
    rw [hcell, mem_tidied_iff hc]
    exact ⟨_, List.mem_singleton_self _, hmem⟩
  exact ⟨shown, hrender, Console.Table.mem_of_mem_tidied_cellLines hc hcut htold⟩

variable {v : Preview} {m : Instance.Message}

theorem Foretells.title_eq (h : v.Foretells m) : v.title = titleOf v.refId m := by
  rw [title, titleOf, h.method, h.path]

/-! #### Tables -/

section

open RequestParams

variable {items query : List (String × String)}

theorem tidy_fst {item : String × String} (h : Console.Table.IsName item.1.toList) :
    (tidy item).1 = item.1 := h.tidied_eq.trans String.ofList_toList

theorem map_fst_tidy (hn : QueryPlan.HasFixedNames ⟨items⟩) :
    (items.map tidy).map (·.1) = items.map (·.1) := by
  rw [List.map_map]
  exact List.map_congr_left fun item hitem => tidy_fst (isName_paramNames _ (hn item hitem))

theorem named_map_tidy (hn : QueryPlan.HasFixedNames ⟨items⟩) (name : String) :
    named name (items.map tidy) = (named name items).map tidy := by
  rw [named, List.filter_map]
  refine congrArg (List.map tidy) (List.filter_congr fun item hitem => ?_)
  rw [Function.comp_apply, tidy_fst (isName_paramNames _ (hn item hitem))]

/-- Parameters that agree in the values of each name still do so with their white space tidied. -/
theorem named_map_tidy_congr (hn : QueryPlan.HasFixedNames ⟨items⟩)
    (h : ∀ name, named name items = named name query) (name : String) :
    named name (items.map tidy) = named name (query.map tidy) := by
  have hn' : QueryPlan.HasFixedNames ⟨query⟩ := fun item hitem =>
    hn item (mem_of_named (fun name => (h name).symm) hitem)
  rw [named_map_tidy hn, named_map_tidy hn', h]

theorem isName_row {shown : List (String × String)} (h : QueryPlan.HasFixedNames ⟨shown⟩) :
    ∀ cells ∈ shown.map row, Console.Table.IsName cells.1 :=
  List.forall_mem_map.mpr fun item hitem => isName_paramNames _ (h item hitem)

section

variable {console : Nat} {title : List Char} {shown : List (String × String)}
  {t : Console.Table.Told} (hshown : QueryPlan.HasFixedNames ⟨shown⟩)
  (hwhole : ∀ row ∈ t.rows, Console.Table.IsName row.1.toList)

include hshown hwhole

/-- Under whole names, the lines of a table say what is told of it. -/
theorem says_params_iff (hconsole : Console.Table.markWidth 2 ≤ console)
    (hsome : t.rows = [] → shown = []) :
    Says (Seen.lines console ⟨title, .params shown⟩) (.table t) ↔
      Seen.told console ⟨title, .params shown⟩ = .table t := by
  have hread := Console.Table.read?_onConsole_iff (isName_row hshown) hconsole title
    "Param".toList "Value".toList hwhole fun h => by rw [hsome h, List.map_nil]
  rw [Seen.lines, says_table_iff, Seen.told, Told.table.injEq]
  exact hread

/-- What is told under whole names has the names of the table. -/
theorem map_fst_told (h : Seen.told console ⟨title, .params shown⟩ = .table t) :
    t.rows.map (·.1) = shown.map (·.1) := by
  obtain rfl := Told.table.inj h
  rw [Console.Table.Told.map_fst_inColumns (isName_row hshown) hwhole, List.map_map]
  exact List.map_congr_left fun item _ => String.ofList_toList

end

/-- The lines of a table name a message exactly if they tell all of its parameters. -/
theorem named_params_iff {refId method path : String} {title : List Char}
    {shown : List (String × String)} (hn : QueryPlan.HasFixedNames ⟨items⟩)
    (hf : Foretells ⟨refId, method, path, .params items⟩ m)
    (hsame : shown.map (·.1) = items.map (·.1)) {console : Nat}
    (hconsole : Console.Table.markWidth 2 ≤ console) :
    Named refId m (Seen.lines console ⟨title, .params shown⟩) ↔
      Seen.told console ⟨title, .params shown⟩ = meant ⟨refId, method, path, .params items⟩ := by
  obtain ⟨hbody, query, hquery, hvalues⟩ := hf.content
  have htitle : tidied [titleOf refId m] = _ := congrArg (tidied [·]) hf.title_eq.symm
  have hmeant : ∀ name, named name (items.map tidy) = named name (query.map tidy) :=
    named_map_tidy_congr hn hvalues
  have hshown : QueryPlan.HasFixedNames ⟨shown⟩ := fun item hitem => by
    obtain ⟨item', hitem', hname⟩ := List.mem_map.mp (hsame ▸ List.mem_map_of_mem hitem)
    exact hname ▸ hn item' hitem'
  have hwhole : ∀ row ∈ items.map tidy, Console.Table.IsName row.1.toList :=
    List.forall_mem_map.mpr fun item hitem => by
      have hname := isName_paramNames _ (hn item hitem)
      rwa [tidy_fst hname]
  have hempty : items.map tidy = [] → shown = [] := fun h => by
    rw [List.map_eq_nil_iff.mp h] at hsame
    exact List.map_eq_nil_iff.mp hsame
  constructor
  · rintro ⟨told, hspoken, hnamed⟩
    cases told with
    | text s => exact absurd (hquery.symm.trans hnamed.1) (by simp)
    | table t =>
      obtain ⟨hlines, -, query', hquery', htold⟩ := hnamed
      obtain rfl : query = query' := Option.some.inj (hquery.symm.trans hquery')
      have hagree : ∀ name, named name t.rows = named name (items.map tidy) := fun name =>
        (htold name).trans (hmeant name).symm
      have hrows : ∀ row ∈ t.rows, Console.Table.IsName row.1.toList := fun row hrow =>
        hwhole row (mem_of_named hagree hrow)
      have hsome : t.rows = [] → shown = [] := fun h => by
        rw [h] at hagree
        exact hempty (eq_nil_of_named fun name => (hagree name).symm)
      have hcolumns := (says_params_iff hshown hrows hconsole hsome).mp hspoken
      -- The rows have the names of the parameters in the same order, so their values settle them.
      have hitems : t.rows = items.map tidy := by
        refine eq_of_named ?_ hagree
        rw [map_fst_told hshown hrows hcolumns, hsame, map_fst_tidy hn]
      rw [hcolumns]
      exact congrArg₂ (fun title rows => Told.table ⟨title, rows⟩) (hlines.trans htitle) hitems
  · intro h
    exact ⟨_, (says_params_iff hshown hwhole hconsole hempty).mpr h, htitle.symm, hbody, query,
      hquery, hmeant⟩

end

/-! #### Bodies -/

/-- The lines of a body name a message exactly if they tell all of it. -/
theorem named_body_iff {refId method path : String} {title : List Char} {d : Data}
    (hd : Json.Textual d) (hf : Foretells ⟨refId, method, path, .body d⟩ m) (console : Nat) :
    Named refId m (Seen.lines console ⟨title, .body d⟩) ↔
      Seen.told console ⟨title, .body d⟩ = meant ⟨refId, method, path, .body d⟩ := by
  obtain ⟨hquery, hbody⟩ := hf.content
  have htitle : tidied [titleOf refId m, Json.indented 0 d] = _ :=
    congrArg (tidied [·, Json.indented 0 d]) hf.title_eq.symm
  have hread : Json.read .document (String.ofList (Json.compact false d)).toList = .ok d := by
    rw [String.toList_ofList, Json.read_compact hd]
  constructor
  · rintro ⟨told, hspoken, hnamed⟩
    cases told with
    | table t =>
      obtain ⟨-, -, query, hsome, -⟩ := hnamed
      exact absurd (hquery.symm.trans hsome) (by simp)
    | text s =>
      obtain ⟨-, body, d', hbody', hread', rfl⟩ := hnamed
      obtain rfl : _ = body := Option.some.inj (hbody.symm.trans hbody')
      obtain rfl : d = d' := Except.ok.inj (hread.symm.trans hread')
      rw [Seen.lines, says_text_iff] at hspoken
      exact congrArg Told.text (hspoken.symm.trans htitle)
  · intro h
    have hlines := says_text_iff.mpr (Told.text.inj h).symm
    exact ⟨_, hlines, hquery, _, d, hbody, hread, htitle.symm⟩

/-! #### Previews -/

/-- The lines of a preview that foretells a message name it exactly if they tell all that the
preview has to tell. -/
theorem named_iff (hf : v.Foretells m) (hr : v.content.IsRegular) {console : Nat}
    (hconsole : Console.Table.markWidth 2 ≤ console) :
    (∃ entry, v.lines console = .ok entry ∧ Named v.refId m entry) ↔ v.Legible console := by
  have hseen {seen : Seen} (h : v.seen = .ok seen) :
      Named v.refId m (seen.lines console) ↔ seen.told console = v.meant := by
    obtain ⟨refId, method, path, items | d⟩ := v
    · obtain ⟨title, values, rfl, hall⟩ := exists_of_seen_params hr h
      exact named_params_iff hr hf (map_fst_rows_names hall.length_eq) hconsole
    · obtain ⟨content, hcontent, h⟩ := exists_of_bind_eq_ok h
      obtain ⟨title, -, h⟩ := exists_of_bind_eq_ok h
      cases hcontent
      cases h
      exact named_body_iff hr hf console
  rw [lines_eq]
  constructor
  · rintro ⟨entry, hentry, hnamed⟩
    obtain ⟨seen, h, rfl⟩ := exists_of_map_eq_ok hentry
    exact ⟨seen, h, (hseen h).mp hnamed⟩
  · rintro ⟨seen, h, htold⟩
    exact ⟨seen.lines console, by rw [h]; rfl, (hseen h).mpr htold⟩

end MetricFrames.Preview
