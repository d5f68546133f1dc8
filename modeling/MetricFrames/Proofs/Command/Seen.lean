import MetricFrames.Command.Preview
import MetricFrames.Proofs.Console.Reading
import MetricFrames.Proofs.Plan.Opening

/-!
# What is seen of a preview

The title of a preview and the texts of its table are markup, so what is seen of them is what markup
leaves (`Preview.seen`), set out on a console of some width (`Preview.lines_eq`). Markup leaves the
names of parameters (`Preview.exists_of_seen_params`), and a text without brackets and colons
(`Markup.render_eq_self`).
-/

namespace MetricFrames

/-! ### Markup for itself -/

namespace Emoji

/-- A text without colons holds no codes. -/
theorem replace_eq_self {s : List Char} (h : ':' ∉ s) : replace s = s := by
  rw [replace]
  induction s with
  | nil => rfl
  | cons c s ih =>
    rw [List.mem_cons, not_or] at h
    rw [replaceAfter, if_neg (Ne.symm h.1), ih h.2]

end Emoji

namespace Markup

theorem tagHere?_eq_none {s : List Char} (h : '[' ∉ s) : tagHere? s = none := by
  induction s with
  | nil => rfl
  | cons c s ih =>
    rw [List.mem_cons, not_or] at h
    unfold tagHere?
    split
    · rfl
    · next heq =>
      obtain ⟨-, rfl⟩ := List.cons.inj heq
      rw [ih h.2]
      rfl
    · next heq => exact absurd (List.cons.inj heq).1.symm h.1
    · rfl

theorem pieces_eq_text {s : List Char} (h : '[' ∉ s) (position : Nat) (before : List Char) :
    pieces position before s = [.text (before.reverse ++ s)] := by
  induction s generalizing position before with
  | nil => rw [pieces, List.append_nil]
  | cons c s ih =>
    have hs : '[' ∉ s := fun hmem => h (List.mem_cons_of_mem c hmem)
    have hhead : s.head? ≠ some '[' := fun hhead => hs (List.mem_of_mem_head? hhead)
    rw [pieces]
    split
    · next heq =>
      rw [tagHere?_eq_none h] at heq
      cases heq
    · rw [if_neg fun hslash => hhead hslash.2, ih hs]
      simp

theorem render_of_no_tag {s : List Char} (h : '[' ∉ s) :
    render s = .ok ((Emoji.replace s).filter fun c => !isSilent c) := by
  have htext : textOf [] [.text s] = .ok (Emoji.replace s ++ []) := rfl
  rw [render, pieces_eq_text h, List.reverse_nil, List.nil_append, htext, List.append_nil]
  rfl

/-- Neither part of a tag, nor part of a code, nor silent. -/
def isPlain (c : Char) : Bool := c != '[' && c != ':' && !isSilent c

/-- A text without tags, codes and silent controls is markup for itself. -/
theorem render_eq_self {s : List Char} (h : s.all isPlain = true) : render s = .ok s := by
  have hplain : ∀ c ∈ s, (c ≠ '[' ∧ c ≠ ':') ∧ isSilent c = false := by
    intro c hc
    simpa [isPlain] using List.all_eq_true.mp h c hc
  have htag : '[' ∉ s := fun hmem => (hplain _ hmem).1.1 rfl
  have hcode : ':' ∉ s := fun hmem => (hplain _ hmem).1.2 rfl
  rw [render_of_no_tag htag, Emoji.replace_eq_self hcode]
  exact congrArg Except.ok (List.filter_eq_self.mpr fun c hc => by rw [(hplain c hc).2]; rfl)

end Markup

/-! ### What is seen of a preview -/

namespace Preview

/-- The parameters in a content. -/
def Content.items : Content → List (String × String)
  | .params items => items
  | .body _ => []

/-- What is seen of a preview: its title, and the texts of its content as markup leaves them. -/
structure Seen where
  title : List Char
  content : Content

/-- The rows of a column of names and a column of values. -/
def rows (names values : List (List Char)) : List (String × String) :=
  (names.zip values).map fun row => (String.ofList row.1, String.ofList row.2)

/-- What markup leaves of the texts of a table; a body is no markup. -/
def Content.rendered : Content → Except Fault Content
  | .params items => do
    let names ← items.mapM fun item => Markup.render item.1.toList
    let values ← items.mapM fun item => Markup.render item.2.toList
    return .params (rows names values)
  | .body d => .ok (.body d)

/-- The title as markup: that of a table stands alone, that of a body in a style. -/
def heading (v : Preview) : List Char :=
  match v.content with
  | .params _ => v.title
  | .body _ => Console.Report.styled "bold" v.title

/-- What is seen of a preview. -/
def seen (v : Preview) : Except Fault Seen := do
  let content ← v.content.rendered
  let title ← Markup.render v.heading
  return ⟨title, content⟩

/-- A parameter as the row of a table. -/
def row (item : String × String) : List Char × List Char := (item.1.toList, item.2.toList)

open Console in
/-- The columns of parameters. -/
def columnsOf (items : List (String × String)) : List Column :=
  Table.columnsOf "Param".toList "Value".toList (items.map row)

open Console in
/-- The lines in which a preview is seen on a console. -/
def Seen.lines (console : Nat) (v : Seen) : List (List Char) :=
  match v.content with
  | .params items => Table.onConsole console v.title (columnsOf items) ++ [[]]
  | .body d => Report.printed console v.title ++ Report.printed console (Json.indented 0 d) ++ [[]]

theorem render_param : Markup.render "Param".toList = .ok "Param".toList :=
  Markup.render_eq_self (by decide)

theorem render_value : Markup.render "Value".toList = .ok "Value".toList :=
  Markup.render_eq_self (by decide)

theorem columns_params (title : List Char) (items : List (String × String)) :
    (Console.Table.mk title ["Param".toList, "Value".toList]
      (items.map fun (key, value) => [key.toList, value.toList])).columns = do
        let names ← items.mapM fun item => Markup.render item.1.toList
        let values ← items.mapM fun item => Markup.render item.2.toList
        return [⟨"Param".toList, names⟩, ⟨"Value".toList, values⟩] := by
  simp only [Console.Table.columns, List.zipIdx_cons, List.zipIdx_nil, List.mapM_cons,
    List.mapM_nil, List.mapM_map, Function.comp_def, Nat.zero_add, List.getElem?_cons_zero,
    List.getElem?_cons_succ, Option.getD_some, render_param, render_value]
  cases items.mapM fun item => Markup.render item.1.toList with
  | error f => rfl
  | ok names =>
    cases items.mapM fun item => Markup.render item.2.toList with
    | error f => rfl
    | ok values => rfl

section

variable {names values : List (List Char)} (h : names.length = values.length)

include h

theorem map_fst_rows : (rows names values).map (·.1.toList) = names := by
  have hrow : (rows names values).map (·.1.toList) = (names.zip values).map (·.1) := by
    rw [rows, List.map_map]
    exact List.map_congr_left fun row _ => String.toList_ofList
  rw [hrow, List.map_fst_zip (Nat.le_of_eq h)]

theorem map_snd_rows : (rows names values).map (·.2.toList) = values := by
  have hrow : (rows names values).map (·.2.toList) = (names.zip values).map (·.2) := by
    rw [rows, List.map_map]
    exact List.map_congr_left fun row _ => String.toList_ofList
  rw [hrow, List.map_snd_zip (Nat.le_of_eq h.symm)]

end

/-- A preview is printed as the lines in which it is seen. -/
theorem lines_eq (console : Nat) (v : Preview) :
    v.lines console = v.seen.map (Seen.lines console) := by
  obtain ⟨refId, method, path, items | d⟩ := v
  · rw [lines, seen]
    dsimp only [Content.rendered, heading]
    rw [Console.Table.render, columns_params]
    cases hnames : items.mapM fun item => Markup.render item.1.toList with
    | error f => rfl
    | ok names =>
      cases hvalues : items.mapM fun item => Markup.render item.2.toList with
      | error f => rfl
      | ok values =>
        have hlen : names.length = values.length :=
          ((mapM_eq_ok_iff _ _ _).mp hnames).length_eq.symm.trans
            ((mapM_eq_ok_iff _ _ _).mp hvalues).length_eq
        cases Markup.render (Preview.title ⟨refId, method, path, .params items⟩) with
        | error f => rfl
        | ok title =>
          have hcolumns : columnsOf (rows names values) =
              [⟨"Param".toList, names⟩, ⟨"Value".toList, values⟩] := by
            rw [columnsOf, Console.Table.columnsOf, List.map_map, List.map_map]
            show [Console.Column.mk _ ((rows names values).map (·.1.toList)),
              Console.Column.mk _ ((rows names values).map (·.2.toList))] = _
            rw [map_fst_rows hlen, map_snd_rows hlen]
          show Except.ok _ = Except.ok _
          rw [Seen.lines]
          dsimp only
          rw [hcolumns]
  · rw [lines, seen]
    dsimp only [Content.rendered, heading, Console.Report.message]
    cases Markup.render (Console.Report.styled "bold" _) with
    | error f => rfl
    | ok title => rfl

/-! ### Names of parameters -/

theorem render_paramNames : ∀ name ∈ QueryPlan.paramNames,
    Markup.render name.toList = .ok name.toList := by
  have hplain : (QueryPlan.paramNames.all fun name => name.toList.all Markup.isPlain) = true := by
    decide +kernel
  exact fun name hname => Markup.render_eq_self (List.all_eq_true.mp hplain name hname)

theorem mapM_render_names {items : List (String × String)} (hn : QueryPlan.HasFixedNames ⟨items⟩) :
    (items.mapM fun item => Markup.render item.1.toList) = .ok (items.map (·.1.toList)) := by
  rw [mapM_eq_ok_iff, List.forall₂_map_right_iff, List.forall₂_same]
  exact fun item hitem => render_paramNames item.1 (hn item hitem)

/-- Markup leaves the names of a table. -/
theorem exists_of_seen_params {refId method path : String} {items : List (String × String)}
    (hn : QueryPlan.HasFixedNames ⟨items⟩) {seen : Seen}
    (h : Preview.seen ⟨refId, method, path, .params items⟩ = .ok seen) :
    ∃ title values, seen = ⟨title, .params (rows (items.map (·.1.toList)) values)⟩ ∧
      List.Forall₂ (fun item value => Markup.render item.2.toList = .ok value) items values := by
  obtain ⟨content, hcontent, h⟩ := exists_of_bind_eq_ok h
  obtain ⟨title, -, h⟩ := exists_of_bind_eq_ok h
  cases h
  obtain ⟨names, hnames, hcontent⟩ := exists_of_bind_eq_ok hcontent
  obtain ⟨values, hvalues, hcontent⟩ := exists_of_bind_eq_ok hcontent
  cases hcontent
  obtain rfl : items.map (·.1.toList) = names :=
    Except.ok.inj ((mapM_render_names hn).symm.trans hnames)
  exact ⟨title, values, rfl, (mapM_eq_ok_iff _ _ _).mp hvalues⟩

theorem map_fst_rows_names {items : List (String × String)} {values : List (List Char)}
    (h : items.length = values.length) :
    (rows (items.map (·.1.toList)) values).map (·.1) = items.map (·.1) := by
  have htexts : ((rows (items.map (·.1.toList)) values).map (·.1)).map String.toList =
      (items.map (·.1)).map String.toList := by
    rw [List.map_map, List.map_map]
    exact map_fst_rows (by rw [List.length_map, h])
  exact List.map_injective_iff.mpr (fun _ _ => String.toList_inj.mp) htexts

/-- A table is seen if markup can be read in its title and in all of its values. -/
theorem exists_seen_params {refId method path : String} {items : List (String × String)}
    (hn : QueryPlan.HasFixedNames ⟨items⟩) {title : List Char}
    (ht : Markup.render (Preview.title ⟨refId, method, path, .params items⟩) = .ok title)
    (hv : ∀ item ∈ items, ∃ shown, Markup.render item.2.toList = .ok shown) :
    ∃ seen, Preview.seen ⟨refId, method, path, .params items⟩ = .ok seen := by
  obtain ⟨values, hvalues⟩ := exists_mapM_eq_ok hv
  change (items.mapM fun item => Markup.render item.2.toList) = .ok values at hvalues
  rw [seen]
  dsimp only [Content.rendered, heading]
  rw [mapM_render_names hn, hvalues, ht]
  exact ⟨_, rfl⟩

end Preview

end MetricFrames
