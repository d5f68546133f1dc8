import MetricFrames.Proofs.Data.Stepwise
import MetricFrames.Proofs.Json.RoundTrip
import MetricFrames.Proofs.Web.Form
import MetricFrames.Web.Explorer

/-!
# What links to the metrics explorer say

A link is read from the outside in: the one parameter of the account chooser is the address of the
explorer, one of whose parameters is JSON that describes the chart. What is read is what the link
was made for, so links that are made for different charts differ (`link_decodes`).
-/

namespace MetricFrames

/-- The value at the end of a path of names. -/
def Data.at? : List String → Data → Option Data
  | [], d => some d
  | name :: names, .object members => (Members.get? name members).bind (Data.at? names)
  | _ :: _, _ => none

namespace Web

/-! ### Addresses with parameters -/

/-- The parameters of an address, if that is all that it adds to a given one. -/
def paramsOf? (base address : String) : Option (List (String × String)) :=
  match Address.readTail address.toList with
  | (front, some query, none) => if front = base.toList then some (formDecode query) else none
  | _ => none

theorem hash_not_mem_formEncode (ps : List (String × String)) : '#' ∉ formEncode ps := by
  intro h
  rcases mem_formEncode h with h | h
  · exact absurd h (by decide)
  · exact absurd h (by decide)

theorem paramsOf?_append {base : String} (hmark : '#' ∉ base.toList) (hquery : '?' ∉ base.toList)
    (ps : List (String × String)) :
    paramsOf? base (String.ofList (base.toList ++ '?' :: formEncode ps)) = some ps := by
  have hwhole : '#' ∉ base.toList ++ '?' :: formEncode ps := by
    simp [hmark, hash_not_mem_formEncode ps]
  have htail : Address.readTail (base.toList ++ '?' :: formEncode ps) =
      (base.toList, some (formEncode ps), none) := by
    rw [Address.readTail, cutAt_of_not_mem hwhole]
    simp only [cutAt_append hquery]
  rw [paramsOf?, String.toList_ofList, htail]
  simp [formDecode_formEncode]

end Web

/-! ### Links -/

namespace Explorer

open Web

variable {project start stop url : String} {set : DataSet}

theorem textual_toData (set : DataSet) : Json.Textual set.toData := by
  cases set with
  | filter expression reducer aligner period groupBys =>
    have hfields : ∀ d ∈ groupBys.map Data.text, Json.Textual d := by
      intro d hd
      obtain ⟨field, -, rfl⟩ := List.mem_map.mp hd
      exact .text field
    have hempty : Json.Textual (.list []) := .list (by simp)
    refine .object (by simp) ?_
    simp only [List.mem_singleton, forall_eq]
    refine .object (by simp) ?_
    simp [hempty, Json.Textual.list hfields, Json.Textual.text]
  | written query =>
    refine .object (by simp) ?_
    simp [Json.Textual.text]

theorem textual_pageState (set : DataSet) (start stop : String) :
    Json.Textual (pageState set start stop) := by
  have hrange : Json.Textual (.object [("end", .text stop), ("start", .text start),
      ("timeRange", .text "custom")]) := .object (by simp) (by simp [Json.Textual.text])
  have haxis : Json.Textual (.object [("label", .text "y1Axis"), ("scale", .text "LINEAR")]) :=
    .object (by simp) (by simp [Json.Textual.text])
  have hsets : Json.Textual (.list [set.toData]) := .list (by simp [textual_toData])
  have hempty : Json.Textual (.list []) := .list (by simp)
  have hchart : Json.Textual (.object [("constantLines", .list []),
      ("dataSets", .list [set.toData]), ("timeshiftDuration", .text "0s"),
      ("y1Axis", .object [("label", .text "y1Axis"), ("scale", .text "LINEAR")])]) :=
    .object (by simp) (by simp [hempty, hsets, haxis, Json.Textual.text])
  exact .object (by simp) (by simp [hrange, hchart])

theorem isControl_formEncode {c : Char} {ps : List (String × String)} (h : c ∈ formEncode ps) :
    Address.isControl c = false := by
  have hshown : 32 ≤ c.toNat ∧ c.toNat ≠ 127 := by
    rcases mem_formEncode h with hfree | hmark
    · have hbounds := (isUnreserved_bounds hfree).1
      omega
    · simp only [List.mem_cons, List.not_mem_nil, or_false] at hmark
      rcases hmark with rfl | rfl | rfl | rfl
      all_goals decide
  simp [Address.isControl, hshown]

/-- Only the length of a query in form encoding can be refused. -/
theorem addressWith_eq_ok (base : String) {ps : List (String × String)}
    (h : (formEncode ps).length ≤ Address.maxLength) :
    addressWith base ps = .ok (String.ofList (base.toList ++ '?' :: formEncode ps)) := by
  have hcontrols : (formEncode ps).findIdx? Address.isControl = none :=
    List.findIdx?_eq_none_iff.mpr fun c hc => isControl_formEncode hc
  have hcheck : Address.checkPart "query" (formEncode ps) = .ok () := by
    rw [Address.checkPart, if_neg (Nat.not_lt.mpr h), Address.checkControls, hcontrols]
  rw [addressWith, hcheck]
  rfl

theorem length_params_le (project : String) (state : List Char) :
    (formEncode [("project", project), ("Grafana_deeplink", "true"),
      ("pageState", String.ofList state)]).length ≤ 12 * (project.length + state.length) + 438 := by
  refine Nat.le_trans (length_formEncode_le _) ?_
  have hname : "project".toList.length = 7 := rfl
  have hmark : "Grafana_deeplink".toList.length = 16 := rfl
  have htrue : "true".toList.length = 4 := rfl
  have hlast : "pageState".toList.length = 9 := rfl
  simp only [List.flatMap_cons, List.flatMap_nil, List.length_append, List.length_cons,
    List.length_nil, String.toList_ofList, String.length_toList, hname, hmark, htrue, hlast]
  omega

theorem length_continue_le (query : List Char) :
    (formEncode [("continue", String.ofList (explorerAddress.toList ++ '?' :: query))]).length ≤
      12 * query.length + 830 := by
  refine Nat.le_trans (length_formEncode_le _) ?_
  have hname : "continue".toList.length = 8 := rfl
  have hbase : explorerAddress.toList.length = 60 := rfl
  simp only [List.flatMap_cons, List.flatMap_nil, List.length_append, List.length_cons,
    List.length_nil, String.toList_ofList, hname, hbase]
  omega

/-- A chart has a link unless its description is long. -/
theorem exists_link
    (h : project.length + (Json.compact true (pageState set start stop)).length ≤ 400) :
    ∃ url, link [project] set start stop = .ok url := by
  have hmax : Address.maxLength = 65536 := rfl
  have hinner := length_params_le project (Json.compact true (pageState set start stop))
  have houter := Nat.le_trans (length_continue_le _)
    (Nat.add_le_add_right (Nat.mul_le_mul_left 12 hinner) 830)
  have hexplorer := addressWith_eq_ok explorerAddress (Nat.le_trans hinner (by omega))
  have hchooser := addressWith_eq_ok chooserAddress (Nat.le_trans houter (by omega))
  rw [link]
  simp only [List.map_cons, List.map_nil, List.cons_append, List.nil_append]
  rw [hexplorer]
  exact ⟨_, hchooser⟩

theorem paramsOf?_addressWith {base address : String} {ps : List (String × String)}
    (hmark : '#' ∉ base.toList) (hquery : '?' ∉ base.toList)
    (h : addressWith base ps = .ok address) : paramsOf? base address = some ps := by
  rw [addressWith] at h
  cases hcheck : Address.checkPart "query" (formEncode ps) with
  | error fault =>
    rw [hcheck] at h
    cases h
  | ok checked =>
    rw [hcheck] at h
    cases h
    exact paramsOf?_append hmark hquery ps

theorem exists_params_of_link (h : link [project] set start stop = .ok url) :
    ∃ explorer state, paramsOf? chooserAddress url = some [("continue", explorer)] ∧
      paramsOf? explorerAddress explorer =
        some [("project", project), ("Grafana_deeplink", "true"), ("pageState", state)] ∧
      Json.read .document state.toList = .ok (pageState set start stop) := by
  obtain ⟨explorer, hexplorer, hurl⟩ := exists_of_bind_eq_ok h
  refine ⟨explorer, _, paramsOf?_addressWith (by decide) (by decide) hurl,
    paramsOf?_addressWith (by decide) (by decide) hexplorer, ?_⟩
  rw [String.toList_ofList]
  exact Json.read_compact (textual_pageState set start stop)

theorem pageState_inj {set' : DataSet} {start' stop' : String}
    (h : pageState set' start' stop' = pageState set start stop) :
    set'.toData = set.toData ∧ start' = start ∧ stop' = stop := by
  simp only [pageState, Data.object.injEq, List.cons.injEq, Prod.mk.injEq, Data.text.injEq,
    Data.list.injEq, true_and, and_true] at h
  exact ⟨h.2, h.1.2, h.1.1⟩

/-- A link is decoded to what it was made for: the account chooser has one parameter, the address of
the explorer with three parameters, the last of which is JSON with the data set as the only one of
the chart and the range of time. So links for different charts differ. -/
theorem link_decodes (h : link [project] set start stop = .ok url) :
    (∃ explorer state page, paramsOf? chooserAddress url = some [("continue", explorer)] ∧
      paramsOf? explorerAddress explorer =
        some [("project", project), ("Grafana_deeplink", "true"), ("pageState", state)] ∧
      Json.read .document state.toList = .ok page ∧
      page.at? ["xyChart", "dataSets"] = some (.list [set.toData]) ∧
      page.at? ["timeSelection", "start"] = some (.text start) ∧
      page.at? ["timeSelection", "end"] = some (.text stop)) ∧
    ∀ project' set' start' stop', link [project'] set' start' stop' = .ok url →
      project' = project ∧ set'.toData = set.toData ∧ start' = start ∧ stop' = stop := by
  obtain ⟨explorer, state, hchooser, hexplorer, hpage⟩ := exists_params_of_link h
  refine ⟨⟨explorer, state, _, hchooser, hexplorer, hpage, rfl, rfl, rfl⟩, ?_⟩
  intro project' set' start' stop' h'
  obtain ⟨explorer', state', hchooser', hexplorer', hpage'⟩ := exists_params_of_link h'
  -- Both are read from the same link, so they agree from one layer to the next.
  rw [hchooser'] at hchooser
  simp only [Option.some.injEq, List.cons.injEq, Prod.mk.injEq, true_and, and_true] at hchooser
  subst hchooser
  rw [hexplorer'] at hexplorer
  simp only [Option.some.injEq, List.cons.injEq, Prod.mk.injEq, true_and, and_true] at hexplorer
  obtain ⟨rfl, rfl⟩ := hexplorer
  rw [hpage'] at hpage
  exact ⟨rfl, pageState_inj (Except.ok.inj hpage)⟩

/-- The link to a chart whose texts are full of marks is decoded as well. -/
theorem link_decodes_of_marks :
    ∃ url, link ["a&b=c"] (.written "fetch x\n| b = \"é%+\\\"") "now-1h" "n+w" = .ok url ∧
      (∃ explorer state page, paramsOf? chooserAddress url = some [("continue", explorer)] ∧
        paramsOf? explorerAddress explorer =
          some [("project", "a&b=c"), ("Grafana_deeplink", "true"), ("pageState", state)] ∧
        Json.read .document state.toList = .ok page ∧
        page.at? ["xyChart", "dataSets"] =
          some (.list [(DataSet.written "fetch x\n| b = \"é%+\\\"").toData]) ∧
        page.at? ["timeSelection", "start"] = some (.text "now-1h") ∧
        page.at? ["timeSelection", "end"] = some (.text "n+w")) ∧
      ∀ project' set' start' stop', link [project'] set' start' stop' = .ok url →
        project' = "a&b=c" ∧ set'.toData = (DataSet.written "fetch x\n| b = \"é%+\\\"").toData ∧
          start' = "now-1h" ∧ stop' = "n+w" := by
  obtain ⟨url, hurl⟩ :
      ∃ url, link ["a&b=c"] (.written "fetch x\n| b = \"é%+\\\"") "now-1h" "n+w" = .ok url :=
    exists_link (by decide +kernel)
  exact ⟨url, hurl, link_decodes hurl⟩

end Explorer
end MetricFrames
