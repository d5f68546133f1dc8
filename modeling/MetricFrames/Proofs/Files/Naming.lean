import MetricFrames.Files.Loading
import MetricFrames.Proofs.Files.RefId
import MetricFrames.Proofs.Service.Answering
import Mathlib.Data.List.Nodup
import Mathlib.Data.List.Perm.Subperm

/-!
# Ids of loaded queries

A query in a file keeps the id that it is given; otherwise it is named by its position
(`refIds_queriesOf`). Names of different positions differ (`RefId.ofIndex_injective`), but a name
may be given to another query already. The queries of a batch have different ids exactly if this
does not happen (`load_refIds_nodup_iff`); otherwise some of them share a result.
-/

namespace MetricFrames

/-! ### Ids of the queries in a file -/

namespace Batch

/-- A text that is not empty. -/
def givenText : Data → Option String
  | .text t => if t = "" then none else some t
  | _ => none

/-- The value that stands for the id of a query in a file. -/
def idOf (d : Data) : Data := (d.members?.bind fun entry => entry.get? "refId").getD .null

/-- The id that a query in a file is given; an empty one counts as none. -/
def givenId? (d : Data) : Option String := givenText (idOf d)

variable {batch : Members Data} {range : TimeRange} {position : Nat} {d : Data} {q : BatchQuery}

theorem exists_of_seq_ok {α β : Type} {f : Checked (α → β)} {a : Checked α} {b : β}
    (h : f <*> a = Checked.ok b) : ∃ g x, f = .ok g ∧ a = .ok x ∧ g x = b := by
  cases f with
  | error ps => cases a <;> cases h
  | ok g =>
    cases a with
    | error ps => cases h
    | ok x => exact ⟨g, x, rfl, rfl, Except.ok.inj h⟩

theorem eq_ok_of_report {α : Type} {model : String} {c : Checked α} {a : α}
    (h : c.report model = .ok a) : c = .ok a := by
  cases c with
  | error ps => cases h
  | ok b =>
    cases h
    rfl

theorem eq_text_of_below {name t : String} (h : (Decoder.text d).below name = .ok t) :
    d = .text t := by
  cases d with
  | text s =>
    cases h
    rfl
  | _ => cases h

/-- The id of a query is the only thing that is decoded as its id. -/
theorem refId_of_ofMembers {id : Data} {rest : Members Data}
    (hwire : Members.get? "refId" rest = none)
    (h : BatchQuery.ofMembers (fun _ => .ok range) (("ref_id", id) :: rest) = .ok q) :
    id = .text q.refId := by
  obtain ⟨f₁, payload, h₁, -, rfl⟩ := exists_of_seq_ok h
  obtain ⟨f₂, window, h₂, -, rfl⟩ := exists_of_seq_ok h₁
  obtain ⟨f₃, maxDataPoints, h₃, -, rfl⟩ := exists_of_seq_ok h₂
  obtain ⟨f₄, intervalMs, h₄, -, rfl⟩ := exists_of_seq_ok h₃
  have hfind : FieldName.find? ⟨"refId", "ref_id"⟩ (("ref_id", id) :: rest) =
      some ("ref_id", id) := by
    simp [FieldName.find?, Members.get?_cons, hwire]
  rw [FieldName.required, hfind] at h₄
  cases hid : (Decoder.text id).below "ref_id" with
  | error ps =>
    simp only [hid] at h₄
    cases h₄
  | ok t =>
    simp only [hid] at h₄
    cases h₄
    exact eq_text_of_below hid

/-- What is decoded as the id of a query. -/
theorem text_refId_of_queryOf (h : queryOf batch range position d = some (.ok q)) :
    (idOf d).orElse (.text (RefId.ofIndex position)) = .text q.refId := by
  rw [queryOf] at h
  rw [idOf]
  cases hd : d.members? with
  | none =>
    rw [hd] at h
    cases h
  | some entry =>
    rw [hd, Option.map_some, Option.some.injEq] at h
    exact refId_of_ofMembers rfl (eq_ok_of_report h)

theorem eq_getD_of_orElse_text {name id : String} (h : d.orElse (.text name) = .text id) :
    id = (givenText d).getD name := by
  rw [Data.orElse] at h
  split at h
  · next hgiven =>
    subst h
    have hid : id ≠ "" := by simpa [Data.isGiven] using hgiven
    rw [givenText, if_neg hid, Option.getD_some]
  · next hgiven =>
    obtain rfl := Data.text.inj h
    cases d with
    | text t =>
      have ht : t = "" := by simpa [Data.isGiven] using hgiven
      rw [givenText, if_pos ht, Option.getD_none]
    | _ => rfl

/-- The names of queries that follow one another, from the ids that they are given. -/
def names (position : Nat) (given : List (Option String)) : List String :=
  (given.zipIdx position).map fun x => x.1.getD (RefId.ofIndex x.2)

theorem refIds_queriesOf {file : String} {items : List Data} {queries : List BatchQuery}
    (h : queriesOf file batch range position items = .ok queries) :
    queries.map (·.refId) = names position (items.map givenId?) := by
  induction items generalizing position queries with
  | nil =>
    cases h
    rfl
  | cons d items ih =>
    rw [queriesOf] at h
    split at h
    · cases h
    · cases h
    · next q hq =>
      cases hrest : queriesOf file batch range (position + 1) items with
      | error p =>
        rw [hrest] at h
        cases h
      | ok rest =>
        rw [hrest] at h
        cases h
        have hid := eq_getD_of_orElse_text (text_refId_of_queryOf hq)
        rw [List.map_cons, List.map_cons, names, List.zipIdx_cons, List.map_cons, hid, ih hrest]
        rfl

/-- The items of the queries in the data of a file. -/
def itemsIn (d : Data) : List Data :=
  (itemsOf ((d.members?.bind fun ms => ms.get? "queries").getD .null)).toOption.getD []

/-- What stands in a file as its queries. -/
def entries (files : FileSet) (path : String) : List Data :=
  ((files.load (FileSet.plainPath path)).toOption.map itemsIn).getD []

variable {files : FileSet} {path file : String} {settings : Settings} {b : Batch}

theorem exists_queriesOf_of_ofFile {ms : Members Data} (h : ofFile file settings ms = .ok b) :
    ∃ items range, itemsOf ((ms.get? "queries").getD .null) = .ok items ∧
      queriesOf file ms range 0 items = .ok b.queries := by
  rw [ofFile] at h
  dsimp only at h
  split at h
  · cases h
  · split at h
    · cases h
    · next range _ =>
      split at h
      · cases h
      · next items hitems =>
        cases hqueries : queriesOf file ms range 0 items with
        | error p =>
          rw [hqueries] at h
          cases h
        | ok queries =>
          rw [hqueries] at h
          cases h
          exact ⟨items, range, hitems, hqueries⟩

/-- The ids of the queries that are loaded are the names of what stands in the file. -/
theorem refIds_load (h : load files path settings = .ok b) :
    b.queries.map (·.refId) = names 0 ((entries files path).map givenId?) := by
  obtain ⟨d, hd, h⟩ := exists_of_bind_eq_ok h
  cases hm : d.members? with
  | none =>
    rw [hm] at h
    cases h
  | some ms =>
    have hfile : ofFile (FileSet.plainPath path) settings ms = .ok b := by
      simpa only [hm] using h
    obtain ⟨items, range, hitems, hqueries⟩ := exists_queriesOf_of_ofFile hfile
    have hentries : entries files path = items := by
      rw [entries, hd]
      show itemsIn d = items
      rw [itemsIn, hm, Option.bind_some, hitems]
      rfl
    rw [hentries]
    exact refIds_queriesOf hqueries

/-! ### Different ids -/

theorem getElem?_names (given : List (Option String)) (n : Nat) :
    (names 0 given)[n]? = given[n]?.map fun x => x.getD (RefId.ofIndex n) := by
  simp [names, Function.comp_def]

/-- What a list selects differs if no two of its items select the same. -/
theorem nodup_filterMap_iff {α β : Type} {f : α → Option β} {l : List α} :
    (l.filterMap f).Nodup ↔ ∀ (i j : Nat) (x y : α) (b : β), l[i]? = some x → l[j]? = some y →
      f x = some b → f y = some b → i = j := by
  unfold List.Nodup
  rw [List.pairwise_filterMap, List.pairwise_iff_getElem]
  constructor
  · intro h i j x y b hi hj hx hy
    obtain ⟨hilt, rfl⟩ := List.getElem?_eq_some_iff.mp hi
    obtain ⟨hjlt, rfl⟩ := List.getElem?_eq_some_iff.mp hj
    by_contra hne
    rcases Nat.lt_or_gt_of_ne hne with hlt | hlt
    · exact h i j hilt hjlt hlt b hx b hy rfl
    · exact h j i hjlt hilt hlt b hy b hx rfl
  · rintro h i j hi hj hlt b hx _ hy rfl
    have heq := h i j l[i] l[j] b (List.getElem?_eq_getElem hi) (List.getElem?_eq_getElem hj) hx hy
    exact Nat.ne_of_lt hlt heq

theorem nodup_iff_eq_of_getElem? {α : Type} {l : List α} :
    l.Nodup ↔ ∀ (i j : Nat) (a : α), l[i]? = some a → l[j]? = some a → i = j := by
  have hall := nodup_filterMap_iff (f := some) (l := l)
  rw [List.filterMap_some] at hall
  rw [hall]
  constructor
  · intro h i j a hi hj
    exact h i j a a a hi hj rfl rfl
  · intro h i j x y a hi hj hx hy
    obtain rfl := Option.some.inj hx
    obtain rfl := Option.some.inj hy
    exact h i j _ hi hj

theorem nodup_names_iff (given : List (Option String)) :
    (names 0 given).Nodup ↔ (given.filterMap id).Nodup ∧
      ∀ n, given[n]? = some none → RefId.ofIndex n ∉ given.filterMap id := by
  have hmem : ∀ t, t ∈ given.filterMap id ↔ ∃ i : Nat, given[i]? = some (some t) := by
    intro t
    rw [List.mem_filterMap]
    simp only [id_eq, exists_eq_right, List.mem_iff_getElem?]
  have hname : ∀ (i : Nat) (x : Option String), given[i]? = some x →
      (names 0 given)[i]? = some (x.getD (RefId.ofIndex i)) := by
    intro i x hi
    rw [getElem?_names, hi, Option.map_some]
  rw [nodup_filterMap_iff, nodup_iff_eq_of_getElem?]
  constructor
  · intro h
    refine ⟨?_, fun n hn hclash => ?_⟩
    · rintro i j _ _ t hi hj rfl rfl
      exact h i j t (hname i _ hi) (hname j _ hj)
    · obtain ⟨i, hi⟩ := (hmem _).mp hclash
      obtain rfl : i = n := h i n _ (hname i _ hi) (hname n _ hn)
      cases hi.symm.trans hn
  · rintro ⟨hgiven, hfree⟩ i j id hi hj
    rw [getElem?_names] at hi hj
    obtain ⟨x, hx, rfl⟩ := Option.map_eq_some_iff.mp hi
    obtain ⟨y, hy, heq⟩ := Option.map_eq_some_iff.mp hj
    cases x with
    | none =>
      cases y with
      | none => exact (RefId.ofIndex_injective heq).symm
      | some t =>
        obtain rfl : t = RefId.ofIndex i := heq
        exact absurd ((hmem _).mpr ⟨j, hy⟩) (hfree i hx)
    | some t =>
      cases y with
      | none =>
        obtain rfl : RefId.ofIndex j = t := heq
        exact absurd ((hmem _).mpr ⟨i, hx⟩) (hfree j hy)
      | some u =>
        obtain rfl : u = t := heq
        exact hgiven i j _ _ u hx hy rfl rfl

end Batch

/-! ### Results of queries with the same id -/

namespace Service

/-- A regular batch has one result for each id, so it has as many results as queries exactly if
their ids differ. -/
theorem length_results_iff {s : Surroundings} {i : Instance} {queries : List BatchQuery}
    {e e' : Exchange} {results : Results}
    (h : (answerRegular s i queries).runFrom e = (.ok results, e')) :
    results.length = queries.length ↔ (queries.map (·.refId)).Nodup := by
  obtain ⟨plans, hplans, hrun⟩ := exists_of_answerRegular_ok h
  obtain ⟨first, rest, -, hforall⟩ := QueryPlan.exists_of_ofBatch_eq_ok hplans
  have hids := refIds_of_forall₂ hforall
  have hempty : (([] : Results).map (·.1)).Nodup := List.nodup_nil
  have hnodup : (results.map (·.1)).Nodup := nodup_names_answerPlans hempty hrun
  have hmem : ∀ id, id ∈ results.map (·.1) ↔ id ∈ queries.map (·.refId) := by
    intro id
    rw [mem_names_answerPlans hrun id, hids]
    simp
  have hsub : (results.map (·.1)).Subperm (queries.map (·.refId)) :=
    hnodup.subperm fun id hid => (hmem id).mp hid
  constructor
  · intro hlen
    have hperm := hsub.perm_of_length_le (by simp [hlen])
    exact hperm.nodup_iff.mp hnodup
  · intro hqueries
    have hperm := (List.perm_ext_iff_of_nodup hnodup hqueries).mpr hmem
    simpa using hperm.length_eq

end Service

namespace Batch

variable {files : FileSet} {path : String} {settings : Settings} {b : Batch}

/-- The queries of a batch that is loaded have different ids exactly if no two are given the same
id, and none is given the name of another one that is given none. Otherwise the batch returns fewer
results than it has queries. -/
theorem load_refIds_nodup_iff (h : load files path settings = .ok b) :
    let given := (entries files path).map givenId?
    ((b.queries.map (·.refId)).Nodup ↔ (given.filterMap id).Nodup ∧
      ∀ n, given[n]? = some none → RefId.ofIndex n ∉ given.filterMap id) ∧
    ∀ s i e results e', (Service.answerRegular s i b.queries).runFrom e = (.ok results, e') →
      (results.length = b.queries.length ↔ (b.queries.map (·.refId)).Nodup) := by
  intro given
  refine ⟨?_, fun s i e results e' hrun => Service.length_results_iff hrun⟩
  rw [refIds_load h]
  exact nodup_names_iff given

/-- The ids of a batch that is loaded. -/
def loadedIds : Except LoadProblem Batch → Option (List String)
  | .ok b => some (b.queries.map (·.refId))
  | .error _ => none

/-- A file with queries with these ids; the queries with an empty one are given none. -/
def idFile (ids : List String) : FileSet :=
  let query (id : String) : String :=
    if id = "" then "\x7b\x7d" else "\x7b\"refId\":\"" ++ id ++ "\"\x7d"
  let text := "\x7b\"range\":\x7b\"from\":\"2024-01-01T00:00:00Z\"," ++
    "\"to\":\"2024-01-01T01:00:00Z\"\x7d,\"queries\":[" ++
    String.intercalate "," (ids.map query) ++ "]\x7d"
  { files := [("batch.json", text)] }

theorem exists_of_loadedIds {r : Except LoadProblem Batch} {ids : List String}
    (h : loadedIds r = some ids) : ∃ b, r = .ok b ∧ b.queries.map (·.refId) = ids := by
  cases r with
  | error p => cases h
  | ok b => exact ⟨b, rfl, Option.some.inj h⟩

/-- The name of the second query is not given to the first one. -/
theorem load_refIds_nodup_iff_cpu : ∃ b, load (idFile ["cpu", ""]) "batch.json" = .ok b ∧
    b.queries.map (·.refId) = ["cpu", "B"] ∧ (b.queries.map (·.refId)).Nodup := by
  have hids : loadedIds (load (idFile ["cpu", ""]) "batch.json") = some ["cpu", "B"] := by
    decide +kernel
  have hgiven : (entries (idFile ["cpu", ""]) "batch.json").map givenId? = [some "cpu", none] := by
    decide +kernel
  obtain ⟨b, hload, hb⟩ := exists_of_loadedIds hids
  obtain ⟨hiff, -⟩ := load_refIds_nodup_iff hload
  refine ⟨b, hload, hb, hiff.mpr ?_⟩
  rw [hgiven]
  refine ⟨by decide, fun n hn => ?_⟩
  have hsecond : n = 1 := by
    match n with
    | 0 => cases hn
    | 1 => rfl
    | n + 2 => cases hn
  rw [hsecond]
  decide +kernel

/-- The first query is given the name of the second one, so both have the same id. -/
theorem load_refIds_clash : ∃ b, load (idFile ["B", ""]) "batch.json" = .ok b ∧
    (((entries (idFile ["B", ""]) "batch.json").map givenId?).filterMap id).Nodup ∧
    b.queries.map (·.refId) = ["B", "B"] ∧ ¬ (b.queries.map (·.refId)).Nodup := by
  have hids : loadedIds (load (idFile ["B", ""]) "batch.json") = some ["B", "B"] := by
    decide +kernel
  have hgiven : ((entries (idFile ["B", ""]) "batch.json").map givenId?).filterMap id = ["B"] := by
    decide +kernel
  obtain ⟨b, hload, hb⟩ := exists_of_loadedIds hids
  refine ⟨b, hload, ?_, hb, ?_⟩
  · rw [hgiven]
    exact List.nodup_singleton "B"
  · rw [hb]
    decide

end Batch
end MetricFrames
