import MetricFrames.Proofs.Web.Form
import MetricFrames.Request.Params
import Mathlib.Data.List.Nodup

/-!
# What encoded parameters tell

Parameters are sorted by name before they are encoded. Values of one name keep their order
(`getAll_sorted`), and a sorted list is settled by the values of each name (`eq_of_sortedByName`).
Encoding itself loses nothing, so two lists of parameters have the same encoding iff every name has
the same values in both, in the same order (`encode_eq_encode_iff`).
-/

namespace MetricFrames.RequestParams

variable {items items' : List (String × String)}

/-- The names of a list never go down. -/
def SortedByName (items : List (String × String)) : Prop :=
  items.Pairwise fun p q => p.1 ≤ q.1

/-- The pairs with a name. -/
def named (name : String) (items : List (String × String)) : List (String × String) :=
  items.filter fun p => p.1 == name

theorem mem_named {name : String} {p : String × String} :
    p ∈ named name items ↔ p ∈ items ∧ p.1 = name := by
  simp [named]

theorem getAll_eq (ps : RequestParams) (name : String) :
    ps.getAll name = (named name ps.items).map (·.2) := rfl

/-- The pairs with a name are its values, each under that name. -/
theorem named_eq_map (name : String) (items : List (String × String)) :
    named name items = ((named name items).map (·.2)).map (Prod.mk name) := by
  rw [List.map_map]
  refine ((List.map_congr_left fun p hp => ?_).trans (List.map_id _)).symm
  have hname : p.1 = name := (mem_named.mp hp).2
  rw [Function.comp_apply, ← hname]
  rfl

/-! ### Sorting by name -/

/-- The order in which parameters are encoded. -/
def nameLE (p q : String × String) : Bool := p.1 ≤ q.1

theorem nameLE_trans (p q r : String × String) (hpq : nameLE p q = true)
    (hqr : nameLE q r = true) : nameLE p r = true := by
  simp only [nameLE, decide_eq_true_eq] at *
  exact String.le_trans hpq hqr

theorem nameLE_total (p q : String × String) : (nameLE p q || nameLE q p) = true := by
  simp only [nameLE, Bool.or_eq_true, decide_eq_true_eq]
  exact String.le_total p.1 q.1

theorem sortedByName_sorted (ps : RequestParams) : SortedByName ps.sorted := by
  have hsorted := List.pairwise_mergeSort nameLE_trans nameLE_total ps.items
  exact hsorted.imp of_decide_eq_true

/-- Sorting keeps the order of the pairs with one name. -/
theorem named_sorted (ps : RequestParams) (name : String) :
    named name ps.sorted = named name ps.items := by
  have hties : (named name ps.items).Pairwise fun p q => nameLE p q = true := by
    refine List.pairwise_of_forall_mem_list fun p hp q hq => ?_
    have hsame : p.1 = q.1 := by rw [(mem_named.mp hp).2, (mem_named.mp hq).2]
    simp only [nameLE, decide_eq_true_eq, hsame]
    exact String.le_refl q.1
  have hsub : (named name ps.items).Sublist ps.sorted :=
    List.sublist_mergeSort nameLE_trans nameLE_total hties List.filter_sublist
  have hkept : named name (named name ps.items) = named name ps.items :=
    List.filter_eq_self.mpr fun p hp => (List.mem_filter.mp hp).2
  have hsub' : (named name ps.items).Sublist (named name ps.sorted) := by
    rw [← hkept]
    exact hsub.filter _
  have hlength : (named name ps.items).length = (named name ps.sorted).length :=
    ((List.mergeSort_perm ps.items nameLE).filter _).length_eq.symm
  exact (hsub'.eq_of_length hlength).symm

theorem named_eq_cons {name : String} {p : String × String} (h : p.1 = name)
    (items : List (String × String)) : named name (p :: items) = p :: named name items := by
  simp [named, h]

theorem named_eq_of_ne {name : String} {p : String × String} (h : p.1 ≠ name)
    (items : List (String × String)) : named name (p :: items) = named name items := by
  simp [named, h]

/-- Lists that start with the same name and agree in the pairs with each name start with the same
pair, and the rest of them agree. -/
theorem of_named_cons {p q : String × String} (hname : p.1 = q.1)
    (h : ∀ name, named name (p :: items) = named name (q :: items')) :
    p = q ∧ ∀ name, named name items = named name items' := by
  have hheads := h p.1
  rw [named_eq_cons rfl, named_eq_cons hname.symm] at hheads
  obtain ⟨rfl, -⟩ := List.cons.inj hheads
  refine ⟨rfl, fun name => ?_⟩
  have hcons := h name
  by_cases hp : p.1 = name
  · rw [named_eq_cons hp, named_eq_cons hp] at hcons
    exact (List.cons.inj hcons).2
  · rwa [named_eq_of_ne hp, named_eq_of_ne hp] at hcons

theorem mem_of_named (h : ∀ name, named name items = named name items') {p : String × String}
    (hp : p ∈ items) : p ∈ items' := by
  have hnamed : p ∈ named p.1 items := mem_named.mpr ⟨hp, rfl⟩
  rw [h] at hnamed
  exact (mem_named.mp hnamed).1

theorem eq_nil_of_named (h : ∀ name, named name items = named name []) : items = [] :=
  List.eq_nil_iff_forall_not_mem.mpr fun _ hp => List.not_mem_nil (mem_of_named h hp)

/-- A list is settled by its names in order and the pairs with each name. -/
theorem eq_of_named (hnames : items.map (·.1) = items'.map (·.1))
    (h : ∀ name, named name items = named name items') : items = items' := by
  induction items generalizing items' with
  | nil => exact (List.map_eq_nil_iff.mp hnames.symm).symm
  | cons p items ih =>
    cases items' with
    | nil => cases hnames
    | cons q items' =>
      obtain ⟨hname, hothers⟩ := List.cons.inj hnames
      obtain ⟨rfl, htails⟩ := of_named_cons hname h
      rw [ih hothers htails]

/-- A sorted list is settled by the pairs with each name. -/
theorem eq_of_sortedByName (hsorted : SortedByName items) (hsorted' : SortedByName items')
    (h : ∀ name, named name items = named name items') : items = items' := by
  induction items generalizing items' with
  | nil =>
    cases items' with
    | nil => rfl
    | cons q items' =>
      have hq := h q.1
      rw [named_eq_cons rfl] at hq
      cases hq
  | cons p items ih =>
    cases items' with
    | nil =>
      have hp := h p.1
      rw [named_eq_cons rfl] at hp
      cases hp
    | cons q items' =>
      obtain ⟨hfirst, hrest⟩ := List.pairwise_cons.mp hsorted
      obtain ⟨hfirst', hrest'⟩ := List.pairwise_cons.mp hsorted'
      have hname : p.1 = q.1 := by
        by_contra hne
        -- Each of the two comes later in the other list, so neither name is above the other one.
        have hp := h p.1
        rw [named_eq_cons rfl, named_eq_of_ne (Ne.symm hne)] at hp
        have hq := h q.1
        rw [named_eq_cons rfl, named_eq_of_ne hne] at hq
        have hmem : p ∈ items' := (mem_named.mp (hp ▸ List.mem_cons_self)).1
        have hmem' : q ∈ items := (mem_named.mp (hq ▸ List.mem_cons_self)).1
        exact hne (String.le_antisymm (hfirst q hmem') (hfirst' p hmem))
      obtain ⟨rfl, htails⟩ := of_named_cons hname h
      rw [ih hrest hrest' htails]

/-- If no name occurs twice, the same pairs have only one order by name. -/
theorem sorted_eq_of_perm {ps : RequestParams} (hperm : List.Perm ps.items items)
    (hsorted : SortedByName items) (hnodup : (items.map (·.1)).Nodup) : ps.sorted = items := by
  have hall : List.Perm ps.sorted items := (List.mergeSort_perm ps.items nameLE).trans hperm
  refine hall.eq_of_pairwise (fun p q hp hq hpq hqp => ?_) (sortedByName_sorted ps) hsorted
  exact List.inj_on_of_nodup_map hnodup (hall.subset hp) hq (String.le_antisymm hpq hqp)

theorem getAll_eq_iff (ps qs : RequestParams) (name : String) :
    ps.getAll name = qs.getAll name ↔ named name ps.items = named name qs.items := by
  constructor
  · intro h
    rw [named_eq_map name ps.items, named_eq_map name qs.items]
    exact congrArg (List.map (Prod.mk name)) h
  · intro h
    rw [getAll_eq, getAll_eq, h]

/-! ### Encoding -/

/-- Parameters have one encoding iff every name has the same values in both, in the same order: how
the values of different names were interleaved does not count, and all else does. -/
theorem encode_eq_encode_iff (ps qs : RequestParams) :
    ps.encode = qs.encode ↔ ∀ name, ps.getAll name = qs.getAll name := by
  constructor
  · intro h name
    have hsorted : ps.sorted = qs.sorted := Web.formEncode_inj (String.ofList_injective h)
    rw [getAll_eq_iff, ← named_sorted ps, ← named_sorted qs, hsorted]
  · intro h
    have hsorted : ps.sorted = qs.sorted := by
      refine eq_of_sortedByName (sortedByName_sorted ps) (sortedByName_sorted qs) fun name => ?_
      rw [named_sorted, named_sorted]
      exact (getAll_eq_iff ps qs name).mp (h name)
    rw [encode, encode, hsorted]

end MetricFrames.RequestParams
