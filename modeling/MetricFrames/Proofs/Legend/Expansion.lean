import MetricFrames.Legend.Basic
import MetricFrames.Proofs.Text.Trimming
import Mathlib.Data.List.TakeWhile

/-!
# Templates are expanded once

Placeholders close as soon as they can, so a name without closing braces and line breaks is read as
it is written, whatever blanks are around it and whatever follows its braces (`name?_padded`). The
pieces of a template are then those of its parts (`segments_append`, `segments_slot`), and a
rendered template is what stands before the first placeholder, its value, and the rest rendered by
itself (`render_onePass`): a value is never looked at again.
-/

namespace MetricFrames

open Text

namespace Template

variable {a w w' name b : List Char}

/-- A placeholder as it is written: a name with blanks on both sides of it. -/
def slot (w name w' : List Char) : List Char :=
  '\x7b' :: '\x7b' :: (w ++ (name ++ (w' ++ ['\x7d', '\x7d'])))

/-- A name that a placeholder can hold: it has no closing brace and no line break, and starts and
ends with characters that are not blank. -/
structure IsName (name : List Char) : Prop where
  ne_nil : name ≠ []
  no_closing : '\x7d' ∉ name
  no_break : '\n' ∉ name
  first : ∀ c, name.head? = some c → isBlank c = false
  last : ∀ c, name.getLast? = some c → isBlank c = false

/-! ### Names -/

theorem afterClose?_close (hw : ∀ c ∈ w, isBlank c = true) (b : List Char) :
    afterClose? (w ++ '\x7d' :: '\x7d' :: b) = some b := by
  rw [afterClose?, List.dropWhile_append_of_pos hw, List.dropWhile_cons_of_neg (by decide)]
  exact after?_append ['\x7d', '\x7d'] b

/-- Nothing closes where a brace is still to come after something that is not blank. -/
theorem afterClose?_inside (hname : name ≠ [])
    (hlast : ∀ c, name.getLast? = some c → isBlank c = false) (hclose : '\x7d' ∉ name)
    (s : List Char) : afterClose? (name ++ s) = none := by
  have hsome : name.dropWhile isBlank ≠ [] := by
    rw [ne_eq, List.dropWhile_eq_nil_iff]
    intro hblank
    have hend := hlast _ (List.getLast?_eq_some_getLast hname)
    rw [hblank _ (List.getLast_mem hname)] at hend
    cases hend
  obtain ⟨c, rest, hdrop⟩ := List.exists_cons_of_ne_nil hsome
  have hmem : c ∈ name := by
    refine (List.dropWhile_suffix isBlank).subset ?_
    rw [hdrop]
    exact List.mem_cons_self
  have hne : ¬ '\x7d' = c := fun heq => hclose (heq ▸ hmem)
  rw [afterClose?, List.dropWhile_append, hdrop, if_neg (by simp), List.cons_append, after?,
    if_neg hne]

theorem nameHere?_name (hname : name ≠ [])
    (hlast : ∀ c, name.getLast? = some c → isBlank c = false) (hclose : '\x7d' ∉ name)
    (hbreak : '\n' ∉ name) (hw : ∀ c ∈ w, isBlank c = true) (b : List Char) :
    nameHere? (name ++ (w ++ '\x7d' :: '\x7d' :: b)) = some (name, b) := by
  induction name with
  | nil => exact absurd rfl hname
  | cons c name ih =>
    obtain ⟨hc, hbreak⟩ := not_or.mp (List.mem_cons.not.mp hbreak)
    have hclose := (not_or.mp (List.mem_cons.not.mp hclose)).2
    rw [List.cons_append, nameHere?, if_neg (Ne.symm hc)]
    cases name with
    | nil => rw [List.nil_append, afterClose?_close hw]
    | cons d name =>
      have hlast : ∀ c, (d :: name).getLast? = some c → isBlank c = false := by
        intro e he
        exact hlast e (by rwa [List.getLast?_cons_cons])
      have hsome := List.cons_ne_nil d name
      rw [afterClose?_inside hsome hlast hclose, ih hsome hlast hclose hbreak]
      rfl

theorem name?_padded (hname : IsName name) (hw : ∀ c ∈ w, isBlank c = true)
    (hw' : ∀ c ∈ w', isBlank c = true) (b : List Char) :
    name? (w ++ (name ++ (w' ++ '\x7d' :: '\x7d' :: b))) = some (name, b) := by
  induction w with
  | nil =>
    have hhere := nameHere?_name hname.ne_nil hname.last hname.no_closing hname.no_break hw' b
    obtain ⟨c, rest, rfl⟩ := List.exists_cons_of_ne_nil hname.ne_nil
    have hc : ¬ isBlank c = true := by
      rw [hname.first c rfl]
      decide
    rw [List.nil_append, List.cons_append, name?, if_neg hc]
    exact hhere
  | cons c w ih =>
    obtain ⟨hc, hw⟩ := List.forall_mem_cons.mp hw
    rw [List.cons_append, name?, if_pos hc, ih hw]

theorem trim_name (hname : IsName name) : trim name = name :=
  trimBy_eq_self hname.first hname.last

/-! ### Pieces -/

theorem segments_append (ha : '\x7b' ∉ a) (s : List Char) :
    segments (a ++ s) = a.map .literal ++ segments s := by
  induction a with
  | nil => rfl
  | cons c a ih =>
    obtain ⟨hc, ha⟩ := not_or.mp (List.mem_cons.not.mp ha)
    rw [List.cons_append, segments, ih ha]
    · rfl
    · rintro _ rfl
      exact absurd rfl hc

theorem segments_of_name? {s rest : List Char} (h : name? s = some (name, rest)) :
    segments ('\x7b' :: '\x7b' :: s) =
      .slot (trim name) ('\x7b' :: '\x7b' :: s.take (s.length - rest.length)) :: segments rest := by
  rw [segments]
  split
  · next hread =>
    rw [h] at hread
    cases hread
    rfl
  · next hread =>
    rw [h] at hread
    cases hread

theorem segments_slot (hname : IsName name) (hw : ∀ c ∈ w, isBlank c = true)
    (hw' : ∀ c ∈ w', isBlank c = true) (b : List Char) :
    segments (slot w name w' ++ b) = .slot name (slot w name w') :: segments b := by
  have hclosed : w ++ (name ++ (w' ++ '\x7d' :: '\x7d' :: b)) =
      (w ++ (name ++ (w' ++ ['\x7d', '\x7d']))) ++ b := by
    simp
  have hread := name?_padded hname hw hw' b
  rw [hclosed] at hread
  rw [slot, List.cons_append, List.cons_append, segments_of_name? hread, trim_name hname,
    List.length_append, Nat.add_sub_cancel, List.take_left]

/-! ### Expansion -/

variable (resolve : List Char → Option (List Char))

theorem flatMap_literal (a : List Char) :
    (a.map Segment.literal).flatMap (Segment.expand resolve) = a := by
  rw [List.flatMap_map]
  exact List.flatMap_singleton' a

theorem expand_plain (ha : '\x7b' ∉ a) : expand resolve a = a := by
  have hsegments := segments_append ha []
  rw [List.append_nil, segments, List.append_nil] at hsegments
  rw [expand, hsegments, flatMap_literal]

theorem expand_slot (ha : '\x7b' ∉ a) (hname : IsName name) (hw : ∀ c ∈ w, isBlank c = true)
    (hw' : ∀ c ∈ w', isBlank c = true) (b : List Char) :
    expand resolve (a ++ slot w name w' ++ b) =
      a ++ (resolve name).getD (slot w name w') ++ expand resolve b := by
  rw [expand, List.append_assoc, segments_append ha, segments_slot hname hw hw',
    List.flatMap_append, flatMap_literal, List.flatMap_cons, List.append_assoc]
  rfl

/-- A rendering that goes over a template once, from left to right: text without placeholders
stays, a placeholder is replaced by what its name resolves to or stays as it is written, and what
follows is rendered as it would be by itself. -/
structure OnePass (render : List Char → List Char) : Prop where
  plain : ∀ a, '\x7b' ∉ a → render a = a
  slot : ∀ a w name w' b, '\x7b' ∉ a → IsName name → (∀ c ∈ w, isBlank c = true) →
    (∀ c ∈ w', isBlank c = true) → render (a ++ slot w name w' ++ b) =
      a ++ (resolve name).getD (slot w name w') ++ render b

theorem onePass_expand : OnePass resolve (expand resolve) where
  plain _ ha := expand_plain resolve ha
  slot _ _ _ _ b ha hname hw hw' := expand_slot resolve ha hname hw hw' b

end Template

open Template

/-- The name of a series under a template of its query; an empty one has nothing to replace. -/
def Legend.render (l : Legend) (metricType defaultName : String)
    (labels additional : Members String) (template : List Char) : List Char :=
  if template = [] then []
  else
    (name { l with template := String.ofList template } metricType defaultName labels
      additional).toList

theorem Legend.render_eq (l : Legend) (metricType defaultName : String)
    (labels additional : Members String) (template : List Char) :
    l.render metricType defaultName labels additional template =
      expand (l.resolve? metricType labels additional) template := by
  rw [render]
  split
  · next h => rw [h, expand, segments, List.flatMap_nil]
  · next h =>
    have hsome : String.ofList template ≠ "" := by
      rwa [ne_eq, ← String.toList_inj, String.toList_ofList]
    rw [name, if_neg hsome, String.toList_ofList, String.toList_ofList]
    rfl

/-- Names of series and texts of remarks are rendered in one pass over their templates, and what a
name resolves to does not depend on the template. -/
theorem render_onePass :
    (∀ (l : Legend) (metricType defaultName : String) (labels additional : Members String),
      OnePass (l.resolve? metricType labels additional)
        (l.render metricType defaultName labels additional)) ∧
    ∀ (value metricType : String) (metricLabels resourceLabels : Members String),
      OnePass (Remark.resolve? value metricType metricLabels resourceLabels) fun template =>
        (Remark.text (String.ofList template) value metricType metricLabels
          resourceLabels).toList := by
  constructor
  · intro l metricType defaultName labels additional
    rw [funext (l.render_eq metricType defaultName labels additional)]
    exact onePass_expand _
  · intro value metricType metricLabels resourceLabels
    simp only [Remark.text, String.toList_ofList]
    exact onePass_expand _

/-- A label whose value is a placeholder, before a brace that closes nothing, and a placeholder that
nothing is known for. -/
theorem render_onePass_nested :
    Legend.render {} "m" "" [("zone", "\x7b\x7bhost\x7d\x7d"), ("host", "b")] []
        ("on ".toList ++ slot ['\n', ' '] "zone".toList ['\t'] ++
          "\x7d \x7b\x7bhost \x7d\x7d.".toList) =
      "on \x7b\x7bhost\x7d\x7d\x7d b.".toList ∧
    (Remark.text (String.ofList ([] ++ slot [' '] "none".toList [] ++
        " at \x7b\x7bmetric.value\x7d\x7d".toList)) "5" "m" [] []).toList =
      "\x7b\x7b none\x7d\x7d at 5".toList := by
  have hzone : IsName "zone".toList := ⟨by decide, by decide, by decide,
    by rintro c ⟨⟩; decide, by rintro c ⟨⟩; decide⟩
  have hnone : IsName "none".toList := ⟨by decide, by decide, by decide,
    by rintro c ⟨⟩; decide, by rintro c ⟨⟩; decide⟩
  have hblank : ∀ w : List Char, w.all isBlank = true → ∀ c ∈ w, isBlank c = true :=
    fun _ => List.all_eq_true.mp
  obtain ⟨hlegend, hremark⟩ := render_onePass
  constructor
  · rw [(hlegend {} "m" "" [("zone", "\x7b\x7bhost\x7d\x7d"), ("host", "b")] []).slot _ _ _ _ _
      (by decide) hzone (hblank _ (by decide)) (hblank _ (by decide))]
    decide +kernel
  · refine ((hremark "5" "m" [] []).slot _ _ _ _ _ (by decide) hnone (hblank _ (by decide))
      (hblank _ (by decide))).trans ?_
    decide +kernel

end MetricFrames
