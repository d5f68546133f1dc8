import Mathlib.Data.List.DropRight
import MetricFrames.Text.Blank
import MetricFrames.Text.Search

/-!
# Fields of a text

The fields of a text stand between its white space (`fields`). White space ends a field wherever it
stands (`fields_append_cons`), and everything else about fields follows from that. Lines are tidied
by putting one space between the fields of all of them (`tidied`), so that it does not matter where
a text was broken into lines.
-/

namespace MetricFrames.Text

/-- What stands between the white space of a text. -/
def fields (s : List Char) : List (List Char) := (s.splitOnP isBlank).filter (· ≠ [])

/-- The fields of some lines with one space between them. -/
def tidied (lines : List (List Char)) : String :=
  String.ofList (joinWith [' '] (lines.flatMap fields))

variable {c : Char} {s t : List Char}

@[simp] theorem fields_nil : fields [] = [] := by simp [fields]

theorem fields_append_cons (hc : isBlank c = true) (s t : List Char) :
    fields (s ++ c :: t) = fields s ++ fields t := by
  rw [fields, List.splitOnP_append_cons s t hc, List.filter_append]
  rfl

theorem fields_cons (hc : isBlank c = true) (t : List Char) : fields (c :: t) = fields t := by
  simpa using fields_append_cons hc [] t

theorem fields_append_of_blank_left (h : ∀ c ∈ s, isBlank c = true) (t : List Char) :
    fields (s ++ t) = fields t := by
  induction s with
  | nil => rfl
  | cons c s ih =>
    rw [List.cons_append, fields_cons (h c List.mem_cons_self)]
    exact ih fun d hd => h d (List.mem_cons_of_mem c hd)

theorem fields_eq_nil (h : ∀ c ∈ s, isBlank c = true) : fields s = [] := by
  simpa using fields_append_of_blank_left h []

theorem isBlank_of_mem_replicate {n : Nat} : ∀ c ∈ List.replicate n ' ', isBlank c = true :=
  fun _ hc => (List.eq_of_mem_replicate hc) ▸ rfl

/-- A text without white space is a field. -/
theorem fields_eq_singleton (hs : s ≠ []) (h : ∀ c ∈ s, isBlank c = false) : fields s = [s] := by
  rw [fields, List.splitOnP_eq_singleton h]
  simp [hs]

/-- Whether a text ends with white space. -/
def EndsBlank (s : List Char) : Prop := ∃ t c, s = t ++ [c] ∧ isBlank c = true

theorem EndsBlank.append (h : EndsBlank t) (s : List Char) : EndsBlank (s ++ t) := by
  obtain ⟨u, c, rfl, hc⟩ := h
  exact ⟨s ++ u, c, (List.append_assoc s u [c]).symm, hc⟩

/-- Where one of two texts has white space at the seam, they share no field. -/
theorem EndsBlank.fields_append (h : EndsBlank s) (t : List Char) :
    fields (s ++ t) = fields s ++ fields t := by
  obtain ⟨u, c, rfl, hc⟩ := h
  rw [List.append_assoc, List.singleton_append, fields_append_cons hc, fields_append_cons hc,
    fields_nil, List.append_nil]

theorem fields_append_of_blank (s : List Char) (h : ∀ c ∈ t, isBlank c = true) :
    fields (s ++ t) = fields s := by
  cases t with
  | nil => rw [List.append_nil]
  | cons c t =>
    have ht : fields t = [] := fields_eq_nil fun d hd => h d (List.mem_cons_of_mem c hd)
    rw [fields_append_cons (h c List.mem_cons_self), ht, List.append_nil]

theorem fields_append_space (s : List Char) : fields (s ++ [' ']) = fields s := by
  rw [fields_append_cons (by decide), fields_nil, List.append_nil]

theorem joinWith_cons_cons (sep part next : List Char) (parts : List (List Char)) :
    joinWith sep (part :: next :: parts) = part ++ sep ++ joinWith sep (next :: parts) := rfl

/-- A text that is cut at white space keeps its fields. -/
theorem flatMap_fields_splitAt (hc : isBlank c = true) (s : List Char) :
    (splitAt c s).flatMap fields = fields s := by
  have hjoin : ∀ parts : List (List Char),
      parts.flatMap fields = fields (joinWith [c] parts) := by
    intro parts
    induction parts with
    | nil => exact fields_nil.symm
    | cons part parts ih =>
      cases parts with
      | nil => exact List.append_nil _
      | cons next parts =>
        rw [List.flatMap_cons, ih, joinWith_cons_cons, List.append_assoc, List.singleton_append,
          fields_append_cons hc]
  rw [hjoin, joinWith_splitAt]

theorem tidied_congr {lines lines' : List (List Char)}
    (h : lines.flatMap fields = lines'.flatMap fields) : tidied lines = tidied lines' := by
  rw [tidied, h, tidied]

theorem tidied_eq_of_flatMap {lines : List (List Char)} (h : lines.flatMap fields = fields s) :
    tidied lines = tidied [s] := tidied_congr (h.trans (List.append_nil _).symm)

example : tidied ["  a b ".toList, "".toList, "c".toList] = "a b c" := by decide

/-- The fields of a text hold all of it but its white space. -/
theorem flatten_fields (s : List Char) : (fields s).flatten = s.filter (!isBlank ·) := by
  rw [fields, List.flatten_filter_ne_nil]
  induction s with
  | nil => simp
  | cons c s ih =>
    obtain ⟨piece, pieces, hpieces⟩ :=
      List.exists_cons_of_ne_nil (List.splitOnP_ne_nil isBlank s)
    rw [List.splitOnP_cons_eq_if_modifyHead]
    cases hc : isBlank c with
    | true => simpa [hc] using ih
    | false =>
      rw [hpieces] at ih ⊢
      simpa [hc] using ih

theorem mem_joinWith_iff (h : c ≠ ' ') (parts : List (List Char)) :
    c ∈ joinWith [' '] parts ↔ c ∈ parts.flatten := by
  induction parts with
  | nil => simp [joinWith]
  | cons part parts ih =>
    cases parts with
    | nil => simp [joinWith]
    | cons next parts =>
      rw [joinWith_cons_cons, List.flatten_cons]
      simp only [List.mem_append, ih, List.mem_singleton, h, or_false]

/-- What is no white space stands in tidied lines if it stands in one of the lines. -/
theorem mem_tidied_iff (h : isBlank c = false) (lines : List (List Char)) :
    c ∈ (tidied lines).toList ↔ ∃ line ∈ lines, c ∈ line := by
  have hspace : c ≠ ' ' := by
    rintro rfl
    cases h
  have hline (line : List Char) : (∃ field ∈ fields line, c ∈ field) ↔ c ∈ line := by
    rw [← List.mem_flatten, flatten_fields, List.mem_filter, h]
    exact and_iff_left rfl
  rw [tidied, String.toList_ofList, mem_joinWith_iff hspace, List.mem_flatten]
  constructor
  · rintro ⟨field, hfield, hc⟩
    obtain ⟨line, hmem, hfield⟩ := List.mem_flatMap.mp hfield
    exact ⟨line, hmem, (hline line).mp ⟨field, hfield, hc⟩⟩
  · rintro ⟨line, hmem, hc⟩
    obtain ⟨field, hfield, hc⟩ := (hline line).mpr hc
    exact ⟨field, List.mem_flatMap.mpr ⟨line, hmem, hfield⟩, hc⟩

end MetricFrames.Text
