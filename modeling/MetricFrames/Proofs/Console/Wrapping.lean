import Mathlib.Data.List.Chain
import Mathlib.Data.List.TakeDrop
import MetricFrames.Console.Wrapping
import MetricFrames.Proofs.Text.CellWidth
import MetricFrames.Proofs.Text.Fields

/-!
# Fields of wrapped lines

Wrapping breaks a text between its words and drops only white space. So the lines of a text have the
fields of the text (`flatMap_fields_wrapText`), as long as no word is folded. A line that is no
wider than its place keeps its fields there (`Fits`).
-/

namespace MetricFrames.Console

open Text

variable {width : Nat} {s line : List Char}

/-! ### Words -/

/-- Words of which all but the last one end with white space. -/
def IsCut (ws : List (List Char)) : Prop := ws.IsChain fun word _ => EndsBlank word

theorem IsCut.fields_flatten {ws : List (List Char)} (h : IsCut ws) :
    fields ws.flatten = ws.flatMap fields := by
  induction ws with
  | nil => exact fields_nil
  | cons word ws ih =>
    cases ws with
    | nil => simp
    | cons next ws =>
      obtain ⟨hword, hws⟩ := List.isChain_cons_cons.mp h
      rw [List.flatten_cons, hword.fields_append]
      exact congrArg (fields word ++ ·) (ih hws)

theorem flatten_go (s : List Char) : (words.go s).flatten = s := by
  induction s using words.go.induct with
  | case1 => rfl
  | case2 c => rfl
  | case3 c d s hgo ih =>
    rw [hgo] at ih
    cases ih
  | case4 c d s word others hgo hseam ih =>
    rw [words.go, hgo]
    dsimp only
    rw [if_pos hseam, List.flatten_cons, ← hgo, ih]
    rfl
  | case5 c d s word others hgo hseam ih =>
    rw [words.go, hgo]
    dsimp only
    rw [if_neg hseam, List.flatten_cons, List.cons_append, ← List.flatten_cons, ← hgo, ih]

theorem isCut_go (s : List Char) : IsCut (words.go s) := by
  induction s using words.go.induct with
  | case1 => exact .nil
  | case2 c => exact .singleton _
  | case3 c d s hgo ih =>
    rw [words.go, hgo]
    exact .singleton _
  | case4 c d s word others hgo hseam ih =>
    rw [hgo] at ih
    rw [words.go, hgo]
    dsimp only
    rw [if_pos hseam]
    exact .cons_cons ⟨[], c, rfl, (Bool.and_eq_true_iff.mp hseam).1⟩ ih
  | case5 c d s word others hgo hseam ih =>
    rw [hgo] at ih
    rw [words.go, hgo]
    dsimp only
    rw [if_neg hseam]
    cases others with
    | nil => exact .singleton _
    | cons next others =>
      obtain ⟨hword, hothers⟩ := List.isChain_cons_cons.mp ih
      exact .cons_cons (hword.append [c]) hothers

theorem isCut_words (s : List Char) : IsCut (words s) := by
  have hgo := isCut_go (s.dropWhile isBlank)
  rw [words]
  cases hwords : words.go (s.dropWhile isBlank) with
  | nil => exact .nil
  | cons word others =>
    rw [hwords] at hgo
    cases others with
    | nil => exact .singleton _
    | cons next others =>
      obtain ⟨hword, hothers⟩ := List.isChain_cons_cons.mp hgo
      exact .cons_cons (hword.append _) hothers

theorem flatMap_fields_words (s : List Char) : (words s).flatMap fields = fields s := by
  have hflatten := flatten_go (s.dropWhile isBlank)
  rw [← (isCut_words s).fields_flatten, words]
  cases hwords : words.go (s.dropWhile isBlank) with
  | nil =>
    rw [hwords] at hflatten
    have hblank : ∀ c ∈ s, isBlank c = true := List.dropWhile_eq_nil_iff.mp hflatten.symm
    rw [fields_eq_nil hblank]
    exact fields_nil
  | cons word others =>
    rw [hwords] at hflatten
    dsimp only
    rw [List.flatten_cons, List.append_assoc, ← List.flatten_cons, hflatten,
      List.takeWhile_append_dropWhile]

/-! ### Filling lines -/

namespace Filling

/-- The lines so far. -/
def lines (f : Filling) : List (List Char) := (f.text :: f.done).reverse

theorem text_add (f : Filling) (word : List Char) : (f.add word).text = f.text ++ word := by
  simp [text, add]

/-- Where the next word may begin. -/
def IsOpen (f : Filling) : Prop := f.text = [] ∨ EndsBlank f.text

theorem fields_add {f : Filling} (hf : f.IsOpen) (word : List Char) :
    (f.add word).lines.flatMap fields = f.lines.flatMap fields ++ fields word := by
  have hseam : fields (f.text ++ word) = fields f.text ++ fields word := by
    rcases hf with hf | hf
    · rw [hf, fields_nil]
      rfl
    · exact hf.fields_append word
  have hdone : (f.add word).done = f.done := rfl
  simp only [lines, text_add, hdone, List.reverse_cons, List.flatMap_append, List.flatMap_singleton,
    hseam, List.append_assoc]

theorem fields_break (f : Filling) (used : Nat) :
    ({ f.break with used := used } : Filling).lines.flatMap fields = f.lines.flatMap fields := by
  rw [Filling.break]
  split
  · rfl
  · simp [lines, text]

theorem isOpen_break (f : Filling) (used : Nat) :
    ({ f.break with used := used } : Filling).IsOpen := by
  left
  rw [Filling.break]
  split
  · next h =>
    have hline : f.line = [] := List.isEmpty_iff.mp (Bool.and_eq_true_iff.mp h).2
    rw [text, hline]
    rfl
  · rfl

/-- A word that is not folded is added to the present line or to a new one. -/
theorem place_cases (width : Nat) (f : Filling) (word : List Char) :
    f.place false width word = f.add word ∨
      f.place false width word = { f.break with used := 0 }.add word := by
  rw [place]
  dsimp only
  split
  · exact .inl rfl
  · rw [Bool.not_false, Bool.or_true, if_pos rfl]
    exact .inr rfl

theorem fields_place {f : Filling} (hf : f.IsOpen) (width : Nat) (word : List Char) :
    (f.place false width word).lines.flatMap fields = f.lines.flatMap fields ++ fields word := by
  rcases place_cases width f word with h | h
  · rw [h, fields_add hf]
  · rw [h, fields_add (isOpen_break f 0), fields_break]

theorem isOpen_place (f : Filling) (width : Nat) {word : List Char} (h : EndsBlank word) :
    (f.place false width word).IsOpen := by
  right
  rcases place_cases width f word with hplace | hplace
  all_goals
    rw [hplace, text_add]
    exact h.append _

theorem fields_foldl_place (width : Nat) {ws : List (List Char)} (hws : IsCut ws) {f : Filling}
    (hf : f.IsOpen) :
    (ws.foldl (place false width) f).lines.flatMap fields =
      f.lines.flatMap fields ++ ws.flatMap fields := by
  induction ws generalizing f with
  | nil => simp
  | cons word ws ih =>
    -- All words but the last one end with white space, so the next one may begin behind them.
    rw [List.foldl_cons, List.flatMap_cons, ← List.append_assoc, ← fields_place hf width word]
    cases ws with
    | nil => simp
    | cons next ws =>
      obtain ⟨hword, hothers⟩ := List.isChain_cons_cons.mp hws
      exact ih hothers (isOpen_place f width hword)

end Filling

theorem flatMap_fields_wrap (width : Nat) (line : List Char) :
    (wrap false width line).flatMap fields = fields line := by
  rw [wrap]
  split
  · simp
  · have hwords := Filling.fields_foldl_place width (isCut_words line) (f := {}) (.inl rfl)
    have hstart : ({} : Filling).lines.flatMap fields = [] := by
      simp [Filling.lines, Filling.text]
    rw [hstart, List.nil_append, flatMap_fields_words] at hwords
    exact hwords

/-! ### White space in lines -/

theorem expandParts_cons_cons (part next : List Char) (parts : List (List Char)) :
    ∃ count, expandParts (part :: next :: parts) =
      part ++ ' ' :: (List.replicate count ' ' ++ expandParts (next :: parts)) := by
  let rest := cellWidth (part ++ [' ']) % tabStop
  refine ⟨if rest = 0 then 0 else tabStop - rest, ?_⟩
  rw [expandParts]
  · rw [List.append_assoc, List.append_assoc]
    rfl
  · simp

theorem fields_expandParts (parts : List (List Char)) :
    fields (expandParts parts) = parts.flatMap fields := by
  induction parts with
  | nil => exact fields_nil
  | cons part parts ih =>
    cases parts with
    | nil => simp [expandParts]
    | cons next parts =>
      obtain ⟨count, hexpand⟩ := expandParts_cons_cons part next parts
      rw [hexpand, fields_append_cons (by decide),
        fields_append_of_blank_left isBlank_of_mem_replicate, ih]
      rfl

theorem fields_expandTabs (line : List Char) : fields (expandTabs line) = fields line := by
  rw [expandTabs, fields_expandParts, flatMap_fields_splitAt (by decide)]

/-- A line is what is left without its end, and white space. -/
theorem exists_withoutEnd_append (line : List Char) :
    ∃ t, line = withoutEnd line ++ t ∧ ∀ c ∈ t, isBlank c = true :=
  ⟨line.rtakeWhile isBlank, List.rdropWhile_append_rtakeWhile.symm,
    fun _ hc => List.mem_rtakeWhile_imp hc⟩

theorem fields_withoutEnd (line : List Char) : fields (withoutEnd line) = fields line := by
  obtain ⟨t, hline, hblank⟩ := exists_withoutEnd_append line
  calc fields (withoutEnd line)
      = fields (withoutEnd line ++ t) := (fields_append_of_blank _ hblank).symm
    _ = fields line := by rw [← hline]

theorem fields_dropExcess (width : Nat) (line : List Char) :
    fields (dropExcess width line) = fields line := by
  obtain ⟨t, hline, hblank⟩ := exists_withoutEnd_append line
  have hlength : line.length = (withoutEnd line).length + t.length := by
    rw [← List.length_append, ← hline]
  have hkept : ∃ n, dropExcess width line = withoutEnd line ++ t.take n := by
    rw [dropExcess]
    generalize hn : line.length - min _ _ = n
    have hle : (withoutEnd line).length ≤ n := by omega
    refine ⟨n - (withoutEnd line).length, ?_⟩
    calc line.take n = (withoutEnd line ++ t).take n := congrArg (List.take n) hline
      _ = withoutEnd line ++ t.take (n - (withoutEnd line).length) := by
        rw [List.take_append, List.take_of_length_le hle]
  obtain ⟨n, hkept⟩ := hkept
  have hless : ∀ c ∈ t.take n, isBlank c = true := fun c hc => hblank c (List.mem_of_mem_take hc)
  rw [hkept, fields_append_of_blank _ hless, fields_withoutEnd]

/-- Wrapping without folding keeps the fields of a text. -/
theorem flatMap_fields_wrapText (width : Nat) (s : List Char) :
    (wrapText false width s).flatMap fields = fields s := by
  have hline (line : List Char) :
      ((wrap false width (expandTabs line)).map (dropExcess width)).flatMap fields =
        fields line := by
    rw [List.flatMap_map]
    simp only [fields_dropExcess]
    rw [flatMap_fields_wrap, fields_expandTabs]
  rw [wrapText, List.flatMap_assoc]
  simp only [hline]
  exact flatMap_fields_splitAt (by decide) s

/-! ### Lines in their places -/

/-- A text fits a width: no word of it is folded, and no line is wider. -/
structure Fits (width : Nat) (s : List Char) : Prop where
  unfolded : wrapText true width s = wrapText false width s
  narrow : ∀ line ∈ wrapText false width s, cellWidth line ≤ width

instance (width : Nat) (s : List Char) : Decidable (Fits width s) :=
  decidable_of_iff (wrapText true width s = wrapText false width s ∧
    ∀ line ∈ wrapText false width s, cellWidth line ≤ width)
    ⟨fun h => ⟨h.1, h.2⟩, fun h => ⟨h.unfolded, h.narrow⟩⟩

theorem fields_fit (h : cellWidth line ≤ width) : fields (fit width line) = fields line := by
  rw [fit, if_pos h, fields_append_of_blank _ isBlank_of_mem_replicate]

theorem mem_fit {c : Char} (h : c ∈ fit width line) : c ∈ line ∨ c = ' ' ∨ c = '…' := by
  rw [fit] at h
  split at h
  · rcases List.mem_append.mp h with h | h
    · exact .inl h
    · exact .inr (.inl (List.eq_of_mem_replicate h))
  · rcases List.mem_append.mp h with h | h
    · exact (mem_crop h).imp_right .inl
    · exact .inr (.inr (List.mem_singleton.mp h))

theorem fields_centre (h : cellWidth line ≤ width) : fields (centre width line) = fields line := by
  obtain ⟨t, hline, -⟩ := exists_withoutEnd_append line
  have hend : cellWidth (withoutEnd line) ≤ width := by
    refine Nat.le_trans ?_ h
    conv_rhs => rw [hline]
    exact cellWidth_le_append _ t
  rw [centre, cut, if_pos hend, fields_append_of_blank_left isBlank_of_mem_replicate,
    fields_withoutEnd]

namespace Fits

/-- A text that fits keeps its fields wherever its lines keep theirs. -/
theorem flatMap_fields (h : Fits width s) {place : List Char → List Char}
    (hplace : ∀ line, cellWidth line ≤ width → fields (place line) = fields line) (folds : Bool) :
    ((wrapText folds width s).map place).flatMap fields = fields s := by
  have hfolds : wrapText folds width s = wrapText false width s := by
    cases folds with
    | true => exact h.unfolded
    | false => rfl
  rw [hfolds, List.flatMap_map, ← flatMap_fields_wrapText width s]
  exact List.flatMap_congr fun line hline => hplace line (h.narrow line hline)

theorem flatMap_fields_centre (h : Fits width s) :
    ((wrapText true width s).map (centre width)).flatMap fields = fields s :=
  h.flatMap_fields (fun _ hline => fields_centre hline) true

theorem flatMap_fields_cut (h : Fits width s) :
    ((wrapText true width s).map (cut width)).flatMap fields = fields s :=
  h.flatMap_fields (fun _ hline => by rw [cut, if_pos hline]) true

end Fits

end MetricFrames.Console
