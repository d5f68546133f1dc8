import MetricFrames.Proofs.Legend.Expansion

/-!
# Placeholders of a template

A placeholder is written as a name between blanks and double braces (`exists_of_mem_segments`). So
expansions that differ in one name only, which one of them leaves as it is written, are the same
exactly if the name is written as its value everywhere (`DifferAt.flatMap_eq_iff`): the opening
braces tell where the placeholders are.
-/

namespace MetricFrames

open Text

namespace Template

/-! ### Placeholders as they are written -/

variable {s rest name written : List Char}

theorem exists_of_afterClose? (h : afterClose? s = some rest) :
    ∃ w, (∀ c ∈ w, isBlank c = true) ∧ s = w ++ '\x7d' :: '\x7d' :: rest := by
  have hclose : s.dropWhile isBlank = ['\x7d', '\x7d'] ++ rest := eq_of_after? h
  refine ⟨s.takeWhile isBlank, fun c => List.mem_takeWhile_imp, ?_⟩
  exact (List.takeWhile_append_dropWhile.symm.trans (congrArg _ hclose) : s = _)

theorem exists_of_nameHere? (h : nameHere? s = some (name, rest)) :
    ∃ w, (∀ c ∈ w, isBlank c = true) ∧ s = name ++ (w ++ '\x7d' :: '\x7d' :: rest) := by
  induction s generalizing name with
  | nil => cases h
  | cons c s ih =>
    rw [nameHere?] at h
    split at h
    · cases h
    · split at h
      · next r hclose =>
        cases h
        obtain ⟨w, hw, rfl⟩ := exists_of_afterClose? hclose
        exact ⟨w, hw, rfl⟩
      · obtain ⟨⟨n, r⟩, hname, h⟩ := Option.map_eq_some_iff.mp h
        cases h
        obtain ⟨w, hw, rfl⟩ := ih hname
        exact ⟨w, hw, rfl⟩

theorem exists_of_name? (h : name? s = some (name, rest)) :
    ∃ w w', (∀ c ∈ w, isBlank c = true) ∧ (∀ c ∈ w', isBlank c = true) ∧
      s = w ++ (name ++ (w' ++ '\x7d' :: '\x7d' :: rest)) := by
  induction s with
  | nil => cases h
  | cons c s ih =>
    rw [name?] at h
    split at h
    · next hc =>
      split at h
      · next found hfound =>
        cases h
        obtain ⟨w, w', hw, hw', rfl⟩ := ih hfound
        exact ⟨c :: w, w', List.forall_mem_cons.mpr ⟨hc, hw⟩, hw', rfl⟩
      · obtain ⟨w', hw', hs⟩ := exists_of_nameHere? h
        exact ⟨[], w', by simp, hw', hs⟩
    · obtain ⟨w', hw', hs⟩ := exists_of_nameHere? h
      exact ⟨[], w', by simp, hw', hs⟩

theorem braces_take (w raw w' rest : List Char) :
    let s := w ++ (raw ++ (w' ++ '\x7d' :: '\x7d' :: rest))
    '\x7b' :: '\x7b' :: s.take (s.length - rest.length) = slot w raw w' := by
  intro s
  have hclosed : s = (w ++ (raw ++ (w' ++ ['\x7d', '\x7d']))) ++ rest := by simp [s]
  rw [hclosed, List.length_append, Nat.add_sub_cancel, List.take_left]
  rfl

/-- A placeholder of a template is written as a name between blanks and braces. -/
theorem exists_of_mem_segments {t : List Char} (h : .slot name written ∈ segments t) :
    ∃ w raw w', (∀ c ∈ w, isBlank c = true) ∧ (∀ c ∈ w', isBlank c = true) ∧
      trim raw = name ∧ written = slot w raw w' := by
  fun_induction segments t with
  | case1 => cases h
  | case2 s raw rest hname hle written' ih =>
    rcases List.mem_cons.mp h with h | h
    · obtain ⟨rfl, hwritten⟩ := Segment.slot.inj h
      obtain ⟨w, w', hw, hw', rfl⟩ := exists_of_name? hname
      exact ⟨w, raw, w', hw, hw', rfl, hwritten.trans (braces_take w raw w' rest)⟩
    · exact ih h
  | case3 s hname ih =>
    rcases List.mem_cons.mp h with h | h
    · cases h
    · exact ih h
  | case4 c s hc ih =>
    rcases List.mem_cons.mp h with h | h
    · cases h
    · exact ih h

theorem isBlank_or_mem_trim {raw : List Char} {c : Char} (hc : c ∈ raw) :
    isBlank c = true ∨ c ∈ trim raw := by
  have hsplit : ∀ s : List Char, c ∈ s → isBlank c = true ∨ c ∈ s.dropWhile isBlank := by
    intro s hs
    rw [← List.takeWhile_append_dropWhile (p := isBlank) (l := s), List.mem_append] at hs
    exact hs.imp_left List.mem_takeWhile_imp
  rcases hsplit raw hc with hblank | hmem
  · exact .inl hblank
  · exact (hsplit _ (List.mem_reverse.mpr hmem)).imp_right List.mem_reverse.mpr

/-- A placeholder opens with two braces, and has no other ones that open if its name has none. -/
theorem exists_braces {t : List Char} (h : .slot name written ∈ segments t)
    (hname : '\x7b' ∉ name) : ∃ u, '\x7b' ∉ u ∧ written = '\x7b' :: '\x7b' :: u := by
  obtain ⟨w, raw, w', hw, hw', rfl, rfl⟩ := exists_of_mem_segments h
  have hblank : ∀ v : List Char, (∀ c ∈ v, isBlank c = true) → '\x7b' ∉ v :=
    fun v hv hc => absurd (hv _ hc) (by decide)
  have hraw : '\x7b' ∉ raw := fun hc => (isBlank_or_mem_trim hc).elim (by decide) hname
  refine ⟨_, ?_, rfl⟩
  simp [hblank w hw, hraw, hblank w' hw']

/-! ### Two expansions -/

/-- Two resolutions that differ in one name of some pieces, for which the second one has nothing;
placeholders of this name open with two braces and have no other ones that open. -/
structure DifferAt (resolve resolve' : List Char → Option (List Char)) (name value : List Char)
    (pieces : List Segment) : Prop where
  known : resolve name = some value
  unknown : resolve' name = none
  same : ∀ n written, .slot n written ∈ pieces → n ≠ name → resolve n = resolve' n
  braces : ∀ written, .slot name written ∈ pieces →
    ∃ u, '\x7b' ∉ u ∧ written = '\x7b' :: '\x7b' :: u

namespace DifferAt

variable {resolve resolve' : List Char → Option (List Char)} {value : List Char}
  {piece : Segment} {pieces : List Segment}

theorem tail (h : DifferAt resolve resolve' name value (piece :: pieces)) :
    DifferAt resolve resolve' name value pieces :=
  ⟨h.known, h.unknown, fun n written hw => h.same n written (List.mem_cons_of_mem _ hw),
    fun written hw => h.braces written (List.mem_cons_of_mem _ hw)⟩

/-- The first piece is a placeholder of the name, or it is expanded alike. -/
theorem head (h : DifferAt resolve resolve' name value (piece :: pieces)) :
    (∃ u, '\x7b' ∉ u ∧ piece = .slot name ('\x7b' :: '\x7b' :: u) ∧
      piece.expand resolve = value ∧ piece.expand resolve' = '\x7b' :: '\x7b' :: u) ∨
    (∀ written, piece ≠ .slot name written) ∧ piece.expand resolve = piece.expand resolve' := by
  cases piece with
  | literal c => exact .inr ⟨by rintro written ⟨⟩, rfl⟩
  | slot n written =>
    by_cases hn : n = name
    · subst hn
      obtain ⟨u, hu, rfl⟩ := h.braces written List.mem_cons_self
      refine .inl ⟨u, hu, rfl, ?_, ?_⟩
      · rw [Segment.expand, h.known, Option.getD_some]
      · rw [Segment.expand, h.unknown, Option.getD_none]
    · refine .inr ⟨fun written' heq => hn (Segment.slot.inj heq).1, ?_⟩
      rw [Segment.expand, Segment.expand, h.same n written List.mem_cons_self hn]

/-- Both expansions have as many opening braces besides those of the placeholders and values. -/
theorem exists_count (h : DifferAt resolve resolve' name value pieces) :
    ∃ k, (k = 0 → ∀ written, .slot name written ∉ pieces) ∧
      (pieces.flatMap (Segment.expand resolve)).count '\x7b' + k * 2 =
        (pieces.flatMap (Segment.expand resolve')).count '\x7b' + k * value.count '\x7b' := by
  induction pieces with
  | nil => exact ⟨0, by simp, by simp⟩
  | cons piece pieces ih =>
    obtain ⟨k, hk, hcount⟩ := ih h.tail
    simp only [List.flatMap_cons, List.count_append]
    rcases h.head with ⟨u, hu, -, hvalue, hwritten⟩ | ⟨hother, hexpand⟩
    · have hnone : u.count '\x7b' = 0 := List.count_eq_zero.mpr hu
      refine ⟨k + 1, by simp, ?_⟩
      rw [hvalue, hwritten, List.count_cons_self, List.count_cons_self, hnone, Nat.add_mul,
        Nat.add_mul]
      omega
    · refine ⟨k, fun hzero written hmem => ?_, by rw [hexpand]; omega⟩
      rcases List.mem_cons.mp hmem with heq | hmem
      · exact hother written heq.symm
      · exact hk hzero written hmem

/-- Where the value opens with a brace as the placeholders do, what stands before the first brace is
the same. -/
theorem takeWhile_eq (h : DifferAt resolve resolve' name value pieces) {v : List Char}
    (hv : value = '\x7b' :: v) :
    (pieces.flatMap (Segment.expand resolve)).takeWhile (· != '\x7b') =
      (pieces.flatMap (Segment.expand resolve')).takeWhile (· != '\x7b') := by
  induction pieces with
  | nil => rfl
  | cons piece pieces ih =>
    rw [List.flatMap_cons, List.flatMap_cons]
    rcases h.head with ⟨u, hu, -, hvalue, hwritten⟩ | ⟨-, hexpand⟩
    · rw [hvalue, hwritten, hv]
      rfl
    · rw [hexpand, List.takeWhile_append, List.takeWhile_append, ih h.tail]

/-- A text with two opening braces that starts with all those of a placeholder, and what follows
both. -/
theorem eq_braces_of_append_eq {u a b : List Char} (hcount : value.count '\x7b' = 2)
    (h : value ++ a = '\x7b' :: '\x7b' :: (u ++ b)) :
    ∃ v, '\x7b' ∉ v ∧ value = '\x7b' :: '\x7b' :: v ∧ v ++ a = u ++ b := by
  match value with
  | [] => simp at hcount
  | [c] =>
    have := List.count_le_length (a := '\x7b') (l := [c])
    rw [hcount] at this
    simp at this
  | c :: d :: v =>
    simp only [List.cons_append, List.cons.injEq] at h
    obtain ⟨rfl, rfl, h⟩ := h
    rw [List.count_cons_self, List.count_cons_self] at hcount
    exact ⟨v, List.count_eq_zero.mp (by omega), rfl, h⟩

theorem eq_value_of_flatMap_eq (h : DifferAt resolve resolve' name value pieces)
    (hcount : value.count '\x7b' = 2)
    (heq : pieces.flatMap (Segment.expand resolve) = pieces.flatMap (Segment.expand resolve')) :
    ∀ written, .slot name written ∈ pieces → written = value := by
  induction pieces with
  | nil => simp
  | cons piece pieces ih =>
    rw [List.flatMap_cons, List.flatMap_cons] at heq
    intro written hmem
    rcases h.head with ⟨u, hu, hpiece, hvalue, hwritten⟩ | ⟨hother, hexpand⟩
    · rw [hvalue, hwritten] at heq
      obtain ⟨v, hv, hbraces, heq⟩ := eq_braces_of_append_eq hcount heq
      -- What stands before the next brace is the same, so both names are closed at one place.
      have hpass : ∀ w : List Char, '\x7b' ∉ w → ∀ c ∈ w, (c != '\x7b') = true := by
        rintro w hw c hc
        exact bne_iff_ne.mpr fun heq => hw (heq ▸ hc)
      have hfront := congrArg (List.takeWhile (· != '\x7b')) heq
      rw [List.takeWhile_append_of_pos (hpass v hv), List.takeWhile_append_of_pos (hpass u hu),
        h.tail.takeWhile_eq hbraces] at hfront
      obtain rfl : v = u := List.append_cancel_right hfront
      rcases List.mem_cons.mp hmem with hfirst | hmem
      · rw [hpiece] at hfirst
        rw [hbraces, (Segment.slot.inj hfirst).2]
      · exact ih h.tail (List.append_cancel_left heq) written hmem
    · rcases List.mem_cons.mp hmem with hfirst | hmem
      · exact absurd hfirst.symm (hother written)
      · rw [hexpand] at heq
        exact ih h.tail (List.append_cancel_left heq) written hmem

/-- The expansions are the same exactly if all placeholders of the name are written as the value. -/
theorem flatMap_eq_iff (h : DifferAt resolve resolve' name value pieces) :
    pieces.flatMap (Segment.expand resolve) = pieces.flatMap (Segment.expand resolve') ↔
      ∀ written, .slot name written ∈ pieces → written = value := by
  constructor
  · intro heq written hmem
    obtain ⟨k, hk, hcount⟩ := h.exists_count
    rw [heq] at hcount
    have hpos : 0 < k := Nat.pos_of_ne_zero fun hzero => hk hzero written hmem
    have htwo : k * value.count '\x7b' = k * 2 := by omega
    exact h.eq_value_of_flatMap_eq (Nat.eq_of_mul_eq_mul_left hpos htwo) heq written hmem
  · intro hall
    refine List.flatMap_congr fun piece hmem => ?_
    cases piece with
    | literal c => rfl
    | slot n written =>
      by_cases hn : n = name
      · subst hn
        rw [Segment.expand, Segment.expand, h.known, h.unknown, hall written hmem]
        rfl
      · rw [Segment.expand, Segment.expand, h.same n written hmem hn]

end DifferAt

end Template

end MetricFrames
