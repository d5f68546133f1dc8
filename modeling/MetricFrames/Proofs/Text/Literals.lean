import Mathlib.Data.List.Basic

/-!
# Texts between quotes

An expression is text with literals in it. A literal ends at the next quote that has no backslash
before it; a backslash takes the character after it along. An expression is read as given literals
with given texts around them iff it is spelled that way, none of the texts around has a quote in it,
and none of the literals ends early (`literals?_eq_some_iff`).
-/

namespace MetricFrames.Text

/-- A text between quotes, as it is written, and what comes after it, up to the next one. -/
structure Literal where
  inside : List Char
  after : List Char
  deriving DecidableEq, Repr

/-- Quotes around a text, and what comes after it. -/
def Literal.spelling (l : Literal) : List Char := '"' :: l.inside ++ '"' :: l.after

mutual

/-- Reads an expression: what comes before the first literal, and the literals. There is none if the
last literal does not end. -/
def literals? : List Char → Option (List Char × List Literal)
  | [] => some ([], [])
  | '"' :: s => (inside? s).map fun (inside, after, ls) => ([], ⟨inside, after⟩ :: ls)
  | c :: s => (literals? s).map fun (before, ls) => (c :: before, ls)

/-- Reads on inside a literal: the rest of it, what comes after it, and the other literals. -/
def inside? : List Char → Option (List Char × List Char × List Literal)
  | [] => none
  | '"' :: s => (literals? s).map fun (after, ls) => ([], after, ls)
  | '\\' :: c :: s => (inside? s).map fun (inside, after, ls) => ('\\' :: c :: inside, after, ls)
  | c :: s => (inside? s).map fun (inside, after, ls) => (c :: inside, after, ls)

end

/-- Whether a literal with this text ends where the text does: each quote has a backslash before it,
and no backslash is left over for the closing quote. -/
def isSealed : List Char → Bool
  | [] => true
  | '"' :: _ => false
  | ['\\'] => false
  | '\\' :: _ :: s => isSealed s
  | _ :: s => isSealed s

variable {c : Char} {s t before after : List Char} {ls : List Literal}

/-! ### Reading what was spelled -/

theorem literals?_plain (hc : c ≠ '"') (s : List Char) :
    literals? (c :: s) = (literals? s).map fun (before, ls) => (c :: before, ls) := by
  rw [literals?]
  rintro rfl
  exact hc rfl

theorem inside?_plain (hquote : c ≠ '"') (hslash : c ≠ '\\') (s : List Char) :
    inside? (c :: s) = (inside? s).map fun (inside, after, ls) => (c :: inside, after, ls) := by
  rw [inside?]
  · rintro rfl
    exact hquote rfl
  · rintro _ _ rfl
    exact absurd rfl hslash

theorem isSealed_plain (hquote : c ≠ '"') (hslash : c ≠ '\\') (s : List Char) :
    isSealed (c :: s) = isSealed s := by
  rw [isSealed]
  · rintro rfl
    exact hquote rfl
  · rintro rfl
    exact absurd rfl hslash
  · rintro _ _ rfl
    exact absurd rfl hslash

theorem ne_backslash (hend : c = '\\' → s = [] → False)
    (hpair : ∀ d t, c = '\\' → s = d :: t → False) : c ≠ '\\' := by
  rintro rfl
  cases s with
  | nil => exact hend rfl rfl
  | cons d t => exact hpair d t rfl rfl

theorem isSealed_append (hs : isSealed s = true) (ht : isSealed t = true) :
    isSealed (s ++ t) = true := by
  induction s using isSealed.induct with
  | case1 => exact ht
  | case2 => cases hs
  | case3 => cases hs
  | case4 c s ih => exact ih hs
  | case5 c s hquote hend hpair ih =>
    have hplain := ne_backslash hend hpair
    rw [isSealed_plain hquote hplain] at hs
    rw [List.cons_append, isSealed_plain hquote hplain]
    exact ih hs

theorem isSealed_of_plain (hquote : '"' ∉ s) (hslash : '\\' ∉ s) : isSealed s = true := by
  induction s with
  | nil => rfl
  | cons c s ih =>
    obtain ⟨hc, hquote⟩ := not_or.mp (List.mem_cons.not.mp hquote)
    obtain ⟨hc', hslash⟩ := not_or.mp (List.mem_cons.not.mp hslash)
    rw [isSealed_plain (Ne.symm hc) (Ne.symm hc')]
    exact ih hquote hslash

theorem literals?_append (h : '"' ∉ before) (s : List Char) :
    literals? (before ++ s) = (literals? s).map fun (after, ls) => (before ++ after, ls) := by
  induction before with
  | nil => exact Option.map_id'.symm
  | cons c before ih =>
    obtain ⟨hc, hbefore⟩ := not_or.mp (List.mem_cons.not.mp h)
    rw [List.cons_append, literals?_plain (Ne.symm hc), ih hbefore, Option.map_map]
    rfl

theorem inside?_append (h : isSealed t = true) (s : List Char) :
    inside? (t ++ '"' :: s) = (literals? s).map fun (after, ls) => (t, after, ls) := by
  induction t using isSealed.induct with
  | case1 => rw [List.nil_append, inside?]
  | case2 => cases h
  | case3 => cases h
  | case4 c t ih =>
    rw [List.cons_append, List.cons_append, inside?, ih h, Option.map_map]
    rfl
  | case5 c t hquote hend hpair ih =>
    have hplain := ne_backslash hend hpair
    rw [isSealed_plain hquote hplain] at h
    rw [List.cons_append, inside?_plain hquote hplain, ih h, Option.map_map]
    rfl

/-- No text outside the literals has a quote in it, and none of the literals ends early. -/
def Apart (before : List Char) (ls : List Literal) : Prop :=
  '"' ∉ before ∧ ∀ l ∈ ls, isSealed l.inside = true ∧ '"' ∉ l.after

theorem apart_cons {l : Literal} :
    Apart before (l :: ls) ↔ '"' ∉ before ∧ isSealed l.inside = true ∧ Apart l.after ls := by
  simp only [Apart, List.forall_mem_cons, and_assoc]

theorem literals?_spelling (h : Apart before ls) :
    literals? (before ++ ls.flatMap Literal.spelling) = some (before, ls) := by
  induction ls generalizing before with
  | nil =>
    rw [literals?_append h.1]
    simp [literals?]
  | cons l ls ih =>
    obtain ⟨hbefore, hsealed, hrest⟩ := apart_cons.mp h
    have hspelling : (l :: ls).flatMap Literal.spelling =
        '"' :: (l.inside ++ '"' :: (l.after ++ ls.flatMap Literal.spelling)) := by
      simp [Literal.spelling]
    rw [literals?_append hbefore, hspelling, literals?, inside?_append hsealed, ih hrest]
    simp

/-! ### What was read was spelled -/

mutual

theorem apart_of_literals? : ∀ (s : List Char) {before : List Char} {ls : List Literal},
    literals? s = some (before, ls) → s = before ++ ls.flatMap Literal.spelling ∧ Apart before ls
  | [], before, ls, h => by
    cases h
    exact ⟨rfl, by simp [Apart]⟩
  | c :: s, before, ls, h => by
    by_cases hc : c = '"'
    · subst hc
      rw [literals?] at h
      obtain ⟨⟨t, after, others⟩, hinside, hread⟩ := Option.map_eq_some_iff.mp h
      cases hread
      obtain ⟨rfl, hsealed, hothers⟩ := apart_of_inside? s hinside
      exact ⟨by simp [Literal.spelling], apart_cons.mpr ⟨by simp, hsealed, hothers⟩⟩
    · rw [literals?_plain hc] at h
      obtain ⟨⟨rest, others⟩, hrest, hread⟩ := Option.map_eq_some_iff.mp h
      cases hread
      obtain ⟨rfl, hquote, hothers⟩ := apart_of_literals? s hrest
      exact ⟨rfl, by simp [hquote, Ne.symm hc], hothers⟩

theorem apart_of_inside? : ∀ (s : List Char) {t after : List Char} {ls : List Literal},
    inside? s = some (t, after, ls) →
      s = t ++ '"' :: (after ++ ls.flatMap Literal.spelling) ∧ isSealed t = true ∧ Apart after ls
  | [], _, _, _, h => by cases h
  | c :: s, t, after, ls, h => by
    by_cases hquote : c = '"'
    · subst hquote
      rw [inside?] at h
      obtain ⟨⟨rest, others⟩, hrest, hread⟩ := Option.map_eq_some_iff.mp h
      cases hread
      obtain ⟨rfl, hothers⟩ := apart_of_literals? s hrest
      exact ⟨rfl, rfl, hothers⟩
    by_cases hslash : c = '\\'
    · subst hslash
      cases s with
      | nil => cases h
      | cons d s =>
        rw [inside?] at h
        obtain ⟨⟨rest, after', others⟩, hrest, hread⟩ := Option.map_eq_some_iff.mp h
        cases hread
        obtain ⟨rfl, hsealed, hothers⟩ := apart_of_inside? s hrest
        exact ⟨rfl, hsealed, hothers⟩
    · rw [inside?_plain hquote hslash] at h
      obtain ⟨⟨rest, after', others⟩, hrest, hread⟩ := Option.map_eq_some_iff.mp h
      cases hread
      obtain ⟨rfl, hsealed, hothers⟩ := apart_of_inside? s hrest
      exact ⟨rfl, (isSealed_plain hquote hslash rest).trans hsealed, hothers⟩

end

/-- Literals are read iff they are spelled so that they stay apart. -/
theorem literals?_eq_some_iff :
    literals? s = some (before, ls) ↔
      s = before ++ ls.flatMap Literal.spelling ∧ Apart before ls := by
  constructor
  · exact apart_of_literals? s
  · rintro ⟨rfl, h⟩
    exact literals?_spelling h

end MetricFrames.Text
