import MetricFrames.Proofs.Text.Pattern
import MetricFrames.Request.Wildcard
import Mathlib.Data.List.Basic

/-!
# What wildcards select

A value with stars selects the texts that it matches as a pattern, in which a star stands for any
run of characters and everything else for itself (`Wildcard.Matches`). The filter language has no
such patterns. It has tests for a part, the start and the end of a text, and for a regular
expression that has to match all of it (`Filter.Condition`). Whichever of them takes the place of a
value selects the same texts (`satisfies_interpolate`).
-/

namespace MetricFrames

/-! ### Conditions of the filter language -/

namespace Filter

/-- A condition on a text. -/
inductive Condition where
  | part (t : List Char)
  | start (t : List Char)
  | stop (t : List Char)
  | pattern (p : Text.Pattern)

/-- Whether a condition holds of a text. -/
def Condition.Holds (text : List Char) : Condition → Prop
  | part t => t <:+: text
  | start t => t <+: text
  | stop t => t <:+ text
  | pattern p => p.MatchesFully text

/-- The argument of a call of a function with one text between quotes. -/
def argument? (function : String) (call : List Char) : Option (List Char) := do
  let rest ← Text.after? (function.toList ++ ['(', '"']) call
  if rest.dropWhile (· ≠ '"') = ['"', ')'] then some (rest.takeWhile (· ≠ '"')) else none

/-- A text between quotes, with one backslash for each pair of them. -/
def unpaired : List Char → List Char
  | '\\' :: '\\' :: cs => '\\' :: unpaired cs
  | c :: cs => c :: unpaired cs
  | [] => []

/-- Reads a condition. -/
def Condition.read? (expression : List Char) : Option Condition :=
  (argument? "has_substring" expression).map part <|>
    (argument? "starts_with" expression).map start <|>
    (argument? "ends_with" expression).map stop <|>
    (argument? "monitoring.regex.full_match" expression).bind fun argument =>
      (Text.Pattern.read? (unpaired argument)).map pattern

/-- Whether a text satisfies an expression of the filter language. -/
def Satisfies (expression text : List Char) : Prop :=
  ∃ condition, Condition.read? expression = some condition ∧ condition.Holds text

theorem satisfies_iff {expression : List Char} {condition : Condition}
    (h : Condition.read? expression = some condition) (text : List Char) :
    Satisfies expression text ↔ condition.Holds text := by
  constructor
  · rintro ⟨other, hother, hholds⟩
    rw [h] at hother
    cases hother
    exact hholds
  · intro hholds
    exact ⟨condition, h, hholds⟩

variable {argument : List Char}

theorem argument?_call (function : String) (h : '"' ∉ argument) :
    argument? function (Wildcard.call function argument) = some argument := by
  have hplain : ∀ c ∈ argument, decide (c ≠ '"') = true := by
    intro c hc
    simp only [decide_eq_true_eq]
    rintro rfl
    exact h hc
  have hcall : Wildcard.call function argument =
      (function.toList ++ ['(', '"']) ++ (argument ++ ['"', ')']) := by
    simp [Wildcard.call]
  rw [argument?, hcall, Text.after?_append, Option.bind_eq_bind, Option.bind_some,
    List.dropWhile_append_of_pos hplain, List.takeWhile_append_of_pos hplain]
  simp

theorem read?_part (h : '"' ∉ argument) :
    Condition.read? (Wildcard.call "has_substring" argument) = some (.part argument) := by
  rw [Condition.read?, argument?_call _ h]
  rfl

theorem read?_start (h : '"' ∉ argument) :
    Condition.read? (Wildcard.call "starts_with" argument) = some (.start argument) := by
  rw [Condition.read?, argument?_call _ h]
  rfl

theorem read?_stop (h : '"' ∉ argument) :
    Condition.read? (Wildcard.call "ends_with" argument) = some (.stop argument) := by
  rw [Condition.read?, argument?_call _ h]
  rfl

theorem read?_matchCall (h : '"' ∉ argument) :
    Condition.read? (Wildcard.matchCall argument) =
      (Text.Pattern.read? (unpaired argument)).map .pattern := by
  rw [Condition.read?, Wildcard.matchCall, argument?_call _ h]
  rfl

end Filter

/-! ### Patterns with stars -/

namespace Wildcard

open MetricFrames.Filter Text

/-- Whether a text matches a value as a pattern. -/
inductive Matches : List Char → List Char → Prop
  | nil : Matches [] []
  | star {value text : List Char} (run : List Char) (rest : Matches value text) :
      Matches ('*' :: value) (run ++ text)
  | char {c : Char} {value text : List Char} (plain : c ≠ '*') (rest : Matches value text) :
      Matches (c :: value) (c :: text)

variable {c : Char} {value plain text : List Char}

theorem matches_nil : Matches [] text ↔ text = [] := by
  constructor
  · rintro ⟨⟩
    rfl
  · rintro rfl
    exact .nil

theorem matches_star :
    Matches ('*' :: value) text ↔ ∃ run rest, text = run ++ rest ∧ Matches value rest := by
  constructor
  · intro h
    cases h with
    | star run rest => exact ⟨run, _, rfl, rest⟩
    | char plain => exact absurd rfl plain
  · rintro ⟨run, rest, rfl, h⟩
    exact .star run h

theorem matches_char (hc : c ≠ '*') :
    Matches (c :: value) text ↔ ∃ rest, text = c :: rest ∧ Matches value rest := by
  constructor
  · intro h
    cases h with
    | star => exact absurd rfl hc
    | char _ rest => exact ⟨_, rfl, rest⟩
  · rintro ⟨rest, rfl, h⟩
    exact .char hc h

/-- A beginning without stars stands for itself. -/
theorem matches_append (h : '*' ∉ plain) :
    Matches (plain ++ value) text ↔ ∃ rest, text = plain ++ rest ∧ Matches value rest := by
  induction plain generalizing text with
  | nil => exact ⟨fun h => ⟨text, rfl, h⟩, fun ⟨rest, htext, h⟩ => htext ▸ h⟩
  | cons c plain ih =>
    obtain ⟨hc, hplain⟩ := not_or.mp (List.mem_cons.not.mp h)
    rw [List.cons_append, matches_char (Ne.symm hc)]
    constructor
    · rintro ⟨rest, rfl, hrest⟩
      obtain ⟨tail, rfl, htail⟩ := (ih hplain).mp hrest
      exact ⟨tail, rfl, htail⟩
    · rintro ⟨tail, rfl, htail⟩
      exact ⟨plain ++ tail, rfl, (ih hplain).mpr ⟨tail, rfl, htail⟩⟩

theorem matches_plain (h : '*' ∉ plain) : Matches plain text ↔ text = plain := by
  have happend : Matches (plain ++ []) text ↔ _ := matches_append h
  rw [List.append_nil] at happend
  rw [happend]
  constructor
  · rintro ⟨rest, rfl, hrest⟩
    rw [matches_nil.mp hrest, List.append_nil]
  · rintro rfl
    exact ⟨[], (List.append_nil _).symm, .nil⟩

theorem matches_part (h : '*' ∉ plain) :
    Matches ('*' :: (plain ++ ['*'])) text ↔ plain <:+: text := by
  rw [matches_star]
  constructor
  · rintro ⟨run, rest, rfl, hrest⟩
    obtain ⟨tail, rfl, -⟩ := (matches_append h).mp hrest
    exact ⟨run, tail, List.append_assoc ..⟩
  · rintro ⟨run, tail, rfl⟩
    refine ⟨run, plain ++ tail, List.append_assoc .., (matches_append h).mpr ⟨tail, rfl, ?_⟩⟩
    exact matches_star.mpr ⟨tail, [], (List.append_nil _).symm, .nil⟩

theorem matches_start (h : '*' ∉ plain) : Matches (plain ++ ['*']) text ↔ plain <+: text := by
  rw [matches_append h]
  constructor
  · rintro ⟨tail, rfl, -⟩
    exact ⟨tail, rfl⟩
  · rintro ⟨tail, rfl⟩
    exact ⟨tail, rfl, matches_star.mpr ⟨tail, [], (List.append_nil _).symm, .nil⟩⟩

theorem matches_stop (h : '*' ∉ plain) : Matches ('*' :: plain) text ↔ plain <:+ text := by
  rw [matches_star]
  constructor
  · rintro ⟨run, rest, rfl, hrest⟩
    rw [(matches_plain h).mp hrest]
    exact ⟨run, rfl⟩
  · rintro ⟨run, rfl⟩
    exact ⟨run, plain, rfl, (matches_plain h).mpr rfl⟩

/-! ### Patterns as regular expressions -/

/-- One character of a pattern as a part of a regular expression. -/
def part (c : Char) : Pattern := if c = '*' then .anyRun else .char c

/-- A pattern as a regular expression. -/
def pattern (value : List Char) : Pattern :=
  Pattern.inOrder (.start :: (value.map part ++ [.stop]))

theorem matchesFully_pattern : (pattern value).MatchesFully text ↔ Matches value text := by
  -- Behind the first anchor, for the rest of a text after any beginning.
  have hrest : ∀ value before text,
      (Pattern.inOrder (value.map part ++ [.stop])).Matches before text [] ↔
        Matches value text := by
    intro value
    induction value with
    | nil =>
      intro before text
      exact Pattern.matches_inOrder_stop.trans matches_nil.symm
    | cons c value ih =>
      intro before text
      rw [List.map_cons, List.cons_append]
      by_cases hc : c = '*'
      · subst hc
        rw [part, if_pos rfl, Pattern.matches_inOrder_anyRun, matches_star]
        simp only [ih]
      · rw [part, if_neg hc, Pattern.matches_inOrder_char, matches_char hc]
        simp only [ih]
  exact Pattern.matches_inOrder_start.trans (hrest value [] text)

/-- The tokens of one character of a pattern. -/
def tokensOf (c : Char) : List Pattern.Token :=
  if c = '*' then [.one .any, .times 0 none] else [.one (.char c)]

/-- One character of a pattern inside a regular expression. -/
def escaped (c : Char) : List Char :=
  if c = '*' then ['.', '*'] else if reserved.contains c then ['\\', c] else [c]

theorem unpaired_expressionChar (hquote : c ≠ '"') (hslash : c ≠ '\\') (cs : List Char) :
    unpaired (expressionChar c ++ cs) = escaped c ++ unpaired cs := by
  have hcons : ∀ cs, unpaired (c :: cs) = c :: unpaired cs := by
    intro cs
    rw [unpaired]
    rintro _ rfl
    exact absurd rfl hslash
  by_cases hc : c = '*'
  · subst hc
    rfl
  · by_cases hr : reserved.contains c = true
    · simp only [expressionChar, escaped, hc, hr, if_true, if_false, Bool.or_true]
      show unpaired ('\\' :: '\\' :: c :: cs) = _
      rw [unpaired, hcons]
      rfl
    · simp only [expressionChar, escaped, hc, hr, hquote, if_false, decide_false, Bool.or_self]
      exact hcons cs

theorem ofChar_of_plain (hc : c ≠ '*') (hr : reserved.contains c = false) :
    Pattern.Token.ofChar c = .one (.char c) := by
  unfold Pattern.Token.ofChar
  split
  case h_4 => exact absurd rfl hc
  case h_10 => rfl
  all_goals exact absurd hr (by decide)

theorem tokens_escaped (hslash : c ≠ '\\') (cs : List Char) :
    Pattern.tokens .outside (escaped c ++ cs) =
      (Pattern.tokens .outside cs).map (tokensOf c ++ ·) := by
  by_cases hc : c = '*'
  · subst hc
    show ((Pattern.tokens .outside cs).map _).map _ = _
    rw [Option.map_map]
    rfl
  · by_cases hr : reserved.contains c = true
    · rw [escaped, tokensOf, if_neg hc, if_neg hc, if_pos hr]
      rfl
    · have hset : c ≠ '[' := by
        rintro rfl
        exact hr rfl
      have hcount : c ≠ '\x7b' := by
        rintro rfl
        exact hr rfl
      have hplain := ofChar_of_plain hc (Bool.eq_false_iff.mpr hr)
      rw [escaped, tokensOf, if_neg hc, if_neg hc, if_neg hr, List.singleton_append,
        Pattern.tokens, if_neg hslash, if_neg hset, if_neg hcount, hplain]
      rfl

theorem foldlM_tokensOf (ts : List Pattern.Token) (g : Pattern.Group) :
    (tokensOf c ++ ts).foldlM Pattern.Group.step (g, []) =
      ts.foldlM Pattern.Group.step (g.add (part c), []) := by
  by_cases hc : c = '*'
  · subst hc
    rfl
  · rw [tokensOf, part, if_neg hc, if_neg hc]
    rfl

theorem unpaired_flatMap (hquote : '"' ∉ value) (hslash : '\\' ∉ value) (cs : List Char) :
    unpaired (value.flatMap expressionChar ++ cs) = value.flatMap escaped ++ unpaired cs := by
  induction value with
  | nil => rfl
  | cons c value ih =>
    obtain ⟨hq, hquote⟩ := not_or.mp (List.mem_cons.not.mp hquote)
    obtain ⟨hs, hslash⟩ := not_or.mp (List.mem_cons.not.mp hslash)
    rw [List.flatMap_cons, List.append_assoc, unpaired_expressionChar (Ne.symm hq) (Ne.symm hs),
      ih hquote hslash, List.flatMap_cons, List.append_assoc]

theorem tokens_flatMap (hslash : '\\' ∉ value) (cs : List Char) :
    Pattern.tokens .outside (value.flatMap escaped ++ cs) =
      (Pattern.tokens .outside cs).map (value.flatMap tokensOf ++ ·) := by
  induction value with
  | nil => exact Option.map_id'.symm
  | cons c value ih =>
    obtain ⟨hs, hslash⟩ := not_or.mp (List.mem_cons.not.mp hslash)
    rw [List.flatMap_cons, List.append_assoc, tokens_escaped (Ne.symm hs), ih hslash,
      Option.map_map]
    refine congrArg (Option.map · _) (funext fun ts => ?_)
    rw [List.flatMap_cons, List.append_assoc]
    rfl

theorem foldlM_flatMap (ts : List Pattern.Token) (g : Pattern.Group) :
    (value.flatMap tokensOf ++ ts).foldlM Pattern.Group.step (g, []) =
      ts.foldlM Pattern.Group.step
        ({ g with parts := (value.map part).reverse ++ g.parts }, []) := by
  induction value generalizing g with
  | nil => rfl
  | cons c value ih =>
    rw [List.flatMap_cons, List.append_assoc, foldlM_tokensOf, ih, List.map_cons,
      List.reverse_cons, List.append_assoc]
    rfl

/-- The escaped text of a pattern is read as that pattern. -/
theorem read?_pattern (hquote : '"' ∉ value) (hslash : '\\' ∉ value) :
    Pattern.read? (unpaired ('^' :: value.flatMap expressionChar ++ ['$'])) =
      some (pattern value) := by
  have htokens : Pattern.tokens .outside
      (unpaired ('^' :: value.flatMap expressionChar ++ ['$'])) =
        some (Pattern.Token.one .start :: (value.flatMap tokensOf ++ [.one .stop])) := by
    show Pattern.tokens .outside ('^' :: unpaired (value.flatMap expressionChar ++ ['$'])) = _
    rw [unpaired_flatMap hquote hslash]
    show (Pattern.tokens .outside (value.flatMap escaped ++ ['$'])).map _ = _
    rw [tokens_flatMap hslash]
    rfl
  have hgroup : (Pattern.Token.one .start :: (value.flatMap tokensOf ++ [.one .stop])).foldlM
      Pattern.Group.step ({}, []) =
        some ({ parts := .stop :: ((value.map part).reverse ++ [.start]) }, []) := by
    show (value.flatMap tokensOf ++ [Pattern.Token.one .stop]).foldlM Pattern.Group.step
      ({ parts := [.start] }, []) = _
    rw [foldlM_flatMap]
    rfl
  rw [Pattern.read?, htokens, Option.bind_eq_bind, Option.bind_some, hgroup]
  simp [Pattern.Group.pattern, pattern]

/-! ### The choice of a condition -/

theorem exists_of_starts (hstarts : (value.head? == some '*') = true) :
    ∃ rest, value = '*' :: rest := List.head?_eq_some_iff.mp (beq_iff_eq.mp hstarts)

theorem exists_of_stops (hstops : (value.getLast? == some '*') = true) :
    ∃ rest, value = rest ++ ['*'] := List.getLast?_eq_some_iff.mp (beq_iff_eq.mp hstops)

theorem satisfies_part (hcount : value.count '*' = 2)
    (hstarts : (value.head? == some '*') = true) (hstops : (value.getLast? == some '*') = true)
    (hquote : '"' ∉ value) (text : List Char) :
    Satisfies (call "has_substring" (value.filter (· != '*'))) text ↔ Matches value text := by
  obtain ⟨rest, rfl⟩ := exists_of_stops hstops
  obtain ⟨plain, hplain⟩ := exists_of_starts hstarts
  cases rest with
  | nil => simp at hcount
  | cons c plain =>
    simp only [List.cons_append, List.cons.injEq] at hplain
    obtain ⟨rfl, -⟩ := hplain
    have hstar : '*' ∉ plain := by
      rw [← List.count_eq_zero]
      simp only [List.cons_append, List.count_cons_self, List.count_append] at hcount
      simp only [List.count_nil] at hcount
      omega
    have hfilter : ('*' :: plain ++ ['*']).filter (· != '*') = plain := by
      have hkept : plain.filter (· != '*') = plain := by
        refine List.filter_eq_self.mpr fun c hc => bne_iff_ne.mpr ?_
        rintro rfl
        exact hstar hc
      simp [hkept]
    have hplainQuote : '"' ∉ plain := fun h => hquote (by simp [h])
    rw [hfilter, satisfies_iff (read?_part hplainQuote)]
    exact (matches_part hstar).symm

theorem satisfies_stop (hcount : value.count '*' = 1)
    (hstarts : (value.head? == some '*') = true) (hquote : '"' ∉ value) (text : List Char) :
    Satisfies (call "ends_with" (value.drop 1)) text ↔ Matches value text := by
  obtain ⟨plain, rfl⟩ := exists_of_starts hstarts
  have hstar : '*' ∉ plain := by
    rw [← List.count_eq_zero]
    rw [List.count_cons_self] at hcount
    omega
  have hplainQuote : '"' ∉ plain := fun h => hquote (List.mem_cons_of_mem _ h)
  rw [List.drop_one, List.tail_cons, satisfies_iff (read?_stop hplainQuote)]
  exact (matches_stop hstar).symm

theorem satisfies_start (hcount : value.count '*' = 1)
    (hstops : (value.getLast? == some '*') = true) (hquote : '"' ∉ value) (text : List Char) :
    Satisfies (call "starts_with" value.dropLast) text ↔ Matches value text := by
  obtain ⟨plain, rfl⟩ := exists_of_stops hstops
  have hstar : '*' ∉ plain := by
    rw [← List.count_eq_zero]
    rw [List.count_append, List.count_singleton_self] at hcount
    omega
  have hplainQuote : '"' ∉ plain := fun h => hquote (List.mem_append_left _ h)
  rw [List.dropLast_concat, satisfies_iff (read?_start hplainQuote)]
  exact (matches_start hstar).symm

theorem not_mem_expressionChar (hc : c ≠ '"') : '"' ∉ expressionChar c := by
  rw [expressionChar]
  split
  · decide
  · split
    · simp [Ne.symm hc]
    · simp [Ne.symm hc]

theorem satisfies_pattern (hquote : '"' ∉ value) (hslash : '\\' ∉ value) (text : List Char) :
    Satisfies (matchCall ('^' :: value.flatMap expressionChar ++ ['$'])) text ↔
      Matches value text := by
  have hargument : '"' ∉ '^' :: value.flatMap expressionChar ++ ['$'] := by
    simp only [List.cons_append, List.mem_cons, List.mem_append, List.mem_flatMap, not_or,
      not_exists, not_and]
    refine ⟨by decide, fun c hc => not_mem_expressionChar ?_, by decide, List.not_mem_nil⟩
    rintro rfl
    exact hquote hc
  have hread : Condition.read? (matchCall ('^' :: value.flatMap expressionChar ++ ['$'])) =
      some (.pattern (pattern value)) := by
    rw [read?_matchCall hargument, read?_pattern hquote hslash]
    rfl
  rw [satisfies_iff hread]
  exact matchesFully_pattern

/-- A value with stars selects the texts that match it as a pattern, whichever condition takes its
place: a test for a part, the start or the end of a text, or a regular expression in which
everything but the stars is escaped. -/
theorem satisfies_interpolate (hstar : '*' ∈ value) (hquote : '"' ∉ value)
    (hslash : '\\' ∉ value) (text : List Char) :
    Satisfies (interpolate value) text ↔ Matches value text := by
  rw [interpolate]
  split
  case isTrue h => exact satisfies_part h.1 h.2.1 h.2.2 hquote text
  split
  case isTrue h => exact satisfies_stop h.1 h.2 hquote text
  split
  case isTrue h => exact satisfies_start h.1 h.2 hquote text
  split
  case isTrue => exact satisfies_pattern hquote hslash text
  case isFalse h => exact absurd (List.count_pos_iff.mpr hstar) (by omega)

/-- A pattern with characters that regular expressions reserve. -/
def dotted : List Char := ['a', '.', '*', '+']

theorem satisfies_interpolate_dotted : '*' ∈ dotted ∧ '"' ∉ dotted ∧ '\\' ∉ dotted ∧
    ∀ text, Satisfies (interpolate dotted) text ↔ ∃ run, text = ['a', '.'] ++ run ++ ['+'] := by
  refine ⟨by decide, by decide, by decide, fun text => ?_⟩
  have hplain : dotted = ['a', '.'] ++ '*' :: ['+'] := rfl
  rw [satisfies_interpolate (by decide) (by decide) (by decide) text, hplain,
    matches_append (by decide)]
  constructor
  · rintro ⟨rest, rfl, hrest⟩
    obtain ⟨run, tail, rfl, htail⟩ := matches_star.mp hrest
    rw [(matches_plain (by decide)).mp htail]
    exact ⟨run, (List.append_assoc ..).symm⟩
  · rintro ⟨run, rfl⟩
    refine ⟨run ++ ['+'], List.append_assoc .., matches_star.mpr ⟨run, ['+'], rfl, ?_⟩⟩
    exact (matches_plain (by decide)).mpr rfl

end Wildcard
end MetricFrames
