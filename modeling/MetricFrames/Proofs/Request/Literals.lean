import MetricFrames.Proofs.Text.Literals
import MetricFrames.Proofs.Text.Trimming
import MetricFrames.Request.Filter

/-!
# The literals of a filter

A filter expression has a literal for the metric type and one for each group: its value, or the
argument of the call that takes the place of its value. It is read with these literals and no others
iff each of them is sealed and no value is the word that joins groups (`literals?_build_iff`).
Values are not escaped on the way, so a quote or a backslash in one of them can break the
expression; all others are sealed (`isSealed_inside`).
-/

namespace MetricFrames

open Text

namespace Filter

/-! ### Values -/

/-- A literal with what belongs to it on both sides, which has no quotes in it. -/
structure Quoting where
  opening : List Char
  inside : List Char
  closing : List Char
  opening_plain : '"' ∉ opening
  closing_plain : '"' ∉ closing
  closing_end : closing.getLast? ≠ some ' '

namespace Quoting

/-- A literal with what stands on both sides. -/
def text (q : Quoting) : List Char := q.opening ++ '"' :: q.inside ++ '"' :: q.closing

/-- Just quotes around a text. -/
def plain (s : List Char) : Quoting := ⟨[], s, [], by decide, by decide, by decide⟩

/-- A call of a function. -/
def call (function : String) (h : '"' ∉ function.toList) (s : List Char) : Quoting :=
  ⟨function.toList ++ ['('], s, [')'], by simp [h], by decide, by decide⟩

/-- How a value stands in an expression after an operator that is not a matching one. -/
def ofValue (value : List Char) : Quoting :=
  let stars := value.count '*'
  let starts := value.head? == some '*'
  let stops := value.getLast? == some '*'
  if stars = 2 ∧ starts ∧ stops then call "has_substring" (by decide) (value.filter (· != '*'))
  else if stars = 1 ∧ starts then call "ends_with" (by decide) (value.drop 1)
  else if stars = 1 ∧ stops then call "starts_with" (by decide) value.dropLast
  else if stars ≠ 0 then
    call "monitoring.regex.full_match" (by decide)
      ('^' :: value.flatMap Wildcard.expressionChar ++ ['$'])
  else plain value

theorem text_call (function : String) (h : '"' ∉ function.toList) (s : List Char) :
    (call function h s).text = Wildcard.call function s := by
  simp [text, call, Wildcard.call]

theorem text_plain (s : List Char) : (plain s).text = literal s := rfl

theorem text_ofValue (value : List Char) : (ofValue value).text = valueText value := by
  by_cases hstar : '*' ∈ value
  · have hcount : value.count '*' ≠ 0 := fun hzero => List.count_eq_zero.mp hzero hstar
    have hcontains : value.contains '*' = true := List.contains_iff_mem.mpr hstar
    rw [valueText, if_pos hcontains, Wildcard.interpolate, ofValue]
    simp only [if_pos hcount, Wildcard.matchCall]
    split
    · exact text_call ..
    split
    · exact text_call ..
    split
    · exact text_call ..
    · exact text_call ..
  · have hcount : value.count '*' = 0 := List.count_eq_zero.mpr hstar
    have hcontains : ¬ value.contains '*' = true := mt List.contains_iff_mem.mp hstar
    rw [valueText, if_neg hcontains, ofValue]
    simp [hcount, text_plain]

theorem length_text (q : Quoting) :
    q.text.length = q.opening.length + q.inside.length + q.closing.length + 2 := by
  simp only [text, List.length_append, List.length_cons]
  omega

theorem getLast?_text (q : Quoting) (s : List Char) : (s ++ q.text).getLast? ≠ some ' ' := by
  have htext : s ++ q.text = (s ++ q.opening ++ '"' :: q.inside) ++ ['"'] ++ q.closing := by
    simp [text]
  have hend := q.closing_end
  rw [htext, List.getLast?_append, List.getLast?_concat]
  cases h : q.closing.getLast? with
  | none => decide
  | some c => rwa [h] at hend

theorem isSealed_expressionChar {c : Char} (hquote : c ≠ '"') (hslash : c ≠ '\\') :
    isSealed (Wildcard.expressionChar c) = true := by
  have hplain : isSealed [c] = true := by
    rw [isSealed_plain hquote hslash]
    rfl
  rw [Wildcard.expressionChar]
  split
  · rfl
  split
  · exact hplain
  · exact hplain

theorem isSealed_expression {s : List Char} (hquote : '"' ∉ s) (hslash : '\\' ∉ s) :
    isSealed (s.flatMap Wildcard.expressionChar) = true := by
  induction s with
  | nil => rfl
  | cons c s ih =>
    obtain ⟨hc, hquote⟩ := not_or.mp (List.mem_cons.not.mp hquote)
    obtain ⟨hc', hslash⟩ := not_or.mp (List.mem_cons.not.mp hslash)
    rw [List.flatMap_cons]
    exact isSealed_append (isSealed_expressionChar (Ne.symm hc) (Ne.symm hc')) (ih hquote hslash)

/-- A value without quotes and backslashes cannot break out of its literal. -/
theorem isSealed_ofValue {value : List Char} (hquote : '"' ∉ value) (hslash : '\\' ∉ value) :
    isSealed (ofValue value).inside = true := by
  have hpart : ∀ part ⊆ value, isSealed part = true := fun part hpart =>
    isSealed_of_plain (fun h => hquote (hpart h)) (fun h => hslash (hpart h))
  rw [ofValue]
  split
  · exact hpart _ (List.filter_subset_self _)
  split
  · exact hpart _ (List.drop_subset 1 value)
  split
  · exact hpart _ (List.dropLast_subset value)
  split
  · exact isSealed_append (isSealed_expression hquote hslash) rfl
  · exact hpart _ (List.Subset.refl value)

end Quoting

/-! ### Groups -/

/-- A key, an operator and a value. -/
structure Group where
  key : String
  operator : String
  value : String

/-- Groups have keys and operators without quotes, none of which is the word that joins groups. -/
structure Group.IsPlain (g : Group) : Prop where
  key : '"' ∉ g.key.toList
  operator : '"' ∉ g.operator.toList
  key_ne : g.key ≠ "AND"
  operator_ne : g.operator ≠ "AND"

namespace Group

variable {g : Group}

/-- How the value of a group stands in the expression. -/
def quoting (g : Group) : Quoting :=
  if isMatching g.operator then
    .call "monitoring.regex.full_match" (by decide) g.value.toList
  else .ofValue g.value.toList

/-- How the operator of a group stands in the expression. -/
def relation (g : Group) : List Char :=
  if isMatching g.operator then eraseLast '~' g.operator.toList else g.operator.toList

/-- What a group stands for. -/
def clause (g : Group) : List Char := g.key.toList ++ g.relation ++ g.quoting.text

/-- What is written for a group. -/
def written (g : Group) : List Char :=
  if g.value = "AND" then g.key.toList ++ g.operator.toList ++ [' '] else g.clause

theorem relation_of_matching (h : isMatching g.operator = true) (text : List Char) :
    eraseLast '~' (text ++ g.key.toList ++ g.operator.toList) =
      text ++ g.key.toList ++ g.relation := by
  have htilde : '~' ∈ g.operator.toList := by
    simp only [isMatching, Bool.or_eq_true, beq_iff_eq] at h
    rcases h with h | h
    · rw [h]
      decide
    · rw [h]
      decide
  rw [eraseLast_append htilde, relation, if_pos h]

theorem length_relation_le (g : Group) : g.operator.toList.length ≤ g.relation.length + 1 := by
  rw [relation]
  split
  · rw [eraseLast, List.length_reverse, List.length_erase]
    split
    · rw [List.length_reverse]
      omega
    · rw [List.length_reverse]
      omega
  · omega

theorem relation_plain (h : g.IsPlain) : '"' ∉ g.relation := by
  rw [relation]
  split
  · rw [eraseLast, List.mem_reverse]
    intro hmem
    exact h.operator (List.mem_reverse.mp (List.mem_of_mem_erase hmem))
  · exact h.operator

/-- A value that is the joining word is shorter than what it stands for. -/
theorem length_written_lt (h : g.value = "AND") : g.written.length < g.clause.length := by
  have hrelation := g.length_relation_le
  have htext := g.quoting.length_text
  have hinside : g.quoting.inside.length = 3 := by
    rw [quoting, h]
    split
    · rfl
    · rfl
  rw [written, if_pos h, clause, List.length_append, List.length_append, List.length_append,
    List.length_append, List.length_singleton]
  omega

/-- Groups whose values have no quotes and no backslashes have sealed literals. -/
theorem isSealed_inside (hquote : '"' ∉ g.value.toList) (hslash : '\\' ∉ g.value.toList) :
    isSealed g.quoting.inside = true := by
  rw [quoting]
  split
  · exact isSealed_of_plain hquote hslash
  · exact Quoting.isSealed_ofValue hquote hslash

theorem written_eq_clause (h : g.value ≠ "AND") : g.written = g.clause := if_neg h

theorem length_written_le (g : Group) : g.written.length ≤ g.clause.length := by
  by_cases h : g.value = "AND"
  · exact Nat.le_of_lt (length_written_lt h)
  · exact Nat.le_of_eq (congrArg List.length (written_eq_clause h))

/-- Appending the tokens of a group appends what is written for it. -/
theorem append_group (hkey : g.key ≠ "AND") (hoperator : g.operator ≠ "AND") {i : Nat}
    (hi : i % 4 = 0) (previous : String) (text : List Char) (rest : List String) :
    append i previous text (g.key :: g.operator :: g.value :: rest) =
      append (i + 3) g.value (text ++ g.written) rest := by
  have hfirst : i % 4 ≠ 2 := by omega
  have hsecond : (i + 1) % 4 ≠ 2 := by omega
  have hthird : (i + 1 + 1) % 4 = 2 := by omega
  simp only [append, if_neg hkey, if_neg hoperator, if_neg hfirst, if_neg hsecond, if_pos hthird]
  congr 1
  by_cases hword : g.value = "AND"
  · rw [if_pos hword, written, if_pos hword]
    simp only [List.append_assoc]
  rw [if_neg hword, written_eq_clause hword, clause, quoting]
  by_cases hmatching : isMatching g.operator = true
  · rw [if_pos hmatching, if_pos hmatching, relation_of_matching hmatching, Quoting.text_call,
      Wildcard.matchCall]
    simp only [List.append_assoc]
  · rw [if_neg hmatching, if_neg hmatching, Quoting.text_ofValue, relation, if_neg hmatching]
    simp only [List.append_assoc]

end Group

/-- The tokens of groups, with the joining word between them. -/
def tokens : List Group → List String
  | [] => []
  | [g] => [g.key, g.operator, g.value]
  | g :: gs => g.key :: g.operator :: g.value :: "AND" :: tokens gs

/-- The tokens of groups; the joining word may also follow the last group. -/
def joined (groups : List Group) (closed : Bool) : List String :=
  tokens groups ++ if closed then ["AND"] else []

variable {groups : List Group} {metricType : String} {closed : Bool}

theorem append_tokens (hnames : ∀ g ∈ groups, g.key ≠ "AND" ∧ g.operator ≠ "AND") {i : Nat}
    (hi : i % 4 = 0) (previous : String) (text : List Char) :
    append i previous text (tokens groups) =
      text ++ joinWith [' '] (groups.map Group.written) := by
  induction groups generalizing i previous text with
  | nil => simp [tokens, append, joinWith]
  | cons g groups ih =>
    obtain ⟨⟨hkey, hoperator⟩, hrest⟩ := List.forall_mem_cons.mp hnames
    cases groups with
    | nil =>
      rw [tokens, Group.append_group hkey hoperator hi]
      rfl
    | cons next groups =>
      rw [tokens, Group.append_group hkey hoperator hi, append, if_pos rfl, ih hrest (by omega)]
      · simp [joinWith]
      · rintro ⟨⟩

/-- The joining word adds a blank wherever it stands. -/
theorem append_word (i : Nat) (previous : String) (text : List Char) (ts : List String) :
    append i previous text (ts ++ ["AND"]) = append i previous text ts ++ [' '] := by
  induction ts generalizing i previous text with
  | nil => rfl
  | cons t ts ih =>
    rw [List.cons_append, append, append]
    exact ih ..

/-! ### Expressions -/

/-- The clause of the metric type. -/
def start (metricType : String) : List Char := "metric.type=".toList ++ literal metricType.toList

/-- What is written for a metric type and groups. -/
def spelled (metricType : String) (groups : List Group) : List Char :=
  start metricType ++ groups.flatMap fun g => ' ' :: g.written

theorem start_eq_concat (metricType : String) :
    start metricType = "metric.type=".toList ++ '"' :: metricType.toList ++ ['"'] :=
  (List.append_assoc _ ('"' :: metricType.toList) ['"']).symm

theorem ne_blank_of_head?_start {metricType : String} {s : List Char} {c : Char}
    (h : (start metricType ++ s).head? = some c) : (c == ' ') = false := by
  have hfirst : (start metricType ++ s).head? = some 'm' := rfl
  rw [hfirst] at h
  cases h
  rfl

theorem length_tokens (g : Group) (groups : List Group) :
    (tokens (g :: groups)).length % 4 = 3 := by
  induction groups generalizing g with
  | nil => rfl
  | cons next groups ih =>
    have hrest := ih next
    rw [tokens, List.length_cons, List.length_cons, List.length_cons, List.length_cons]
    · omega
    · rintro ⟨⟩

theorem cons_joinWith (g : Group) (groups : List Group) :
    ' ' :: joinWith [' '] ((g :: groups).map Group.written) =
      (g :: groups).flatMap fun g => ' ' :: g.written := by
  induction groups generalizing g with
  | nil => simp [joinWith]
  | cons next groups ih =>
    rw [List.flatMap_cons, ← ih next]
    simp [joinWith]

theorem head?_spelled (metricType : String) (groups : List Group) {c : Char}
    (h : (spelled metricType groups).head? = some c) : (c == ' ') = false :=
  ne_blank_of_head?_start h

theorem spelled_ne_nil (metricType : String) (groups : List Group) :
    spelled metricType groups ≠ [] := by
  rw [spelled, start_eq_concat, List.append_assoc, List.append_assoc]
  exact List.append_ne_nil_of_left_ne_nil (by decide) _

/-- A blank after the metric type and one after the last group go when the ends are trimmed. -/
theorem trimBy_joined (hnames : ∀ g ∈ groups, g.key ≠ "AND" ∧ g.operator ≠ "AND")
    (hclosed : closed = true → groups ≠ []) :
    trimBy (· == ' ') (start metricType ++ [' '] ++ append 0 "" [] (joined groups closed)) =
      trimBy (· == ' ') (spelled metricType groups) := by
  have hdrop := trimBy_concat (spelled_ne_nil metricType groups)
    (fun _ => head?_spelled metricType groups) (beq_self_eq_true ' ')
  have happend : append 0 "" [] (tokens groups) = joinWith [' '] (groups.map Group.written) :=
    append_tokens hnames rfl "" []
  cases groups with
  | nil =>
    cases closed with
    | false =>
      rw [← hdrop]
      simp [joined, tokens, append, spelled]
    | true => exact absurd rfl (hclosed rfl)
  | cons g groups =>
    have hspelled : start metricType ++ [' '] ++ append 0 "" [] (tokens (g :: groups)) =
        spelled metricType (g :: groups) := by
      rw [happend, spelled, ← cons_joinWith, List.append_assoc, List.singleton_append]
    cases closed with
    | false => rw [joined, if_neg (by decide), List.append_nil, hspelled]
    | true => rw [joined, if_pos rfl, append_word, ← List.append_assoc, hspelled, hdrop]

theorem build_joined (metricType : String)
    (hnames : ∀ g ∈ groups, g.key ≠ "AND" ∧ g.operator ≠ "AND")
    (hclosed : closed = true → groups ≠ []) :
    build metricType (joined groups closed) =
      .ok (String.ofList (trimBy (· == ' ') (spelled metricType groups))) := by
  have hformed : ¬ (joined groups closed ≠ [] ∧ (joined groups closed).length % 4 ≠ 0 ∧
      (joined groups closed).length % 4 ≠ 3) := by
    rintro ⟨hsome, hzero, hthree⟩
    cases groups with
    | nil =>
      cases closed with
      | false => exact hsome rfl
      | true => exact absurd rfl (hclosed rfl)
    | cons g groups =>
      have hlength := length_tokens g groups
      rw [joined, List.length_append] at hzero hthree
      cases closed with
      | false => exact hthree hlength
      | true =>
        simp only [if_true, List.length_singleton] at hzero
        omega
  rw [build, if_neg hformed, ← trimBy_joined hnames hclosed]
  rfl

theorem build_tokens (metricType : String) (hplain : ∀ g ∈ groups, g.IsPlain) :
    build metricType (tokens groups) =
      .ok (String.ofList (trimBy (· == ' ') (spelled metricType groups))) := by
  have hnames : ∀ g ∈ groups, g.key ≠ "AND" ∧ g.operator ≠ "AND" :=
    fun g hg => ⟨(hplain g hg).key_ne, (hplain g hg).operator_ne⟩
  have hbuild : build metricType (joined groups false) = _ :=
    build_joined metricType hnames nofun
  rwa [joined, if_neg (by decide), List.append_nil] at hbuild

theorem trimBy_spelled (metricType : String) (hwords : ∀ g ∈ groups, g.value ≠ "AND") :
    trimBy (· == ' ') (spelled metricType groups) = spelled metricType groups := by
  refine trimBy_eq_self ?_ ?_
  · intro c hc
    exact ne_blank_of_head?_start hc
  · have hlast : (spelled metricType groups).getLast? ≠ some ' ' := by
      rcases List.eq_nil_or_concat' groups with rfl | ⟨earlier, g, rfl⟩
      · rw [spelled, List.flatMap_nil, List.append_nil, start_eq_concat, List.getLast?_concat]
        decide
      · have hg := Group.written_eq_clause (hwords g (by simp))
        rw [spelled, List.flatMap_append, List.flatMap_singleton, hg, Group.clause]
        have hend := g.quoting.getLast?_text (start metricType ++
          (earlier.flatMap (fun g => ' ' :: g.written) ++ ' ' :: (g.key.toList ++ g.relation)))
        simpa using hend
    intro c hc
    rw [hc] at hlast
    simpa using hlast

/-! ### Literals -/

/-- The literals from one on, which has been opened; `inside` and `closing` are its text and what
belongs to it after the closing quote. -/
def literalsFrom (inside closing : List Char) : List Group → List Literal
  | [] => [⟨inside, closing⟩]
  | g :: groups =>
    ⟨inside, closing ++ ' ' :: (g.key.toList ++ g.relation ++ g.quoting.opening)⟩ ::
      literalsFrom g.quoting.inside g.quoting.closing groups

/-- There is one more literal for each group. -/
theorem inside_literalsFrom (inside closing : List Char) (groups : List Group) :
    (literalsFrom inside closing groups).map Literal.inside =
      inside :: groups.map fun g => g.quoting.inside := by
  induction groups generalizing inside closing with
  | nil => rfl
  | cons g groups ih => rw [literalsFrom, List.map_cons, ih, List.map_cons]

theorem spelling_literalsFrom (inside closing : List Char) (groups : List Group) :
    (literalsFrom inside closing groups).flatMap Literal.spelling =
      '"' :: inside ++ '"' :: closing ++ groups.flatMap fun g => ' ' :: g.clause := by
  induction groups generalizing inside closing with
  | nil => simp [literalsFrom, Literal.spelling]
  | cons g groups ih =>
    rw [literalsFrom, List.flatMap_cons, ih]
    simp [Literal.spelling, Group.clause, Quoting.text]

theorem apart_literalsFrom (hplain : ∀ g ∈ groups, g.IsPlain) {before closing : List Char}
    (hbefore : '"' ∉ before) (inside : List Char) (hclosing : '"' ∉ closing) :
    Apart before (literalsFrom inside closing groups) ↔
      isSealed inside = true ∧ ∀ g ∈ groups, isSealed g.quoting.inside = true := by
  induction groups generalizing before inside closing with
  | nil => simp [literalsFrom, Apart, hbefore, hclosing]
  | cons g groups ih =>
    have hg := hplain g List.mem_cons_self
    have hafter : '"' ∉ closing ++ ' ' :: (g.key.toList ++ g.relation ++ g.quoting.opening) := by
      simp [hclosing, hg.key, Group.relation_plain hg, g.quoting.opening_plain]
    have hrest : ∀ k ∈ groups, k.IsPlain := fun k hk => hplain k (List.mem_cons_of_mem _ hk)
    rw [literalsFrom, apart_cons, ih hrest hafter _ g.quoting.closing_plain, List.forall_mem_cons]
    simp [hbefore]

/-- The literal of the metric type and those of the groups, as they should be read. -/
def literals (metricType : String) (groups : List Group) : List Literal :=
  literalsFrom metricType.toList [] groups

theorem spelling_literals (metricType : String) (groups : List Group) :
    "metric.type=".toList ++ (literals metricType groups).flatMap Literal.spelling =
      start metricType ++ groups.flatMap fun g => ' ' :: g.clause := by
  rw [literals, spelling_literalsFrom, start_eq_concat]
  simp only [List.append_assoc, List.cons_append, List.nil_append]

theorem length_written_flatMap_le (groups : List Group) :
    (groups.flatMap fun g => ' ' :: g.written).length ≤
      (groups.flatMap fun g => ' ' :: g.clause).length := by
  induction groups with
  | nil => exact Nat.le_refl _
  | cons g groups ih =>
    have hg := g.length_written_le
    simp only [List.flatMap_cons, List.length_append, List.length_cons]
    omega

/-- A value that is the joining word leaves the text too short for all of the literals. -/
theorem value_ne_of_length_le {groups : List Group}
    (h : (groups.flatMap fun g => ' ' :: g.clause).length ≤
      (groups.flatMap fun g => ' ' :: g.written).length) : ∀ g ∈ groups, g.value ≠ "AND" := by
  induction groups with
  | nil => simp
  | cons g groups ih =>
    have hg := g.length_written_le
    have hrest := length_written_flatMap_le groups
    simp only [List.flatMap_cons, List.length_append, List.length_cons] at h
    refine List.forall_mem_cons.mpr ⟨fun hword => ?_, ih (by omega)⟩
    have hshort := Group.length_written_lt hword
    omega

/-- A filter expression is read with one literal for the metric type and one for each group, each of
which ends where its clause does, iff all of them are sealed and no value is the joining word. -/
theorem literals?_build_iff (metricType : String) (hplain : ∀ g ∈ groups, g.IsPlain) :
    (literals metricType groups).map Literal.inside =
      metricType.toList :: groups.map (fun g => g.quoting.inside) ∧
    ∃ text, build metricType (tokens groups) = .ok text ∧
      (literals? text.toList = some ("metric.type=".toList, literals metricType groups) ↔
        isSealed metricType.toList = true ∧
          ∀ g ∈ groups, g.value ≠ "AND" ∧ isSealed g.quoting.inside = true) := by
  refine ⟨inside_literalsFrom .., _, build_tokens metricType hplain, ?_⟩
  have hapart := apart_literalsFrom hplain (show '"' ∉ "metric.type=".toList by decide)
    metricType.toList (show '"' ∉ [] by decide)
  rw [String.toList_ofList, literals?_eq_some_iff, spelling_literals, literals, hapart]
  constructor
  · rintro ⟨htext, hmetric, hsealed⟩
    have hlength := length_trimBy_le (· == ' ') (spelled metricType groups)
    rw [htext, spelled, List.length_append, List.length_append] at hlength
    have hwords := value_ne_of_length_le (Nat.le_of_add_le_add_left hlength)
    exact ⟨hmetric, fun g hg => ⟨hwords g hg, hsealed g hg⟩⟩
  · rintro ⟨hmetric, hgroups⟩
    have hwords : ∀ g ∈ groups, g.value ≠ "AND" := fun g hg => (hgroups g hg).1
    have hclauses : (groups.flatMap fun g => ' ' :: g.written) =
        groups.flatMap fun g => ' ' :: g.clause :=
      List.flatMap_congr fun g hg => by rw [Group.written_eq_clause (hwords g hg)]
    refine ⟨?_, hmetric, fun g hg => (hgroups g hg).2⟩
    rw [trimBy_spelled metricType hwords, spelled, hclauses]

theorem literals?_build_iff_zone :
    ∃ text, build "m" (tokens [⟨"zone", "=", "us-*"⟩, ⟨"host", "!=~", "a.\\\"b"⟩]) = .ok text ∧
      literals? text.toList = some ("metric.type=".toList,
        [⟨"m".toList, " zone=starts_with(".toList⟩,
          ⟨"us-".toList, ") host!=monitoring.regex.full_match(".toList⟩,
          ⟨"a.\\\"b".toList, ")".toList⟩]) := by
  have hplain : ∀ g ∈ [(⟨"zone", "=", "us-*"⟩ : Group), ⟨"host", "!=~", "a.\\\"b"⟩], g.IsPlain := by
    intro g hg
    simp only [List.mem_cons, List.not_mem_nil, or_false] at hg
    rcases hg with rfl | rfl
    · exact ⟨by decide, by decide, by decide, by decide⟩
    · exact ⟨by decide, by decide, by decide, by decide⟩
  obtain ⟨-, text, hbuild, hread⟩ := literals?_build_iff "m" hplain
  exact ⟨text, hbuild, hread.mpr (by decide)⟩

/-- A quote in a value ends its literal, also where a pattern escapes it, and the joining word as a
value has no literal. -/
theorem literals?_build_broken :
    (∃ text, build "m" (tokens [⟨"k", "=", "a\"b"⟩]) = .ok text ∧ literals? text.toList = none) ∧
    (∃ text, build "m" (tokens [⟨"k", "=", "a*b\"c"⟩]) = .ok text ∧
      literals? text.toList = none) ∧
    ∃ text, build "m" (tokens [⟨"k", "=", "AND"⟩]) = .ok text ∧
      literals? text.toList = some ("metric.type=".toList, [⟨"m".toList, " k=".toList⟩]) := by
  refine ⟨⟨_, rfl, ?_⟩, ⟨_, rfl, ?_⟩, ⟨_, rfl, ?_⟩⟩
  · decide
  · decide
  · decide

end Filter
end MetricFrames
