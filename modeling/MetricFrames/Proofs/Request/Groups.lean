import MetricFrames.Proofs.Request.Literals

/-!
# The groups of a filter

A filter expression is written from left to right into one text, and the tilde of a matching
operator is taken out of that text when the value follows. What comes out is the clause of the
metric type and, after a blank each, the key, the sign and the term of every group
(`build_structure`): whatever the tokens hold, the joining word aside, the tilde that goes is that
of the operator, and the ends that are trimmed are the blanks around the groups.
-/

namespace MetricFrames.Filter

open Text

/-- None of the three tokens of a group is the word that joins groups. -/
structure Group.AvoidsWord (g : Group) : Prop where
  key : g.key ≠ "AND"
  operator : g.operator ≠ "AND"
  value : g.value ≠ "AND"

namespace Group

variable {g : Group}

/-- The operator of a group in the filter language; a matching one loses its tilde. -/
def sign (g : Group) : List Char :=
  if g.operator = "=~" ∨ g.operator = "!=~" then g.operator.toList.dropLast else g.operator.toList

/-- The value of a group in the filter language. -/
def term (g : Group) : List Char :=
  if g.operator = "=~" ∨ g.operator = "!=~" then
    "monitoring.regex.full_match(\"".toList ++ g.value.toList ++ "\")".toList
  else if '*' ∈ g.value.toList then Wildcard.interpolate g.value.toList
  else '"' :: g.value.toList ++ ['"']

theorem isMatching_iff : isMatching g.operator = true ↔ g.operator = "=~" ∨ g.operator = "!=~" := by
  rw [isMatching, Bool.or_eq_true, beq_iff_eq, beq_iff_eq]

theorem relation_eq_sign (g : Group) : g.relation = g.sign := by
  rw [relation, sign]
  by_cases hmatching : g.operator = "=~" ∨ g.operator = "!=~"
  · rw [if_pos hmatching, if_pos (isMatching_iff.mpr hmatching)]
    rcases hmatching with hmatch | hdiffer
    · rw [hmatch]
      rfl
    · rw [hdiffer]
      rfl
  · rw [if_neg hmatching, if_neg (isMatching_iff.not.mpr hmatching)]

theorem quoting_eq_term (g : Group) : g.quoting.text = g.term := by
  rw [quoting, term]
  by_cases hmatching : g.operator = "=~" ∨ g.operator = "!=~"
  · rw [if_pos hmatching, if_pos (isMatching_iff.mpr hmatching), Quoting.text_call, Wildcard.call]
    simp
  · rw [if_neg hmatching, if_neg (isMatching_iff.not.mpr hmatching), Quoting.text_ofValue,
      valueText]
    simp only [List.contains_iff_mem, literal]

theorem written_eq (h : g.AvoidsWord) : g.written = g.key.toList ++ g.sign ++ g.term := by
  rw [written_eq_clause h.value, clause, relation_eq_sign, quoting_eq_term]

end Group

/-- A filter expression is the clause of its metric type followed by those of its groups, and a list
of tokens that leaves a group without an operator or a value is refused. -/
theorem build_structure (metricType : String) :
    (∀ (groups : List Group) (closed : Bool), (∀ g ∈ groups, g.AvoidsWord) →
      (closed = true → groups ≠ []) →
      build metricType (joined groups closed) =
        .ok (String.ofList ("metric.type=\"".toList ++ metricType.toList ++ ['"'] ++
          groups.flatMap fun g => ' ' :: (g.key.toList ++ g.sign ++ g.term)))) ∧
    ∀ ts : List String, ts.length % 4 = 1 ∨ ts.length % 4 = 2 →
      build metricType ts = .error ⟨ts⟩ := by
  constructor
  · intro groups closed havoids hclosed
    have hnames : ∀ g ∈ groups, g.key ≠ "AND" ∧ g.operator ≠ "AND" :=
      fun g hg => ⟨(havoids g hg).key, (havoids g hg).operator⟩
    have hclauses : (groups.flatMap fun g => ' ' :: g.written) =
        groups.flatMap fun g => ' ' :: (g.key.toList ++ g.sign ++ g.term) :=
      List.flatMap_congr fun g hg => by rw [Group.written_eq (havoids g hg)]
    have hwords : ∀ g ∈ groups, g.value ≠ "AND" := fun g hg => (havoids g hg).value
    rw [build_joined metricType hnames hclosed, trimBy_spelled metricType hwords, spelled, hclauses,
      start_eq_concat]
    rfl
  · intro ts hlength
    have hsome : ts ≠ [] := by
      rintro rfl
      simp at hlength
    rw [build, if_pos ⟨hsome, by omega, by omega⟩]

/-- Tokens full of tildes, stars and blanks at the ends. -/
theorem build_structure_tildes :
    build "~m " ["a~*", "=~", " b~", "AND", "~", "!=", "c~*d", "AND", "k", "!=~", " ", "AND"] =
      .ok ("metric.type=\"~m \" a~*=monitoring.regex.full_match(\" b~\") " ++
        "~!=monitoring.regex.full_match(\"^c~.*d$\") k!=monitoring.regex.full_match(\" \")") ∧
    build "~m " ["a", "=~"] = .error ⟨["a", "=~"]⟩ := by
  have havoids : ∀ g ∈ [(⟨"a~*", "=~", " b~"⟩ : Group), ⟨"~", "!=", "c~*d"⟩, ⟨"k", "!=~", " "⟩],
      g.AvoidsWord := by
    intro g hg
    simp only [List.mem_cons, List.not_mem_nil, or_false] at hg
    rcases hg with rfl | rfl | rfl
    · exact ⟨by decide, by decide, by decide⟩
    · exact ⟨by decide, by decide, by decide⟩
    · exact ⟨by decide, by decide, by decide⟩
  obtain ⟨hbuild, hrefuse⟩ := build_structure "~m "
  refine ⟨?_, hrefuse _ (.inr rfl)⟩
  exact (hbuild _ true havoids (by decide)).trans (by decide +kernel)

end MetricFrames.Filter
