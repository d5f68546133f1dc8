import MetricFrames.Decode.Scalar
import Mathlib.Data.List.Nodup

/-!
# Names of fields

A field may be given under its name on the wire or under its plain name. Members that use plain
names are decoded as the same members under their names on the wire: to the same values, or with the
same problems up to the names in their paths. It takes that no field is given under both names.
-/

namespace MetricFrames

namespace FieldName

instance : DecidableEq FieldName := fun f g =>
  decidable_of_iff (f.wire = g.wire ∧ f.plain = g.plain) (by cases f; cases g; simp)

/-- The name on the wire of the field with a plain name. Other names stay as they are. -/
def wireOf (fs : List FieldName) (name : String) : String :=
  match fs.find? fun f => f.plain == name with
  | some f => f.wire
  | none => name

/-- No two fields share a name, and no plain name is the index of an item. -/
structure Unambiguous (fs : List FieldName) : Prop where
  plain_eq_iff : ∀ f ∈ fs, ∀ g ∈ fs, f.plain = g.plain ↔ f.wire = g.wire
  wire_eq_of_plain_eq : ∀ f ∈ fs, ∀ g ∈ fs, f.plain = g.wire → f.wire = g.wire
  exists_letter : ∀ f ∈ fs, ∃ c ∈ f.plain.toList, c.isDigit = false

variable {fs : List FieldName} {f : FieldName} {name : String}

theorem wireOf_cases (fs : List FieldName) (name : String) :
    (∃ f ∈ fs, f.plain = name ∧ wireOf fs name = f.wire) ∨
      (∀ f ∈ fs, f.plain ≠ name) ∧ wireOf fs name = name := by
  cases hfind : fs.find? fun f => f.plain == name with
  | some f =>
    refine .inl ⟨f, List.mem_of_find?_eq_some hfind, ?_, by rw [wireOf, hfind]⟩
    have hplain := List.find?_some hfind
    exact beq_iff_eq.mp hplain
  | none =>
    refine .inr ⟨fun f hf hname => ?_, by rw [wireOf, hfind]⟩
    exact List.find?_eq_none.mp hfind f hf (beq_iff_eq.mpr hname)

namespace Unambiguous

variable (h : Unambiguous fs)

include h

theorem wireOf_plain (hf : f ∈ fs) : wireOf fs f.plain = f.wire := by
  rcases wireOf_cases fs f.plain with ⟨g, hg, hplain, hwire⟩ | ⟨hnone, -⟩
  · rw [hwire]
    exact (h.plain_eq_iff g hg f hf).mp hplain
  · exact absurd rfl (hnone f hf)

theorem wireOf_wire (hf : f ∈ fs) : wireOf fs f.wire = f.wire := by
  rcases wireOf_cases fs f.wire with ⟨g, hg, hplain, hwire⟩ | ⟨-, hsame⟩
  · rw [hwire]
    exact h.wire_eq_of_plain_eq g hg f hf hplain
  · exact hsame

/-- Only the two names of a field become its name on the wire. -/
theorem eq_of_wireOf_eq (hf : f ∈ fs) (hname : wireOf fs name = f.wire) :
    name = f.wire ∨ name = f.plain := by
  rcases wireOf_cases fs name with ⟨g, hg, hplain, hwire⟩ | ⟨-, hsame⟩
  · have hgf : g.wire = f.wire := hwire.symm.trans hname
    exact .inr (hplain.symm.trans ((h.plain_eq_iff g hg f hf).mpr hgf))
  · exact .inl (hsame.symm.trans hname)

/-- No name becomes a plain name, unless that is the name on the wire as well. -/
theorem wire_eq_plain_of_wireOf_eq (hf : f ∈ fs) (hname : wireOf fs name = f.plain) :
    f.wire = f.plain := by
  rcases wireOf_cases fs name with ⟨g, hg, -, hwire⟩ | ⟨hnone, hsame⟩
  · have hgf : f.plain = g.wire := (hwire.symm.trans hname).symm
    rw [hgf]
    exact h.wire_eq_of_plain_eq f hf g hg hgf
  · exact absurd (hname.symm.trans hsame) (hnone f hf)

theorem wireOf_index (i : Nat) : wireOf fs (toString i) = toString i := by
  rcases wireOf_cases fs (toString i) with ⟨f, hf, hplain, -⟩ | ⟨-, hsame⟩
  · obtain ⟨c, hc, hletter⟩ := h.exists_letter f hf
    rw [hplain, Nat.toString_eq_ofList_toDigits, String.toList_ofList] at hc
    rw [Nat.isDigit_of_mem_toDigits (by decide) (by decide) hc] at hletter
    cases hletter
  · exact hsame

end Unambiguous
end FieldName

open FieldName

/-! ### Members under their names on the wire -/

variable {α β : Type} {fs : List FieldName} {f : FieldName} {ms : Members Data} {d : Data}
  {change : String → Data → Data}

/-- No name occurs twice. -/
def Members.Distinct {α : Type} (ms : Members α) : Prop := (ms.map (·.1)).Nodup

instance {α : Type} (ms : Members α) : Decidable ms.Distinct :=
  inferInstanceAs (Decidable (ms.map (·.1)).Nodup)

/-- Members under their names on the wire, with a change to the values. -/
def Members.onWire (fs : List FieldName) (change : String → Data → Data) (ms : Members Data) :
    Members Data :=
  ms.map fun m => (wireOf fs m.1, change (wireOf fs m.1) m.2)

theorem Members.mem_of_get? {α : Type} {ms : Members α} {name : String} {a : α}
    (h : ms.get? name = some a) : (name, a) ∈ ms := by
  obtain ⟨m, hm, rfl⟩ := Option.map_eq_some_iff.mp h
  have hname := List.find?_some hm
  rw [← beq_iff_eq.mp hname]
  exact List.mem_of_find?_eq_some hm

/-- A value with its members, if it has any, under their names on the wire. -/
def Data.onWire (fs : List FieldName) : Data → Data
  | .object ms => .object (Members.onWire fs (fun _ d => d) ms)
  | .mapping ms => .mapping (ms.map fun
    | (.text name, d) => (.text (wireOf fs name), d)
    | entry => entry)
  | d => d

theorem Data.members?_onWire (fs : List FieldName) (d : Data) :
    (d.onWire fs).members? = d.members?.map (Members.onWire fs fun _ d => d) := by
  cases d with
  | mapping ms =>
    simp only [Data.onWire, Data.members?, Option.map_some, Members.onWire, List.filterMap_map,
      List.map_filterMap]
    congr 2
    funext entry
    obtain ⟨key, d⟩ := entry
    cases key <;> rfl
  | _ => rfl

namespace FieldName

theorem exists_of_find? {m : String × Data} (h : f.find? ms = some m) :
    (m.1 = f.wire ∨ m.1 = f.plain) ∧ ms.get? m.1 = some m.2 := by
  rw [find?] at h
  split at h
  · next d hd =>
    cases h
    exact ⟨.inl rfl, hd⟩
  · rw [Option.map_eq_some_iff] at h
    obtain ⟨d, hd, rfl⟩ := h
    exact ⟨.inr rfl, hd⟩

theorem find?_cons_of_ne {m : String × Data} (hwire : m.1 ≠ f.wire) (hplain : m.1 ≠ f.plain) :
    f.find? (m :: ms) = f.find? ms := by
  rw [find?, find?, Members.get?_cons, Members.get?_cons, if_neg hwire, if_neg hplain]

/-- A field is found under its name on the wire, whichever of its names it had. -/
theorem get?_wire_onWire (h : Unambiguous fs) (hf : f ∈ fs)
    (hms : (ms.onWire fs change).Distinct) :
    (ms.onWire fs change).get? f.wire = (f.find? ms).map fun m => change f.wire m.2 := by
  induction ms with
  | nil => rfl
  | cons m ms ih =>
    obtain ⟨hnew, hrest⟩ := List.nodup_cons.mp hms
    have hcons : (Members.onWire fs change (m :: ms)).get? f.wire =
        if wireOf fs m.1 = f.wire then some (change (wireOf fs m.1) m.2)
        else (Members.onWire fs change ms).get? f.wire := Members.get?_cons ..
    rw [hcons]
    by_cases hm : wireOf fs m.1 = f.wire
    · rw [if_pos hm, hm, find?, Members.get?_cons]
      by_cases hwire : m.1 = f.wire
      · rw [if_pos hwire]
        rfl
      · -- The other name of the field does not occur as well.
        have hplain : m.1 = f.plain := (h.eq_of_wireOf_eq hf hm).resolve_left hwire
        have habsent : Members.get? f.wire ms = none := by
          by_contra hsome
          obtain ⟨d, hd⟩ := Option.ne_none_iff_exists'.mp hsome
          have hmem : wireOf fs f.wire ∈ (Members.onWire fs change ms).map (·.1) := by
            rw [Members.onWire, List.map_map]
            exact List.mem_map_of_mem (f := fun m : String × Data => wireOf fs m.1)
              (Members.mem_of_get? hd)
          rw [h.wireOf_wire hf, ← hm] at hmem
          exact hnew hmem
        rw [if_neg hwire, habsent, Members.get?_cons, if_pos hplain]
        rfl
    · have hwire : m.1 ≠ f.wire := fun hw => hm (by rw [hw, h.wireOf_wire hf])
      have hplain : m.1 ≠ f.plain := fun hp => hm (by rw [hp, h.wireOf_plain hf])
      rw [if_neg hm, find?_cons_of_ne hwire hplain, ih hrest]

theorem get?_plain_onWire (h : Unambiguous fs) (hf : f ∈ fs) (hne : f.wire ≠ f.plain)
    (change : String → Data → Data) (ms : Members Data) :
    (ms.onWire fs change).get? f.plain = none := by
  by_contra hsome
  obtain ⟨d, hd⟩ := Option.ne_none_iff_exists'.mp hsome
  obtain ⟨m, -, hm⟩ := List.mem_map.mp (Members.mem_of_get? hd)
  exact hne (h.wire_eq_plain_of_wireOf_eq hf (congrArg Prod.fst hm))

theorem find?_onWire (h : Unambiguous fs) (hf : f ∈ fs) (hms : (ms.onWire fs change).Distinct) :
    f.find? (ms.onWire fs change) = (f.find? ms).map fun m => (f.wire, change f.wire m.2) := by
  have hwire := get?_wire_onWire h hf hms
  rw [find?, hwire]
  cases hfind : f.find? ms with
  | some m => rfl
  | none =>
    rw [hfind] at hwire
    by_cases hne : f.wire = f.plain
    · rw [← hne, hwire]
      rfl
    · rw [get?_plain_onWire h hf hne]
      rfl

end FieldName

/-! ### Problems with the names on the wire -/

/-- A problem with the names on the wire in its path. -/
def Problem.onWire (fs : List FieldName) (p : Problem) : Problem :=
  { p with path := p.path.map (wireOf fs) }

/-- A rejection with the names on the wire in all paths. -/
def Rejection.onWire (fs : List FieldName) (r : Rejection) : Rejection :=
  { r with problems := r.problems.map (Problem.onWire fs) }

namespace Checked

/-- A checked value with the names on the wire in the paths of its problems. -/
def onWire (fs : List FieldName) : Checked α → Checked α
  | .ok a => .ok a
  | .error ps => .error (ps.map (Problem.onWire fs))

theorem onWire_map (g : α → β) (c : Checked α) : (g <$> c).onWire fs = g <$> c.onWire fs := by
  cases c with
  | ok a => rfl
  | error ps => rfl

theorem onWire_seq (c : Checked (α → β)) (a : Checked α) :
    (c <*> a).onWire fs = c.onWire fs <*> a.onWire fs := by
  cases c with
  | ok g => cases a <;> rfl
  | error ps =>
    cases a with
    | ok a => rfl
    | error qs =>
      have happend : (ps ++ qs).map (Problem.onWire fs) =
          ps.map (Problem.onWire fs) ++ qs.map (Problem.onWire fs) := List.map_append
      exact congrArg Except.error happend

theorem onWire_below (name : String) (c : Checked α) :
    (c.below name).onWire fs = (c.onWire fs).below (wireOf fs name) := by
  cases c with
  | ok a => rfl
  | error ps =>
    simp only [below, onWire, List.map_map]
    rfl

theorem onWire_all (cs : List (Checked α)) :
    (all cs).onWire fs = all (cs.map (onWire fs)) := by
  induction cs with
  | nil => rfl
  | cons c cs ih => rw [all, onWire_seq, onWire_map, ih, List.map_cons, all]

theorem report_onWire (model : String) (c : Checked α) :
    (c.onWire fs).report model = (c.report model).mapError (Rejection.onWire fs) := by
  cases c with
  | ok a => rfl
  | error ps => rfl

end Checked

/-! ### Fields under either name -/

namespace Decoder

/-- The problems that a decoder finds hold none of the names. -/
def Nameless (fs : List FieldName) (value : Decoder α) : Prop :=
  ∀ d, (value d).onWire fs = value d

theorem nameless_text (fs : List FieldName) : Nameless fs text := by
  intro d
  cases d with
  | text t => rfl
  | _ => rfl

theorem Nameless.list (h : Unambiguous fs) {item : Decoder α} (hitem : Nameless fs item) :
    Nameless fs (list item) := by
  intro d
  cases d with
  | list items =>
    have hfixed : ∀ c ∈ items.mapIdx fun i d => (item d).below (toString i), c.onWire fs = c := by
      intro c hc
      obtain ⟨i, hi, rfl⟩ := List.mem_mapIdx.mp hc
      rw [Checked.onWire_below, h.wireOf_index, hitem]
    rw [Decoder.list, Checked.onWire_all, List.map_congr_left hfixed, List.map_id']
  | _ => rfl

theorem Nameless.nullAsEmpty {value : Decoder (List α)} (h : Nameless fs value) :
    Nameless fs (nullAsEmpty value) := by
  intro d
  cases d with
  | null => rfl
  | _ => exact h _

end Decoder

theorem FieldName.optional_onWire (h : Unambiguous fs) (hf : f ∈ fs)
    (hms : (ms.onWire fs change).Distinct) (fallback : α) {value : Decoder α}
    (hvalue : ∀ m, f.find? ms = some m → (value m.2).onWire fs = value (change f.wire m.2)) :
    f.optional fallback value (ms.onWire fs change) = (f.optional fallback value ms).onWire fs := by
  rw [optional, optional, find?_onWire h hf hms]
  cases hfind : f.find? ms with
  | none => rfl
  | some m =>
    have hname : wireOf fs m.1 = f.wire := by
      rcases (exists_of_find? hfind).1 with hm | hm
      · rw [hm, h.wireOf_wire hf]
      · rw [hm, h.wireOf_plain hf]
    simp only [Option.map_some, Checked.onWire_below, hname, hvalue m hfind]

/-- A field whose value keeps its names. -/
theorem FieldName.optional_onWire_of_nameless (h : Unambiguous fs) (hf : f ∈ fs)
    (hms : (ms.onWire fs change).Distinct) (fallback : α) {value : Decoder α}
    (hvalue : Decoder.Nameless fs value) (hchange : ∀ d, change f.wire d = d) :
    f.optional fallback value (ms.onWire fs change) = (f.optional fallback value ms).onWire fs := by
  refine optional_onWire h hf hms fallback fun m _ => ?_
  rw [hchange, hvalue]

/-- A record whose members all have different names on the wire. -/
theorem Decoder.record_onWire {fields : Members Data → Checked α}
    (hfields : ∀ ms, d.members? = some ms →
      fields (ms.onWire fs fun _ d => d) = (fields ms).onWire fs) :
    record fields (d.onWire fs) = (record fields d).onWire fs := by
  rw [record, record, Data.members?_onWire]
  cases hms : d.members? with
  | none => rfl
  | some ms => exact hfields ms hms

end MetricFrames
