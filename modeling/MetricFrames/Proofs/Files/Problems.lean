import MetricFrames.Files.Loading
import MetricFrames.Proofs.Data.Stepwise

/-!
# Problems with files

A missing file and wrong contents are expected problems. Any other problem is not: the path of a
directory, a path that is too long, a reader that ends in a fault which is not that of a value
(`FileSet.unexpected_iff`), and a single value where the queries of a batch should be
(`Batch.unexpected_iff`). The items of that value are taken without a look at what it is.
-/

namespace MetricFrames

/-- Whether a problem is that a file is missing, or that its contents are wrong. -/
def LoadProblem.IsExpected (p : LoadProblem) : Prop := p.category = .missing ∨ p.category = .value

theorem LoadProblem.not_isExpected_noFile (f : Fault) : ¬ (noFile f).IsExpected := by
  rintro (h | h) <;> cases h

theorem LoadProblem.not_isExpected_notIterable (f : Fault) : ¬ (notIterable f).IsExpected := by
  rintro (h | h) <;> cases h

theorem LoadProblem.isExpected_unread_iff {f : Fault} :
    (unread f).IsExpected ↔ f.category = .value := by
  by_cases hf : f.category = .value <;> simp [IsExpected, category, hf]

/-- The fault behind a problem. -/
def LoadProblem.fault? : LoadProblem → Option Fault
  | .unread f | .noFile f | .notIterable f => some f
  | _ => none

variable {files : FileSet} {file : String} {p : LoadProblem}

/-! ### Reading files -/

namespace FileSet

/-- How the loading of a file ends in a problem that is not expected. -/
inductive Upsets (files : FileSet) (file : String) : LoadProblem → Prop
  | directory (entry : files.entry file = .directory) :
      Upsets files file (.noFile (.isDirectory (String.ofList (Text.quoted file.toList))))
  | unnameable (entry : files.entry file = .unnameable) :
      Upsets files file (.noFile (.nameTooLong (String.ofList (Text.quoted file.toList))))
  | reader {text : String} {f : Fault} (entry : files.entry file = .file text)
      (fault : files.reader file (plainLines text.toList) = .error (.fault f))
      (other : f.category ≠ .value) : Upsets files file (.unread f)

/-- Of the ways not to read a file, only a fault that is not that of a value is not expected. -/
theorem unexpected_problemOf_iff {u : Unread} :
    (problemOf file u = p ∧ ¬ p.IsExpected) ↔
      ∃ f, u = .fault f ∧ f.category ≠ .value ∧ p = .unread f := by
  constructor
  · rintro ⟨rfl, hp⟩
    cases u with
    | malformed =>
      refine absurd (.inr ?_) hp
      rw [problemOf]
      split <;> rfl
    | value reason => exact absurd (.inr rfl) hp
    | fault f => exact ⟨f, rfl, mt LoadProblem.isExpected_unread_iff.mpr hp, rfl⟩
  · rintro ⟨f, rfl, hf, rfl⟩
    exact ⟨rfl, mt LoadProblem.isExpected_unread_iff.mp hf⟩

theorem unexpected_iff :
    (files.load file = .error p ∧ ¬ p.IsExpected) ↔ files.Upsets file p := by
  rw [load]
  constructor
  · rintro ⟨h, hp⟩
    split at h
    · next text hentry =>
      obtain ⟨u, hread, hproblem⟩ := mapError_eq_error_iff.mp h
      obtain ⟨f, rfl, hf, rfl⟩ := unexpected_problemOf_iff.mp ⟨hproblem, hp⟩
      exact .reader hentry hread hf
    · next hentry =>
      cases h
      exact .directory hentry
    · cases h
      exact absurd (.inl rfl) hp
    · next hentry =>
      cases h
      exact .unnameable hentry
  · rintro (hentry | hentry | ⟨hentry, hread, hf⟩)
    · rw [hentry]
      exact ⟨rfl, LoadProblem.not_isExpected_noFile _⟩
    · rw [hentry]
      exact ⟨rfl, LoadProblem.not_isExpected_noFile _⟩
    · rw [hentry]
      obtain ⟨hproblem, hp⟩ := unexpected_problemOf_iff.mpr ⟨_, rfl, hf, rfl⟩
      exact ⟨mapError_eq_error_iff.mpr ⟨_, hread, hproblem⟩, hp⟩

end FileSet

/-- If two steps end in a problem that is not expected, one of them does. -/
theorem unexpected_bind_iff {α β : Type} {step : Except LoadProblem α}
    {next : α → Except LoadProblem β} : (step >>= next = .error p ∧ ¬ p.IsExpected) ↔
      (step = .error p ∧ ¬ p.IsExpected) ∨
        ∃ a, step = .ok a ∧ next a = .error p ∧ ¬ p.IsExpected := by
  rw [bind_eq_error_iff, or_and_right, ← exists_and_right]
  simp only [and_assoc]

/-! ### Settings -/

theorem Settings.unexpected_iff {path : String} :
    (load files path = .error p ∧ ¬ p.IsExpected) ↔ files.Upsets (FileSet.plainPath path) p := by
  rw [load, unexpected_bind_iff, FileSet.unexpected_iff, or_iff_left_iff_imp]
  rintro ⟨d, -, h, hp⟩
  refine absurd ?_ hp
  split at h
  · cases h
    exact .inr rfl
  · split at h
    · cases h
    · cases h
      exact .inr rfl

/-! ### Batches -/

/-- Whether a value stands for a single one: it is no list, no text and no mapping. -/
def Data.IsSingle : Data → Prop
  | .list _ | .text _ | .object _ | .mapping _ => False
  | _ => True

namespace Batch

theorem itemsOf_eq_error_iff {d : Data} {f : Fault} :
    itemsOf d = .error f ↔ d.IsSingle ∧ f = .notIterable d.typeName := by
  cases d <;> simp [itemsOf, Data.IsSingle, eq_comm]

/-- The value that stands for the queries in a file. -/
def queriesIn (ms : Members Data) : Data := (ms.get? "queries").getD .null

/-- The range of time that is decoded from a file. -/
def rangeIn (ms : Members Data) : Except Rejection TimeRange :=
  (TimeRange.decoder (((ms.get? "range").getD .null).orElse (.object []))).report TimeRange.model

/-- How the loading of a batch ends in a problem that is not expected. -/
inductive Upsets (files : FileSet) (file : String) : LoadProblem → Prop
  | file {p : LoadProblem} (unread : files.Upsets file p) : Upsets files file p
  | queries {d : Data} {ms : Members Data} {range : TimeRange} (read : files.load file = .ok d)
      (members : d.members? = some ms) (decoded : rangeIn ms = .ok range)
      (given : (queriesIn ms).isGiven = true) (single : (queriesIn ms).IsSingle) :
      Upsets files file (.notIterable (.notIterable (queriesIn ms).typeName))

theorem isExpected_of_queriesOf {batch : Members Data} {range : TimeRange} :
    ∀ {ds : List Data} {position : Nat}, queriesOf file batch range position ds = .error p →
      p.IsExpected
  | [], _, h => by cases h
  | d :: ds, position, h => by
    rw [queriesOf] at h
    split at h
    · cases h
      exact .inr rfl
    · cases h
      exact .inr rfl
    · exact isExpected_of_queriesOf (eq_error_of_map_eq_error h)

theorem ofFile_eq (settings : Settings) (ms : Members Data) : ofFile file settings ms =
    if !(queriesIn ms).isGiven then .error (.noQueries file)
    else
      match rangeIn ms with
      | .error rejection => .error (.badRange file rejection)
      | .ok range =>
        match itemsOf (queriesIn ms) with
        | .error f => .error (.notIterable f)
        | .ok items => (queriesOf file ms range 0 items).map fun queries => ⟨settings, queries⟩ :=
  rfl

theorem unexpected_ofFile_iff {settings : Settings} {ms : Members Data} :
    (ofFile file settings ms = .error p ∧ ¬ p.IsExpected) ↔
      (∃ range, rangeIn ms = .ok range) ∧ (queriesIn ms).isGiven = true ∧
        (queriesIn ms).IsSingle ∧ p = .notIterable (.notIterable (queriesIn ms).typeName) := by
  rw [ofFile_eq]
  constructor
  · rintro ⟨h, hp⟩
    split at h
    · cases h
      exact absurd (.inr rfl) hp
    · next hgiven =>
      split at h
      · cases h
        exact absurd (.inr rfl) hp
      · next range hrange =>
        split at h
        · next hitems =>
          cases h
          obtain ⟨hsingle, rfl⟩ := itemsOf_eq_error_iff.mp hitems
          exact ⟨⟨range, hrange⟩, by simpa using hgiven, hsingle, rfl⟩
        · exact absurd (isExpected_of_queriesOf (eq_error_of_map_eq_error h)) hp
  · rintro ⟨⟨range, hrange⟩, hgiven, hsingle, rfl⟩
    rw [hgiven, hrange, itemsOf_eq_error_iff.mpr ⟨hsingle, rfl⟩]
    exact ⟨rfl, LoadProblem.not_isExpected_notIterable _⟩

theorem unexpected_iff {path : String} {settings : Settings} :
    (load files path settings = .error p ∧ ¬ p.IsExpected) ↔
      Upsets files (FileSet.plainPath path) p := by
  rw [load, unexpected_bind_iff, FileSet.unexpected_iff]
  constructor
  · rintro (h | ⟨d, hread, h⟩)
    · exact .file h
    · split at h
      · obtain ⟨⟨⟩, hp⟩ := h
        exact absurd (.inr rfl) hp
      · next ms hms =>
        obtain ⟨⟨range, hrange⟩, hgiven, hsingle, rfl⟩ := unexpected_ofFile_iff.mp h
        exact .queries hread hms hrange hgiven hsingle
  · rintro (h | ⟨hread, hms, hrange, hgiven, hsingle⟩)
    · exact .inl h
    · refine .inr ⟨_, hread, ?_⟩
      rw [hms]
      exact unexpected_ofFile_iff.mpr ⟨⟨_, hrange⟩, hgiven, hsingle, rfl⟩

end Batch
end MetricFrames
