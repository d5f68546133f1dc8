import MetricFrames.Command.Running
import MetricFrames.Proofs.Files.Problems

/-!
# Commands that load files

A command reads settings, if it takes some, and then a batch. It reports the expected problems with
these files, and no others, as errors of loading; what is not expected ends it with a fault
(`orLoad_eq_error_iff`). What is not expected is known exactly (`load_outcome`).
-/

namespace MetricFrames.Command

variable {files : FileSet} {batch : String} {settings : Option String} {stop : Stop}

/-- The problems with the files of a command; the settings are read first. -/
def Fails (files : FileSet) (batch : String) (settings : Option String) (p : LoadProblem) : Prop :=
  match settings with
  | none => Batch.load files batch = .error p
  | some path => Settings.load files path = .error p ∨
      ∃ s, Settings.load files path = .ok s ∧ Batch.load files batch s = .error p

/-- How a command ends for a problem with its files. -/
inductive Ends (p : LoadProblem) : Stop → Prop
  | reported (expected : p.IsExpected) : Ends p (.problem "Error loading batch" p.message)
  | fault {f : Fault} (unexpected : ¬ p.IsExpected) (behind : p.fault? = some f) : Ends p (.fault f)

theorem exists_ends {α : Type} (p : LoadProblem) :
    ∃ stop, orLoad (.error p : Except LoadProblem α) = .error stop ∧ Ends p stop := by
  cases p with
  | notFound file => exact ⟨_, rfl, .reported (.inl rfl)⟩
  | noFile f => exact ⟨_, rfl, .fault (LoadProblem.not_isExpected_noFile f) rfl⟩
  | notIterable f => exact ⟨_, rfl, .fault (LoadProblem.not_isExpected_notIterable f) rfl⟩
  | unread f =>
    by_cases hf : f.category = .value
    · exact ⟨.problem "Error loading batch" f.message,
        by simp only [orLoad, Except.mapError, if_pos hf],
        .reported (LoadProblem.isExpected_unread_iff.mpr hf)⟩
    · have hunexpected := mt LoadProblem.isExpected_unread_iff.mp hf
      exact ⟨.fault f, by simp only [orLoad, Except.mapError, if_neg hf], .fault hunexpected rfl⟩
  | _ => exact ⟨_, rfl, .reported (.inr rfl)⟩

theorem Ends.unique {p : LoadProblem} {other : Stop} (h : Ends p stop) (h' : Ends p other) :
    stop = other := by
  cases h with
  | reported hp =>
    cases h' with
    | reported => rfl
    | fault hp' => exact absurd hp hp'
  | fault hp hf =>
    cases h' with
    | reported hp' => exact absurd hp' hp
    | fault _ hf' => exact congrArg Stop.fault (Option.some.inj (hf.symm.trans hf'))

/-- A problem with a file is reported if it is expected, and else leaves its fault. -/
theorem orLoad_eq_error_iff {α : Type} {e : Except LoadProblem α} :
    orLoad e = .error stop ↔ ∃ p, e = .error p ∧ Ends p stop := by
  cases e with
  | ok a => exact iff_of_false (by rintro ⟨⟩) (by rintro ⟨p, ⟨⟩, -⟩)
  | error p =>
    obtain ⟨other, hother, hends⟩ := exists_ends (α := α) p
    rw [hother]
    constructor
    · rintro ⟨⟩
      exact ⟨p, rfl, hends⟩
    · rintro ⟨_, ⟨⟩, h⟩
      rw [hends.unique h]

theorem orLoad_eq_ok_iff {α : Type} {e : Except LoadProblem α} {a : α} :
    orLoad e = .ok a ↔ e = .ok a := mapError_eq_ok_iff

/-- Whether a path holds the character that ends paths. -/
def HasNull (path : String) : Prop := path.contains (Char.ofNat 0) = true

theorem checkPath_cases (path : String) :
    HasNull path ∧ checkPath path = .error (.fault .nullInPath) ∨
      ¬ HasNull path ∧ checkPath path = .ok () := by
  rw [checkPath, HasNull]
  cases path.contains (Char.ofNat 0) <;> simp

/-- Reads the files of a command, whatever their paths are. -/
def loadUnchecked (files : FileSet) (batch : String) (settings : Option String) : Step Batch :=
  match settings with
  | none => orLoad (Batch.load files batch)
  | some path => orLoad (Settings.load files path) >>= fun s => orLoad (Batch.load files batch s)

theorem loadUnchecked_eq_error_iff : loadUnchecked files batch settings = .error stop ↔
    ∃ p, Fails files batch settings p ∧ Ends p stop := by
  cases settings with
  | none => exact orLoad_eq_error_iff
  | some path =>
    rw [loadUnchecked, bind_eq_error_iff, orLoad_eq_error_iff]
    simp only [orLoad_eq_error_iff, orLoad_eq_ok_iff, Fails]
    constructor
    · rintro (⟨p, h, hends⟩ | ⟨s, hs, p, h, hends⟩)
      · exact ⟨p, .inl h, hends⟩
      · exact ⟨p, .inr ⟨s, hs, h⟩, hends⟩
    · rintro ⟨p, h | ⟨s, hs, h⟩, hends⟩
      · exact .inl ⟨p, h, hends⟩
      · exact .inr ⟨s, hs, p, h, hends⟩

theorem load_eq (files : FileSet) (batch : String) (settings : Option String) :
    load files batch settings = checkPath batch >>= fun _ => settings.forM checkPath >>= fun _ =>
      loadUnchecked files batch settings := by
  cases settings <;> rfl

/-- The paths are looked at before the files are read. -/
theorem load_cases (files : FileSet) (batch : String) (settings : Option String) :
    (∃ path ∈ batch :: settings.toList, HasNull path) ∧
        load files batch settings = .error (.fault .nullInPath) ∨
      (∀ path ∈ batch :: settings.toList, ¬ HasNull path) ∧
        load files batch settings = loadUnchecked files batch settings := by
  rw [load_eq]
  generalize loadUnchecked files batch settings = unchecked
  rcases checkPath_cases batch with ⟨hbatch, hcheck⟩ | ⟨hbatch, hcheck⟩
  · rw [hcheck]
    exact .inl ⟨⟨batch, List.mem_cons_self, hbatch⟩, rfl⟩
  · rw [hcheck]
    cases settings with
    | none => exact .inr ⟨List.forall_mem_singleton.mpr hbatch, rfl⟩
    | some path =>
      have hforM : (some path).forM checkPath = checkPath path := rfl
      rw [hforM]
      rcases checkPath_cases path with ⟨hpath, hcheck⟩ | ⟨hpath, hcheck⟩
      · rw [hcheck]
        exact .inl ⟨⟨path, List.mem_cons_of_mem batch (List.mem_singleton_self path), hpath⟩, rfl⟩
      · rw [hcheck]
        exact .inr ⟨List.forall_mem_cons.mpr ⟨hbatch, List.forall_mem_singleton.mpr hpath⟩, rfl⟩

/-- Whatever the readers of their formats do, files end in a problem that is not expected exactly by
a path that names no file, by a reader that ends in a fault which is not that of a value, and for a
batch by a single value where the queries should be. A command reports all other problems, and only
them, as errors of loading. -/
theorem load_outcome (files : FileSet) (batch : String) (settings : Option String) :
    (∀ path p, Settings.load files path = .error p ∧ ¬ p.IsExpected ↔
      files.Upsets (FileSet.plainPath path) p) ∧
    (∀ path s p, Batch.load files path s = .error p ∧ ¬ p.IsExpected ↔
      Batch.Upsets files (FileSet.plainPath path) p) ∧
    ∀ stop, load files batch settings = .error stop ↔
      (∃ path ∈ batch :: settings.toList, HasNull path) ∧ stop = .fault .nullInPath ∨
      (∀ path ∈ batch :: settings.toList, ¬ HasNull path) ∧
        ∃ p, Fails files batch settings p ∧ Ends p stop := by
  refine ⟨fun _ _ => Settings.unexpected_iff, fun _ _ _ => Batch.unexpected_iff, fun stop => ?_⟩
  rcases load_cases files batch settings with ⟨hnull, hload⟩ | ⟨hnull, hload⟩
  · have hnot : ¬ ∀ path ∈ batch :: settings.toList, ¬ HasNull path := by
      obtain ⟨path, hmem, hpath⟩ := hnull
      exact fun h => h path hmem hpath
    rw [hload, and_iff_right hnull, or_iff_left (fun h => hnot h.1), Except.error.injEq, eq_comm]
  · have hnot : ¬ ∃ path ∈ batch :: settings.toList, HasNull path := by
      rintro ⟨path, hmem, hpath⟩
      exact hnull path hmem hpath
    rw [hload, loadUnchecked_eq_error_iff, and_iff_right hnull, or_iff_right (fun h => hnot h.1)]

/-- A file with a batch over no time, with a text in the place of its queries. -/
def batchFile (queries : String) : FileSet where
  files :=
    [("batch.json", "\x7b\"range\":\x7b\"from\":0,\"to\":0\x7d,\"queries\":" ++ queries ++ "\x7d")]

/-- A batch with a number or a flag for its queries is neither loaded nor reported. -/
theorem load_upset :
    Batch.load (batchFile "5") "batch.json" = .error (.notIterable (.notIterable "int")) ∧
    Batch.load (batchFile "true") "batch.json" = .error (.notIterable (.notIterable "bool")) ∧
    (∀ f, ¬ (LoadProblem.notIterable f).IsExpected) ∧
    load (batchFile "5") "batch.json" none = .error (.fault (.notIterable "int")) ∧
    load (batchFile "true") "batch.json" none = .error (.fault (.notIterable "bool")) := by
  have hread {queries : String} {p : LoadProblem}
      (h : (Batch.load (batchFile queries) "batch.json").map (fun _ => ()) = .error p) :
      Batch.load (batchFile queries) "batch.json" = .error p := map_eq_error_iff.mp h
  have hcommand {queries : String} {f : Fault}
      (h : Batch.load (batchFile queries) "batch.json" = .error (.notIterable f)) :
      load (batchFile queries) "batch.json" none = .error (.fault f) := by
    have hpath : checkPath "batch.json" = .ok () := by simp [checkPath]
    rw [load_eq, hpath, loadUnchecked, h]
    rfl
  have hnumber : Batch.load (batchFile "5") "batch.json" =
      .error (.notIterable (.notIterable "int")) := hread (by decide +kernel)
  have hflag : Batch.load (batchFile "true") "batch.json" =
      .error (.notIterable (.notIterable "bool")) := hread (by decide +kernel)
  exact ⟨hnumber, hflag, LoadProblem.not_isExpected_notIterable, hcommand hnumber, hcommand hflag⟩

end MetricFrames.Command
