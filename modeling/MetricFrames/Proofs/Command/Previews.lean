import MetricFrames.Command.Running
import MetricFrames.Proofs.Command.Named
import MetricFrames.Proofs.Service.Cancellation

/-!
# Previews and requests

With the settings of a query command at hand, the preview of a plan foretells the request that the
command sends first for that plan: the same method and path, and the same parameters or the same
body. The lines that are printed name it exactly if markup and the console leave the words of the
preview (`previews_foretell`). They may not, as the texts of a preview are not escaped before they
are taken for markup (`previews_alter_filter`).
-/

namespace MetricFrames

open Work

/-! ### Previews of plans -/

namespace QueryPlan

variable {p : QueryPlan} {i : Instance} {v : Preview} {m : Instance.Message}

theorem isRegular_preview {settings : Settings} (h : HasFixedNames p.params)
    (hv : p.preview settings = .ok v) : v.content.IsRegular := by
  rw [preview] at hv
  cases hshape : p.shape with
  | written query graphPeriod maxDataPoints =>
    rw [hshape] at hv
    obtain ⟨executed, -, hv⟩ := exists_of_bind_eq_ok hv
    cases hv
    exact .object (List.nodup_singleton _) fun m hm => by
      rw [List.mem_singleton.mp hm]
      exact .text executed
  | filter params groupBys =>
    rw [hshape] at hv
    cases hv
    exact h
  | objective params service slo selector =>
    rw [hshape] at hv
    cases hv
    exact h

theorem tells_seriesMessage (params : RequestParams) (project : String) :
    (Preview.Content.params params.items).Tells (seriesMessage project params "") := by
  refine ⟨rfl, params.sorted, ?_, fun name => (params.named_sorted name).symm⟩
  exact congrArg some (List.append_nil _)

/-- The project that a preview shows is the one that the plan runs in. -/
theorem display_ranIn (hd : i.settings.defaultProject.isGiven = true) (p : QueryPlan) :
    (if p.projectName ≠ "" then p.projectName
      else (i.settings.defaultProject.orElse (.text Preview.unknownProject)).display) =
        (p.ranIn i).display := by
  rw [ranIn]
  split
  · exact String.ofList_toList.symm
  · rw [Data.orElse, if_pos hd]

theorem firstMessage_filter {params : RequestParams} {groupBys : List String}
    (h : p.shape = .filter params groupBys) :
    p.firstMessage i = .ok (seriesMessage (p.ranIn i).display params "") := by
  have hmessage : ∀ project executed, p.message project executed "" =
      seriesMessage project params "" := fun project executed => by
    rw [message, QueryPlan.params, h]
  rw [firstMessage, executed, h]
  exact congrArg Except.ok (hmessage _ _)

/-- If the datasource has a default project, the preview of a plan foretells its first message. -/
theorem preview_foretells (hd : i.settings.defaultProject.isGiven = true)
    (hm : p.firstMessage i = .ok m) :
    ∃ v, p.preview i.settings = .ok v ∧ v.refId = p.refId ∧ v.Foretells m := by
  obtain ⟨executed, hexecuted, rfl⟩ := exists_of_map_eq_ok hm
  rw [preview, display_ranIn hd, hexecuted, message]
  cases p.shape with
  | written query graphPeriod maxDataPoints => exact ⟨_, rfl, rfl, rfl, rfl, rfl, rfl⟩
  | filter params groupBys => exact ⟨_, rfl, rfl, rfl, rfl, tells_seriesMessage p.params _⟩
  | objective params service slo selector =>
    exact ⟨_, rfl, rfl, rfl, rfl, tells_seriesMessage p.params _⟩

end QueryPlan

/-! ### First requests -/

namespace Service

variable {s : Surroundings} {i : Instance} {p : QueryPlan} {e : Exchange}
  {request : Web.Request} {later : List Web.Request}

theorem sent_answerPlan (hc : isCancelled s e = false) (i : Instance) (p : QueryPlan) :
    ((answerPlan s i p).runFrom e).2.sent = ((p.run s i).runFrom e).2.sent := by
  rw [runFrom_answerPlan hc]
  rcases (p.run s i).runFrom e with ⟨x | finished, e'⟩
  · cases x <;> rfl
  · exact quiet_resultOf _ e'

theorem sent_answerPlan_cancelled (hc : isCancelled s e = true) (i : Instance) (p : QueryPlan) :
    ((answerPlan s i p).runFrom e).2.sent = e.sent := by
  rw [answerPlan, runFrom_bind_error (runFrom_checkCancelled_true hc _)]

theorem grows_answerPlan (s : Surroundings) (i : Instance) (p : QueryPlan) :
    Grows (answerPlan s i p) := by
  intro e
  cases hc : isCancelled s e with
  | true => exact (sent_answerPlan_cancelled hc i p).symm ▸ List.prefix_refl e.sent
  | false => exact (sent_answerPlan hc i p).symm ▸ p.grows_run s i e

theorem grows_answerPlans (s : Surroundings) (i : Instance) (results : Results)
    (plans : List QueryPlan) : Grows (answerPlans s i results plans) := by
  induction plans generalizing results with
  | nil => exact .of_quiet (.pure _)
  | cons p plans ih => exact .bind (grows_answerPlan s i p) fun result => ih _

/-- The first request of a plan in its turn carries its first message. -/
theorem carries_of_answerPlan (hi : i.UsesHostToken)
    (h : ((answerPlan s i p).runFrom e).2.sent = e.sent ++ request :: later) :
    ∃ m, p.firstMessage i = .ok m ∧ i.Carries m request := by
  cases hc : isCancelled s e with
  | true =>
    rw [sent_answerPlan_cancelled hc] at h
    simp at h
  | false =>
    rw [sent_answerPlan hc] at h
    exact (p.opens_run hi s).first h

/-- With the plans before it answered, the plan at a position sends a request, and this is its first
one. -/
def FirstRequest (s : Surroundings) (i : Instance) (plans : List QueryPlan) (n : Nat)
    (request : Web.Request) : Prop :=
  ∃ before p after results e later, plans = before ++ p :: after ∧ before.length = n ∧
    (answerPlans s i [] before).runFrom { tokens := i.tokens } = (.ok results, e) ∧
    ((answerPlan s i p).runFrom e).2.sent = e.sent ++ request :: later

/-- The first request of a plan carries its first message. -/
theorem FirstRequest.carries (hi : i.UsesHostToken) {plans : List QueryPlan} {n : Nat}
    (h : FirstRequest s i plans n request) :
    ∃ p m, plans[n]? = some p ∧ p.firstMessage i = .ok m ∧ i.Carries m request := by
  obtain ⟨before, p, after, results, e, later, rfl, rfl, -, hsent⟩ := h
  obtain ⟨m, hm, hcarries⟩ := carries_of_answerPlan hi hsent
  exact ⟨p, m, by simp, hm, hcarries⟩

theorem FirstRequest.mem_sent {plans : List QueryPlan} {n : Nat}
    (h : FirstRequest s i plans n request) :
    request ∈ ((answerPlans s i [] plans).runFrom { tokens := i.tokens }).2.sent := by
  obtain ⟨before, p, after, results, e, later, rfl, -, hbefore, hp⟩ := h
  have hrest : ∀ result, Grows (answerPlans s i (results.put p.refId result) after) :=
    fun result => grows_answerPlans s i _ after
  have hgrows : ((answerPlan s i p).runFrom e).2.sent <+: _ := Grows.after hrest e
  rw [hp] at hgrows
  rw [answerPlans_append, runFrom_bind_ok hbefore, answerPlans]
  exact hgrows.subset (List.mem_append_right _ List.mem_cons_self)

/-- The only plan of a batch sends a request if its first message has an address. -/
theorem exists_firstRequest (hi : i.UsesHostToken) (ho : i.closed = false)
    (hc : s.cancelAfter = none) {m : Instance.Message} {address : Web.Address}
    (hm : p.firstMessage i = .ok m) (ha : i.addressOf m = .ok address) :
    ∃ request, FirstRequest s i [p] 0 request := by
  have hcancel : isCancelled s { tokens := i.tokens } = false := isCancelled_eq_false hc _
  obtain ⟨request, later, hsent⟩ := QueryPlan.exists_sent_run hi ho hcancel hm ha
  refine ⟨request, [], p, [], [], { tokens := i.tokens }, later, rfl, rfl, rfl, ?_⟩
  rw [sent_answerPlan hcancel, ← hsent, List.append_assoc]
  rfl

end Service

namespace Command

variable {files : FileSet} {batch settings : String} {token : Option String} {b : Batch}
  {plans : List QueryPlan} {i : Instance}

/-- A regular batch that is loaded and planned, for a datasource with a default project whose
requests take their tokens from the host. -/
structure Ready (files : FileSet) (batch settings : String) (token : Option String) (b : Batch)
    (plans : List QueryPlan) (i : Instance) : Prop where
  loaded : load files batch (some settings) = .ok b
  planned : QueryPlan.ofBatch b.queries = .ok plans
  regular : Service.IsRegular b.queries
  authentication : b.datasource.authentication = .ok .token
  defaultProject : b.datasource.defaultProject.isGiven = true
  built : Instance.build (host token) b.datasource = .ok i

theorem Ready.usesHostToken (h : Ready files batch settings token b plans i) : i.UsesHostToken :=
  Instance.usesHostToken_of_build h.built h.authentication

theorem Ready.settings_eq (h : Ready files batch settings token b plans i) :
    i.settings = b.datasource := (Instance.open_of_build h.built).1

theorem Ready.isOpen (h : Ready files batch settings token b plans i) : i.closed = false :=
  (Instance.open_of_build h.built).2

theorem Ready.sent_run (h : Ready files batch settings token b plans i) (s : Surroundings)
    (console : Nat) (form : Form) :
    (run console files s (.query batch settings token form)).sent =
      ((Service.answerPlans s i [] plans).runFrom { tokens := i.tokens }).2.sent := by
  have hget : ({} : Registry).get (host token) b.datasource =
      (.ok 0, ({} : Registry).insert i) := by
    rcases ({} : Registry).make_cases (host token) b.datasource with ⟨j, hj, hmake⟩ | ⟨x, hx, -⟩
    · obtain rfl : j = i := Except.ok.inj (hj.symm.trans h.built)
      exact hmake
    · rw [h.built] at hx
      cases hx
  rw [run, h.loaded]
  dsimp only
  rw [answers, Service.queryData_of_isRegular h.regular h.planned]
  have hinstance := Registry.instance?_insert_new {} i
  exact congrArg Exchange.sent (Service.workFor_eq hget hinstance _).2

/-- The preview of a plan foretells its first message, with a content as plans make it. -/
theorem Ready.exists_preview (h : Ready files batch settings token b plans i) {p : QueryPlan}
    (hp : p ∈ plans) {m : Instance.Message} (hm : p.firstMessage i = .ok m) :
    ∃ v, p.preview b.datasource = .ok v ∧ v.refId = p.refId ∧ v.Foretells m ∧
      v.content.IsRegular := by
  have hproject := h.defaultProject
  rw [← h.settings_eq] at hproject
  obtain ⟨v, hv, hid, hforetells⟩ := QueryPlan.preview_foretells hproject hm
  rw [h.settings_eq] at hv
  exact ⟨v, hv, hid, hforetells,
    QueryPlan.isRegular_preview (QueryPlan.hasFixedNames_ofBatch h.planned p hp) hv⟩

/-- Previews print the lines of one entry for each plan. -/
theorem previews_eq (h : Ready files batch settings token b plans i) (console : Nat) :
    previews console files batch (some settings) =
      (plans.mapM fun p => orFault (p.preview b.datasource >>= Preview.lines console)).map
        fun entries => { lines := entries.flatten } := by
  have hplans : Command.plans b = .ok plans := by
    rw [Command.plans, h.planned]
    rfl
  rw [previews, h.loaded]
  show (Command.plans b).bind _ = _
  rw [hplans]
  show (plans.mapM fun p => orFault (p.preview b.datasource >>= Preview.lines console)).bind _ = _
  cases plans.mapM fun p => orFault (p.preview b.datasource >>= Preview.lines console) with
  | error x => rfl
  | ok entries => rfl

/-- The previews of a batch with one plan. -/
theorem previews_single {p : QueryPlan} (h : Ready files batch settings token b [p] i)
    {v : Preview} (hv : p.preview b.datasource = .ok v) {console : Nat} {entry : List (List Char)}
    (he : v.lines console = .ok entry) :
    previews console files batch (some settings) = .ok { lines := entry } := by
  rw [previews_eq h, List.mapM_cons, List.mapM_nil, hv]
  show ((orFault (v.lines console) >>= _).map _ : Step Console.Report) = _
  rw [he]
  show Except.ok ({ lines := [entry].flatten } : Console.Report) = _
  rw [List.flatten_singleton]

/-- Of a plan whose first request a query command sends, the preview foretells that request: its
method, its path, and the values of every name in order, or its body. On a console of any width,
previews print the lines of the preview in the place of the plan. If the marks of a table fit, these
lines name the request exactly if markup and the console leave all words of the preview; if all that
markup leaves fits, the console changes nothing about that. -/
theorem previews_foretell (h : Ready files batch settings token b plans i) {s : Surroundings}
    {n : Nat} {request : Web.Request} (hf : Service.FirstRequest s i plans n request) :
    ∃ p v m, plans[n]? = some p ∧ p.preview b.datasource = .ok v ∧ v.refId = p.refId ∧
      v.Foretells m ∧ i.Carries m request ∧ ∀ console,
        (∀ form, request ∈ (run console files s (.query batch settings token form)).sent) ∧
        (∀ report, previews console files batch (some settings) = .ok report →
          ∃ (entries : List (List (List Char))) (entry : List (List Char)),
            report.lines = entries.flatten ∧ entries.length = plans.length ∧
              entries[n]? = some entry ∧ v.lines console = .ok entry) ∧
        (Console.Table.markWidth 2 ≤ console →
          ((∃ entry, v.lines console = .ok entry ∧ Preview.Named p.refId m entry) ↔
            v.Legible console)) ∧
        (v.FitsOn console → (v.Legible console ↔ v.Verbatim)) := by
  obtain ⟨p, m, hp, hm, hcarries⟩ := hf.carries h.usesHostToken
  obtain ⟨v, hv, hid, hforetells, hregular⟩ := h.exists_preview (List.mem_of_getElem? hp) hm
  refine ⟨p, v, m, hp, hv, hid, hforetells, hcarries, fun console => ⟨fun form => ?_,
    fun report hr => ?_, fun hconsole => ?_, Preview.legible_iff⟩⟩
  · rw [h.sent_run]
    exact hf.mem_sent
  · rw [previews_eq h] at hr
    obtain ⟨entries, hentries, rfl⟩ := exists_of_map_eq_ok hr
    have hall := (mapM_eq_ok_iff _ _ _).mp hentries
    obtain ⟨entry, hentry, hlines⟩ := exists_of_forall₂_getElem? hall hp
    rw [hv] at hlines
    exact ⟨entries, entry, rfl, hall.length_eq.symm, hentry, mapError_eq_ok_iff.mp hlines⟩
  · rw [← hid]
    exact Preview.named_iff hforetells hregular hconsole

/-! ### Two files -/

/-- A batch file with one query, and settings with the default project `p`. -/
def queryFiles (query : String) : FileSet where
  files := [("batch.json",
      "\x7b\"range\":\x7b\"from\":0,\"to\":0\x7d,\"queries\":[" ++ query ++ "]\x7d"),
    ("settings.json",
      "\x7b\"datasource\":\x7b\"jsonData\":\x7b\"defaultProject\":\"p\"\x7d\x7d\x7d")]

/-- Whether the only query of a batch is ready, and its plan passes a check with its instance. -/
def passes (files : FileSet) (check : QueryPlan → Instance → Bool) : Bool :=
  let batch := do
    let settings ← Settings.load files "settings.json"
    Batch.load files "batch.json" settings
  match batch with
  | .error _ => false
  | .ok b =>
    match b.queries, QueryPlan.ofBatch b.queries, Instance.build (host none) b.datasource with
    | q :: _, .ok [p], .ok i =>
      (Query.purposeOf q.payload).toOption == some "" &&
        b.datasource.authentication.toOption == some .token &&
        b.datasource.defaultProject.isGiven && check p i
    | _, _, _ => false

theorem load_eq_ok {settings : Settings} (hs : Settings.load files "settings.json" = .ok settings)
    (hb : Batch.load files "batch.json" settings = .ok b) :
    load files "batch.json" (some "settings.json") = .ok b := by
  have hbatch : checkPath "batch.json" = .ok () := by simp [checkPath]
  have hsettings : (some "settings.json").forM checkPath = .ok () := by simp [checkPath]
  rw [load, hbatch, hsettings, hs]
  show orLoad (Batch.load files "batch.json" settings) = .ok b
  rw [hb]
  rfl

theorem exists_of_passes {check : QueryPlan → Instance → Bool} (h : passes files check = true) :
    ∃ b p i, Ready files "batch.json" "settings.json" none b [p] i ∧ check p i = true := by
  rw [passes] at h
  split at h
  · cases h
  · next b hfiles =>
    obtain ⟨settings, hsettings, hbatch⟩ := exists_of_bind_eq_ok hfiles
    split at h
    · next q rest p i hq hplanned hbuilt =>
      simp only [Bool.and_eq_true, beq_iff_eq] at h
      obtain ⟨⟨⟨hpurpose, hauthentication⟩, hproject⟩, hcheck⟩ := h
      have hregular : Service.IsRegular b.queries :=
        ⟨q, rest, "", hq, eq_ok_of_toOption hpurpose, by decide, by decide⟩
      exact ⟨b, p, i, ⟨load_eq_ok hsettings hbatch, hplanned, hregular,
        eq_ok_of_toOption hauthentication, hproject, hbuilt⟩, hcheck⟩
    · cases h

/-- A query in the query language, in the default project. -/
def fetchQuery : String := "\x7b\"editorMode\":\"mql\",\"query\":\"fetch\"\x7d"

/-- Whether a plan has a first message with an address, and a preview that fits 80 columns and is
legible there. -/
def fetches (p : QueryPlan) (i : Instance) : Bool :=
  match p.firstMessage i, p.preview i.settings with
  | .ok m, .ok v => (i.addressOf m).toBool && decide (v.FitsOn 80) && decide (v.Legible 80)
  | _, _ => false

/-- In 80 columns, the preview of a query in the query language names its request. -/
theorem previews_foretell_fetch : ∃ b p i request v m entry,
    Ready (queryFiles fetchQuery) "batch.json" "settings.json" none b [p] i ∧
    Service.FirstRequest Service.down i [p] 0 request ∧ p.preview b.datasource = .ok v ∧
    v.Foretells m ∧ i.Carries m request ∧ v.FitsOn 80 ∧ v.Verbatim ∧ v.lines 80 = .ok entry ∧
    Preview.Named p.refId m entry := by
  have hpasses : passes (queryFiles fetchQuery) fetches = true := by decide +kernel
  obtain ⟨b, p, i, hready, hfetches⟩ := exists_of_passes hpasses
  rw [fetches] at hfetches
  split at hfetches
  · next m₀ v₀ hm hv =>
    simp only [Bool.and_eq_true, decide_eq_true_eq] at hfetches
    obtain ⟨⟨haddress, hfits⟩, hlegible⟩ := hfetches
    obtain ⟨address, ha⟩ := exists_of_toBool haddress
    obtain ⟨request, hfirst⟩ := Service.exists_firstRequest (s := Service.down)
      hready.usesHostToken hready.isOpen rfl hm ha
    obtain ⟨p', v, m, hp, hv', -, hforetells, hcarries, hconsole⟩ :=
      previews_foretell hready hfirst
    obtain rfl : p = p' := Option.some.inj hp
    rw [hready.settings_eq] at hv
    obtain rfl : v = v₀ := Except.ok.inj (hv'.symm.trans hv)
    obtain ⟨-, -, hnamed, hroom⟩ := hconsole 80
    obtain ⟨entry, hentry, hnames⟩ := (hnamed (by decide)).mpr hlegible
    exact ⟨b, p, i, request, v, m, entry, hready, hfirst, hv', hforetells, hcarries, hfits,
      (hroom hfits).mp hlegible, hentry, hnames⟩
  · cases hfetches

/-- A query for a filter with a class of characters, in the default project. -/
def classQuery : String := "\x7b\"metricType\":\"m\",\"filters\":[\"zone\",\"=~\",\"[a-z]+\"]\x7d"

/-- The filter of that query. -/
def classFilter : String := "metric.type=\"m\" zone=monitoring.regex.full_match(\"[a-z]+\")"

/-- The parameters of that query, sorted by name. -/
def classParams : List (String × String) := [
  ("aggregation.alignmentPeriod", "+60s"), ("aggregation.crossSeriesReducer", "REDUCE_NONE"),
  ("aggregation.perSeriesAligner", "ALIGN_MEAN"), ("filter", classFilter),
  ("interval.endTime", "1970-01-01T00:00:00Z"), ("interval.startTime", "1970-01-01T00:00:00Z"),
  ("view", "FULL")]

/-- The first message of that query. -/
def classMessage : Instance.Message :=
  { method := "GET", path := QueryPlan.seriesPath "p", query := some classParams }

/-- The title of the preview of that query. -/
def classTitle : String := "A: GET /v3/projects/p/timeSeries"

/-- Whether a plan asks for the series of the project `p` with the parameters of that query, and
has a preview that shows these. -/
def asksForClass (p : QueryPlan) (i : Instance) : Bool :=
  match p.shape, p.preview i.settings with
  | .filter params _, .ok v =>
    (p.ranIn i).display == "p" && params.items.isPerm classParams &&
      (i.addressOf classMessage).toBool && v.heading == classTitle.toList &&
      v.content.items.isPerm classParams
  | _, _ => false

theorem sortedByName_classParams : RequestParams.SortedByName classParams := by
  show List.Pairwise (fun p q : String × String => p.1 ≤ q.1) classParams
  decide

theorem render_classTitle : Markup.render classTitle.toList = .ok classTitle.toList :=
  Markup.render_of_no_tag (by decide)

theorem render_classFilter : Markup.render classFilter.toList =
    .ok "metric.type=\"m\" zone=monitoring.regex.full_match(\"+\")".toList := by decide +kernel

theorem exists_render_classParams :
    ∀ item ∈ classParams, ∃ shown, Markup.render item.2.toList = .ok shown := by
  have hplain : ∀ item ∈ classParams, item.2 = classFilter ∨ '[' ∉ item.2.toList := by
    decide
  intro item hitem
  rcases hplain item hitem with h | h
  · exact ⟨_, h ▸ render_classFilter⟩
  · exact ⟨_, Markup.render_of_no_tag h⟩

/-- On every console the lines of a preview of these parameters are printed, and name another filter
than the one that they are for. -/
theorem exists_lines_not_named {v : Preview} {m : Instance.Message} (hf : v.Foretells m)
    (hr : v.content.IsRegular) (hheading : v.heading = classTitle.toList)
    (hitems : v.content.items.Perm classParams) {console : Nat}
    (hconsole : Console.Table.markWidth 2 ≤ console) :
    ∃ entry, v.lines console = .ok entry ∧ ¬ Preview.Named v.refId m entry := by
  have hfilter : ("filter", classFilter) ∈ v.content.items := hitems.mem_iff.mpr (by decide)
  obtain ⟨refId, method, path, items | d⟩ := v
  · have htitle : Markup.render (Preview.title ⟨refId, method, path, .params items⟩) = _ :=
      hheading ▸ render_classTitle
    obtain ⟨seen, hseen⟩ := Preview.exists_seen_params hr htitle fun item hitem =>
      exists_render_classParams item (hitems.subset hitem)
    have hentry : Preview.lines console ⟨refId, method, path, .params items⟩ =
        .ok (seen.lines console) := by
      rw [Preview.lines_eq, hseen]
      rfl
    refine ⟨_, hentry, fun hnamed => ?_⟩
    have hlegible := (Preview.named_iff hf hr hconsole).mp ⟨_, hentry, hnamed⟩
    -- The filter has a bracket, which markup does not leave there.
    obtain ⟨shown, hshown, hbracket⟩ := hlegible.exists_render hr hfilter (c := '[') (by decide)
      (by decide) (by decide)
    obtain rfl := Except.ok.inj (render_classFilter.symm.trans hshown)
    revert hbracket
    decide
  · cases hfilter

/-- The class of characters is taken for a tag, so that on every console another filter is printed
than is sent. -/
theorem previews_alter_filter : ∃ b p i request v m,
    Ready (queryFiles classQuery) "batch.json" "settings.json" none b [p] i ∧
    Service.FirstRequest Service.down i [p] 0 request ∧ p.preview b.datasource = .ok v ∧
    v.Foretells m ∧ i.Carries m request ∧ ∀ console, Console.Table.markWidth 2 ≤ console →
      ∃ entry, v.lines console = .ok entry ∧
        previews console (queryFiles classQuery) "batch.json" (some "settings.json") =
          .ok { lines := entry } ∧ ¬ Preview.Named p.refId m entry := by
  have hpasses : passes (queryFiles classQuery) asksForClass = true := by decide +kernel
  obtain ⟨b, p, i, hready, hasks⟩ := exists_of_passes hpasses
  rw [asksForClass] at hasks
  split at hasks
  · next params groupBys v₀ hshape hv₀ =>
    simp only [Bool.and_eq_true, beq_iff_eq, List.isPerm_iff] at hasks
    obtain ⟨⟨⟨⟨hproject, hparams⟩, haddress⟩, hheading⟩, hitems⟩ := hasks
    obtain ⟨address, ha⟩ := exists_of_toBool haddress
    have hsorted : params.sorted = classParams :=
      RequestParams.sorted_eq_of_perm hparams sortedByName_classParams (by decide +kernel)
    have hm : p.firstMessage i = .ok classMessage := by
      rw [QueryPlan.firstMessage_filter hshape, QueryPlan.seriesMessage, hproject, hsorted]
      rfl
    obtain ⟨request, hfirst⟩ := Service.exists_firstRequest (s := Service.down)
      hready.usesHostToken hready.isOpen rfl hm ha
    obtain ⟨v, hv, hid, hforetells, hregular⟩ := hready.exists_preview List.mem_cons_self hm
    rw [hready.settings_eq] at hv₀
    obtain rfl : v = v₀ := Except.ok.inj (hv.symm.trans hv₀)
    obtain ⟨p', m, hp, hm', hcarries⟩ := hfirst.carries hready.usesHostToken
    obtain rfl : p = p' := Option.some.inj hp
    obtain rfl : classMessage = m := Except.ok.inj (hm.symm.trans hm')
    refine ⟨b, p, i, request, v, classMessage, hready, hfirst, hv, hforetells, hcarries,
      fun console hconsole => ?_⟩
    obtain ⟨entry, hentry, hnamed⟩ :=
      exists_lines_not_named hforetells hregular hheading hitems hconsole
    exact ⟨entry, hentry, previews_single hready hv hentry, hid ▸ hnamed⟩
  · cases hasks

end Command
end MetricFrames
