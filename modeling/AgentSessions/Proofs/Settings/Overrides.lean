import AgentSessions.Settings.Loading
import Mathlib.Data.List.Basic
import Mathlib.Logic.Function.Basic

/-!
# Variables over settings

Eight variables are put over the settings. Each one has a reader of its own, and only what a reader
takes gets into the settings (`Overrides.Follows`), so a text that is not taken is as good as none
at all (`apply_of_not_taken`). The readers know nothing of validation: that the ranges of the
readers lie within what validation admits is shown here (`Settings.Sound.apply`), for words from
their least value and for the threshold by the order of the numbers, in which a NaN has no place.
-/

set_option autoImplicit false

namespace AgentSessions

/-! ## What the readers take -/

theorem Binary64.lt_of_lt_of_le {x y z : Binary64} (hxy : x.lt y = true) (hyz : y.le z = true) :
    x.lt z = true := by
  cases x <;> cases y <;> cases z <;> simp_all [Binary64.lt, Binary64.le]
  omega

namespace Variable

theorem word?_eq_some_iff {low high n : UInt64} {text : String} :
    word? low high text = some n ↔ nat? text = some n.toNat ∧ low ≤ n ∧ n ≤ high := by
  have hhigh := UInt64.toNat_lt high
  rw [word?, UInt64.le_iff_toNat_le, UInt64.le_iff_toNat_le]
  cases nat? text with
  | none => simp
  | some k =>
      simp only [Option.ite_none_right_eq_some, Option.some.injEq]
      constructor
      · rintro ⟨hrange, rfl⟩
        have hsize : k < UInt64.size := Nat.lt_of_le_of_lt hrange.2 hhigh
        rw [UInt64.toNat_ofNat_of_lt' hsize]
        exact ⟨rfl, hrange⟩
      · rintro ⟨rfl, hrange⟩
        exact ⟨hrange, UInt64.ofNat_toNat⟩

theorem float?_eq_some_iff {low high x : Binary64} {text : String} :
    float? low high text = some x ↔
      Binary64.parse? text = some x ∧ x.isFinite = true ∧ low.le x = true ∧ x.le high = true := by
  rw [float?]
  cases Binary64.parse? text with
  | none => simp
  | some y =>
      simp only [Option.ite_none_right_eq_some, Option.some.injEq, Bool.and_eq_true, and_assoc]
      constructor
      · rintro ⟨hfinite, hlow, hhigh, rfl⟩
        exact ⟨rfl, hfinite, hlow, hhigh⟩
      · rintro ⟨rfl, hfinite, hlow, hhigh⟩
        exact ⟨hfinite, hlow, hhigh, rfl⟩

/-- The words for a truth value, in small letters. -/
def boolWords : Bool → List String
  | true => ["true", "1", "yes", "on"]
  | false => ["false", "0", "no", "off"]

theorem bool?_eq_some_iff {text : String} {b : Bool} :
    bool? text = some b ↔ Text.lowerAscii text ∈ boolWords b := by
  rw [bool?]
  generalize Text.lowerAscii text = word
  constructor
  · intro h
    split at h <;> cases h <;> simp [boolWords]
  · intro h
    cases b <;>
      simp only [boolWords, List.mem_cons, List.not_mem_nil, or_false] at h <;>
      rcases h with rfl | rfl | rfl | rfl <;> rfl

theorem read_map {α δ : Type} (env : Environment) (key : String) (parse : String → Option α)
    (f : α → δ) : read env key (fun text => (parse text).map f) = (read env key parse).map f :=
  Option.map_bind.symm

/-- A variable whose text is not taken is read as if it were not set. -/
theorem read_update {α : Type} {env : Environment} {name text key : String}
    {parse : String → Option α} (h : key = name → parse text = none) :
    read (Function.update env name (some text)) key parse =
      read (Function.update env name none) key parse := by
  by_cases hkey : key = name
  · subst hkey
    simp [read, h rfl]
  · simp [read, Function.update_of_ne hkey]

end Variable

/-! ## Valid settings -/

namespace Settings

/-- Settings that the program can work with. -/
structure Sound (s : Settings) : Prop where
  maxSteps : s.engine.maxSteps ≠ 0
  threshold : thresholdOk s.compaction.threshold = true
  contextWindow : s.compaction.contextWindowTokens ≠ 0
  maxConcurrent : s.tasks.maxConcurrent ≠ 0
  maxBacklog : s.queue.maxBacklog ≠ some 0

theorem validate_eq_ok_iff {s : Settings} : s.validate = .ok () ↔ s.Sound := by
  have hfault : s.validate = .ok () ↔ s.fault? = none := by
    rw [validate]
    cases s.fault? <;> simp
  rw [hfault, fault?]
  constructor
  · intro h
    split at h
    · cases h
    split at h
    · cases h
    split at h
    · cases h
    split at h
    · cases h
    split at h
    · cases h
    rename_i hsteps hthreshold hwindow hconcurrent hbacklog
    exact ⟨hsteps, by simpa using hthreshold, hwindow, hconcurrent, hbacklog⟩
  · intro h
    rw [if_neg h.maxSteps, if_neg (by simp [h.threshold]), if_neg h.contextWindow,
      if_neg h.maxConcurrent, if_neg h.maxBacklog]

end Settings

namespace Overrides

open Variable

/-! ## What gets into the settings -/

/-- A setting after the variables were looked at: the value of its variable where that is set to a
text that is read, and otherwise the value that it had. -/
def Follows {α : Type} (env : Environment) (name : String) (parse : String → Option α)
    (before after : α) : Prop :=
  match env name with
  | none => after = before
  | some text =>
      match parse text with
      | none => after = before
      | some value => after = value

theorem follows_iff {α : Type} {env : Environment} {name : String} {parse : String → Option α}
    {before after : α} :
    Follows env name parse before after ↔ after = (Variable.read env name parse).getD before := by
  rw [Follows, Variable.read]
  cases env name with
  | none => rfl
  | some text => cases hread : parse text <;> simp [hread]

/-- The settings `s'` are the settings `s` with the variables put over them. -/
structure Overridden (env : Environment) (s s' : Settings) : Prop where
  maxSteps : Follows env "CONDUCTOR_MAX_STEPS" (fun text => (steps? text).map UInt64.toNat)
    s.engine.maxSteps.toNat s'.engine.maxSteps.toNat
  enabled : Follows env "CONDUCTOR_COMPACTION_ENABLED" bool?
    s.compaction.enabled s'.compaction.enabled
  contextWindow : Follows env "CONDUCTOR_CONTEXT_WINDOW" window?
    s.compaction.contextWindowTokens s'.compaction.contextWindowTokens
  threshold : Follows env "CONDUCTOR_COMPACTION_THRESHOLD" threshold?
    s.compaction.threshold s'.compaction.threshold
  maxBacklog : Follows env "CONDUCTOR_MAX_BACKLOG" (fun text => (backlog? text).map some)
    s.queue.maxBacklog s'.queue.maxBacklog
  maxConcurrent : Follows env "CONDUCTOR_MAX_CONCURRENT_TASKS" concurrent?
    s.tasks.maxConcurrent s'.tasks.maxConcurrent
  level : Follows env "CONDUCTOR_LOG_LEVEL" level? s.logging.level s'.logging.level
  json : Follows env "CONDUCTOR_LOG_JSON" bool? s.logging.json s'.logging.json
  /-- All other settings are those of `s`. -/
  others : s' = { s with
    engine := { s.engine with maxSteps := s'.engine.maxSteps }
    compaction := { s.compaction with
      enabled := s'.compaction.enabled
      contextWindowTokens := s'.compaction.contextWindowTokens
      threshold := s'.compaction.threshold }
    queue := { s.queue with maxBacklog := s'.queue.maxBacklog }
    tasks := { s.tasks with maxConcurrent := s'.tasks.maxConcurrent }
    logging := { s.logging with level := s'.logging.level, json := s'.logging.json } }

/-- A number of steps that is read fits the word that holds it. -/
theorem toNat_steps {text : String} {n : UInt64} (h : steps? text = some n) :
    n.toUInt32.toNat = n.toNat := by
  have hhigh := UInt64.le_iff_toNat_le.mp (word?_eq_some_iff.mp h).2.2
  rw [UInt64.toNat_toUInt32]
  refine Nat.mod_eq_of_lt (Nat.lt_of_le_of_lt hhigh ?_)
  decide

theorem overridden_apply (s : Settings) (env : Environment) :
    Overridden env s (apply s env) where
  maxSteps := by
    rw [follows_iff, read_map]
    simp only [apply]
    cases hread : Variable.read env "CONDUCTOR_MAX_STEPS" steps? with
    | none => rfl
    | some n =>
        obtain ⟨text, -, htaken⟩ := Option.bind_eq_some_iff.mp hread
        exact toNat_steps htaken
  enabled := follows_iff.mpr rfl
  contextWindow := follows_iff.mpr rfl
  threshold := follows_iff.mpr rfl
  maxBacklog := by
    rw [follows_iff, read_map]
    show (Variable.read env "CONDUCTOR_MAX_BACKLOG" backlog?).or s.queue.maxBacklog = _
    cases Variable.read env "CONDUCTOR_MAX_BACKLOG" backlog? <;> rfl
  maxConcurrent := follows_iff.mpr rfl
  level := follows_iff.mpr rfl
  json := follows_iff.mpr rfl
  others := rfl

/-! ## Valid settings stay valid -/

/-- What a reader takes has the property of the setting, and so has the setting. -/
theorem Follows.keeps {α : Type} {env : Environment} {name : String} {parse : String → Option α}
    {before after : α} (h : Follows env name parse before after) (good : α → Prop)
    (hbefore : good before) (hread : ∀ text value, parse text = some value → good value) :
    good after := by
  rw [follows_iff] at h
  cases hfound : Variable.read env name parse with
  | none =>
      rw [hfound] at h
      exact h ▸ hbefore
  | some value =>
      rw [hfound] at h
      obtain ⟨text, -, hvalue⟩ := Option.bind_eq_some_iff.mp hfound
      exact h ▸ hread text value hvalue

theorem ne_zero_of_word? {low high n : UInt64} {text : String} (hlow : low ≠ 0)
    (h : word? low high text = some n) : n ≠ 0 := by
  rintro rfl
  exact hlow (UInt64.le_antisymm (word?_eq_some_iff.mp h).2.1 UInt64.zero_le)

/-- The least threshold that is read lies above zero. -/
theorem thresholdOk_of_threshold? {text : String} {x : Binary64} (h : threshold? text = some x) :
    Settings.thresholdOk x = true := by
  obtain ⟨-, -, hlow, hhigh⟩ := float?_eq_some_iff.mp h
  have hleast : (Binary64.zero false).lt (Binary64.nearest false 5 (-2)) = true := by
    decide +kernel
  rw [Settings.thresholdOk, Bool.and_eq_true]
  exact ⟨Binary64.lt_of_lt_of_le hleast hlow, hhigh⟩

theorem Overridden.sound {env : Environment} {s s' : Settings} (h : Overridden env s s')
    (hs : s.Sound) : s'.Sound where
  maxSteps := by
    have hpositive : s'.engine.maxSteps.toNat ≠ 0 := by
      refine h.maxSteps.keeps (fun n => n ≠ 0) ?_ fun text n hread => ?_
      · exact fun hzero => hs.maxSteps (UInt32.toNat_inj.mp hzero)
      · obtain ⟨k, hk, rfl⟩ := Option.map_eq_some_iff.mp hread
        exact fun hzero => ne_zero_of_word? (by decide) hk (UInt64.toNat_inj.mp hzero)
    exact fun hzero => hpositive (congrArg UInt32.toNat hzero)
  threshold := h.threshold.keeps (fun x => Settings.thresholdOk x = true) hs.threshold
    fun _ _ hread => thresholdOk_of_threshold? hread
  contextWindow := h.contextWindow.keeps (fun n => n ≠ 0) hs.contextWindow
    fun _ _ hread => ne_zero_of_word? (by decide) hread
  maxConcurrent := h.maxConcurrent.keeps (fun n => n ≠ 0) hs.maxConcurrent
    fun _ _ hread => ne_zero_of_word? (by decide) hread
  maxBacklog := by
    refine h.maxBacklog.keeps (fun n => n ≠ some 0) hs.maxBacklog fun text n hread => ?_
    obtain ⟨k, hk, rfl⟩ := Option.map_eq_some_iff.mp hread
    exact fun hzero => ne_zero_of_word? (by decide) hk (Option.some.inj hzero)

/-! ## Texts that are not taken -/

/-- A variable that the program knows. -/
structure KnownVariable where
  name : String
  /-- The kind of value that it holds; a variable of no kind holds any text, and is passed over in
  silence where that is empty. -/
  kind : Option String
  /-- Whether a text is read as a value. -/
  takes : String → Bool

/-- The variables that the program knows, in the order in which they are looked at. -/
def knownVariables : List KnownVariable :=
  [ ⟨"CONDUCTOR_MAX_STEPS", some "u64", fun text => (steps? text).isSome⟩,
    ⟨"CONDUCTOR_COMPACTION_ENABLED", some "bool", fun text => (bool? text).isSome⟩,
    ⟨"CONDUCTOR_CONTEXT_WINDOW", some "usize", fun text => (window? text).isSome⟩,
    ⟨"CONDUCTOR_COMPACTION_THRESHOLD", some "f64", fun text => (threshold? text).isSome⟩,
    ⟨"CONDUCTOR_MAX_BACKLOG", some "usize", fun text => (backlog? text).isSome⟩,
    ⟨"CONDUCTOR_MAX_CONCURRENT_TASKS", some "usize", fun text => (concurrent? text).isSome⟩,
    ⟨"CONDUCTOR_LOG_LEVEL", none, fun text => (level? text).isSome⟩,
    ⟨"CONDUCTOR_LOG_JSON", some "bool", fun text => (bool? text).isSome⟩ ]

/-- The warning that a variable is worth: one if it is of a kind and set to a text that it does not
take. -/
def KnownVariable.warning? (env : Environment) (v : KnownVariable) : Option Warning :=
  match v.kind, env v.name with
  | some kind, some text =>
      if v.takes text then none else some (.invalidVariable v.name text kind)
  | _, _ => none

/-- A complaint is the warning of its variable. -/
theorem complaint_eq {α : Type} (env : Environment) (name kind : String)
    (parse : String → Option α) :
    complaint env name kind parse =
      (KnownVariable.warning? env ⟨name, some kind, fun text => (parse text).isSome⟩).toList := by
  rw [complaint, KnownVariable.warning?]
  cases env name with
  | none => rfl
  | some text => cases htaken : (parse text).isSome <;> simp [htaken]

/-- There is one warning for each known variable that is worth one. -/
theorem warnings_eq (env : Environment) :
    warnings env = knownVariables.filterMap (KnownVariable.warning? env) := by
  rw [List.filterMap_eq_flatMap_toList]
  simp only [warnings, complaint_eq, knownVariables, List.flatMap_cons, List.flatMap_nil,
    List.append_assoc, List.append_nil]
  rfl

/-- A known variable whose text is not taken is read as if it were not set. -/
theorem read_not_taken {α : Type} (env : Environment) {name text key : String}
    {kind : Option String} (parse : String → Option α)
    (h : ∀ v ∈ knownVariables, v.name = name → v.takes text = false)
    (hknown : ⟨key, kind, fun text => (parse text).isSome⟩ ∈ knownVariables) :
    Variable.read (Function.update env name (some text)) key parse =
      Variable.read (Function.update env name none) key parse :=
  read_update fun hkey =>
    Option.isNone_iff_eq_none.mp (Option.isSome_eq_false_iff.mp (h _ hknown hkey))

/-- A text that is not taken gives the same settings as none. -/
theorem apply_of_not_taken {env : Environment} {name text : String}
    (h : ∀ v ∈ knownVariables, v.name = name → v.takes text = false) (s : Settings) :
    apply s (Function.update env name (some text)) = apply s (Function.update env name none) := by
  have hsteps := read_not_taken env steps? h (List.mem_of_getElem? (i := 0) rfl)
  have henabled := read_not_taken env bool? h (List.mem_of_getElem? (i := 1) rfl)
  have hwindow := read_not_taken env window? h (List.mem_of_getElem? (i := 2) rfl)
  have hthreshold := read_not_taken env threshold? h (List.mem_of_getElem? (i := 3) rfl)
  have hbacklog := read_not_taken env backlog? h (List.mem_of_getElem? (i := 4) rfl)
  have hconcurrent := read_not_taken env concurrent? h (List.mem_of_getElem? (i := 5) rfl)
  have hlevel := read_not_taken env level? h (List.mem_of_getElem? (i := 6) rfl)
  have hjson := read_not_taken env bool? h (List.mem_of_getElem? (i := 7) rfl)
  simp only [apply, hsteps, henabled, hwindow, hthreshold, hbacklog, hconcurrent, hlevel, hjson]

/-! ## Loading -/

/-- Settings are loaded when there are some in the file that are valid with the variables over
them. -/
theorem load_eq_ok_iff {file : SettingsFile} {env : Environment} {s' : Settings} :
    (Settings.load file env).1 = .ok s' ↔
      ∃ s, Settings.ofFile file = .ok s ∧ s' = apply s env ∧ s'.validate = .ok () := by
  rw [Settings.load]
  cases hfile : Settings.ofFile file with
  | error cause => simp
  | ok s =>
      simp only [Except.ok.injEq]
      cases hvalid : (apply s env).validate with
      | error cause =>
          constructor
          · exact fun h => nomatch h
          · rintro ⟨_, rfl, rfl, h⟩
            exact nomatch hvalid.symm.trans h
      | ok u =>
          constructor
          · intro h
            obtain rfl := Except.ok.inj h
            exact ⟨s, rfl, rfl, hvalid⟩
          · rintro ⟨_, rfl, rfl, -⟩
            rfl

/-- What the variables do to settings, and what they cannot do. Each of eight settings follows its
variable and no other setting changes; a text that is not taken gives the same settings as none, and
one warning unless the variable holds any text; valid settings stay valid. So settings that are
loaded are valid, and no variable keeps valid ones from being loaded. -/
theorem overrides_keep_settings_valid (s : Settings) (env : Environment) :
    Overridden env s (apply s env) ∧
    (∀ name text, (∀ v ∈ knownVariables, v.name = name → v.takes text = false) →
      apply s (Function.update env name (some text)) =
        apply s (Function.update env name none)) ∧
    (knownVariables.map KnownVariable.name).Nodup ∧
    warnings env = knownVariables.filterMap (KnownVariable.warning? env) ∧
    (s.validate = .ok () → (apply s env).validate = .ok ()) ∧
    (∀ file s', (Settings.load file env).1 = .ok s' → s'.validate = .ok ()) ∧
    ∀ file, Settings.ofFile file = .ok s → s.validate = .ok () →
      (Settings.load file env).1 = .ok (apply s env) := by
  have hkept : s.validate = .ok () → (apply s env).validate = .ok () := by
    rw [Settings.validate_eq_ok_iff, Settings.validate_eq_ok_iff]
    exact (overridden_apply s env).sound
  refine ⟨overridden_apply s env, fun name text h => apply_of_not_taken h s, by decide,
    warnings_eq env, hkept, fun file s' h => ?_, fun file hfile hvalid => ?_⟩
  · obtain ⟨_, -, -, hvalid⟩ := load_eq_ok_iff.mp h
    exact hvalid
  · exact load_eq_ok_iff.mpr ⟨s, hfile, rfl, hkept hvalid⟩

/-- Variables of which three are read and three are not. -/
def Sample.environment : Environment
  | "CONDUCTOR_MAX_STEPS" => some "10001"
  | "CONDUCTOR_COMPACTION_ENABLED" => some "Off"
  | "CONDUCTOR_COMPACTION_THRESHOLD" => some "0.25"
  | "CONDUCTOR_MAX_BACKLOG" => some "+5"
  | "CONDUCTOR_LOG_LEVEL" => some ""
  | "CONDUCTOR_LOG_JSON" => some "maybe"
  | _ => none

/-- With these variables over them the default settings are loaded as valid ones. A number of steps
that is too large is as good as none, and so is a threshold that is not a number. -/
theorem overrides_keep_default_settings_valid :
    (default : Settings).validate = .ok () ∧ Settings.ofFile .missing = .ok default ∧
      (apply default Sample.environment).validate = .ok () ∧
      (Settings.load .missing Sample.environment).1 = .ok (apply default Sample.environment) ∧
      (default : Settings).compaction.enabled = true ∧
      (apply default Sample.environment).compaction.enabled = false ∧
      (apply default Sample.environment).compaction.threshold = Binary64.nearest false 25 (-2) ∧
      (apply default Sample.environment).queue.maxBacklog = some 5 ∧
      warnings Sample.environment =
        [.invalidVariable "CONDUCTOR_MAX_STEPS" "10001" "u64",
          .invalidVariable "CONDUCTOR_LOG_JSON" "maybe" "bool"] ∧
      ∀ name text, (name, text) ∈ [("CONDUCTOR_MAX_STEPS", "10001"),
          ("CONDUCTOR_COMPACTION_THRESHOLD", "nan")] →
        (∀ v ∈ knownVariables, v.name = name → v.takes text = false) ∧
        apply default (Function.update Sample.environment name (some text)) =
          apply default (Function.update Sample.environment name none) := by
  have hvalid : (default : Settings).validate = .ok () := by decide +kernel
  have hnot : ∀ given ∈ [("CONDUCTOR_MAX_STEPS", "10001"),
      ("CONDUCTOR_COMPACTION_THRESHOLD", "nan")],
      ∀ v ∈ knownVariables, v.name = given.1 → v.takes given.2 = false := by decide +kernel
  have henabled : (apply default Sample.environment).compaction.enabled = false := by
    have hoff : bool? "Off" = some false := bool?_eq_some_iff.mpr (by decide +kernel)
    exact congrArg (Option.getD · true) hoff
  obtain ⟨-, hsame, -, -, hkept, hload, hloads⟩ :=
    overrides_keep_settings_valid default Sample.environment
  have hloaded := hloads .missing rfl hvalid
  exact ⟨hvalid, rfl, hload .missing _ hloaded, hloaded, rfl, henabled, by decide +kernel,
    by decide +kernel, by decide +kernel, fun name text hgiven =>
      ⟨hnot _ hgiven, hsame _ _ (hnot _ hgiven)⟩⟩

end Overrides

end AgentSessions
