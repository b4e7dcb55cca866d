import Mathlib.Data.List.Infix
import Hostlink.Config

/-!
# What makes a configuration

A sequence of calls counts only through the last call made to each setting.  Building checks the
settings in a fixed order and refuses them with the first thing that is wrong; `FirstViolated` puts
this for any order of checks, and `firstViolated_bind` carries it over one step of a computation
that stops at the first failure.  Validation of a finished configuration is of the same kind, with
an order of its own.
-/

namespace Hostlink.Config

open Time

/-! ## The last call to a setting -/

/-- The file system that a call injects. -/
def Call.fileSystem? : Call → Option Nat
  | .fileSystem object => some object
  | _ => none

/-- The HTTP client that a call injects. -/
def Call.httpClient? : Call → Option Nat
  | .httpClient object => some object
  | _ => none

/-- The monitor that a call injects. -/
def Call.networkChange? : Call → Option Nat
  | .networkChange object => some object
  | _ => none

/-- The request timeout that a call sets. -/
def Call.requestTimeout? : Call → Option Duration
  | .requestTimeout timeout => some timeout
  | _ => none

/-- The probe timeout that a call sets. -/
def Call.probeTimeout? : Call → Option Duration
  | .probeTimeout timeout => some timeout
  | _ => none

/-- The flags that a call sets: there is one flag, so both calls about flags set all of them. -/
def Call.features? : Call → Option Features
  | .networkAwareness enabled => some ⟨enabled⟩
  | .features flags => some flags
  | _ => none

/-- What the last of the calls to a setting sets it to. -/
def lastOf {α : Type} (setting : Call → Option α) (calls : List Call) : Option α :=
  (calls.filterMap setting).getLast?

/-- What is set by the last call to each setting. -/
def lastCalls (calls : List Call) : Settings where
  fileSystem := lastOf Call.fileSystem? calls
  httpClient := lastOf Call.httpClient? calls
  networkChange := lastOf Call.networkChange? calls
  requestTimeout := lastOf Call.requestTimeout? calls
  probeTimeout := lastOf Call.probeTimeout? calls
  features := (lastOf Call.features? calls).getD .standard

@[simp]
theorem lastOf_concat {α : Type} (setting : Call → Option α) (calls : List Call) (call : Call) :
    lastOf setting (calls ++ [call]) = (setting call).or (lastOf setting calls) := by
  cases h : setting call with
  | none => simp [lastOf, h]
  | some value => simp [lastOf, h]

/-- A call changes what it is about, and keeps the rest. -/
theorem lastCalls_concat (calls : List Call) (call : Call) :
    lastCalls (calls ++ [call]) = (lastCalls calls).set call := by
  cases call <;> simp [lastCalls, Settings.set, Call.fileSystem?, Call.httpClient?,
    Call.networkChange?, Call.requestTimeout?, Call.probeTimeout?, Call.features?]

theorem ofCalls_eq_lastCalls (calls : List Call) : Settings.ofCalls calls = lastCalls calls := by
  induction calls using List.reverseRecOn with
  | nil => rfl
  | append_singleton calls call ih =>
    rw [lastCalls_concat, ← ih, Settings.ofCalls, List.foldl_concat]
    rfl

/-! ## The first violation in an order -/

section

variable {γ α β : Type} {violates : γ → SetupError → Prop} {check : γ} {rest order : List γ}

/-- The first check of an order that is violated fails with an error. -/
def FirstViolated (order : List γ) (violates : γ → SetupError → Prop) (e : SetupError) : Prop :=
  ∃ earlier check later, order = earlier ++ check :: later ∧
    (∀ c ∈ earlier, ∀ e', ¬ violates c e') ∧ violates check e

@[simp]
theorem firstViolated_nil {e : SetupError} : ¬ FirstViolated [] violates e := by
  rintro ⟨earlier, check, later, h, _⟩
  simp at h

theorem firstViolated_cons {e : SetupError} :
    FirstViolated (check :: rest) violates e ↔
      violates check e ∨ (∀ e', ¬ violates check e') ∧ FirstViolated rest violates e := by
  constructor
  · rintro ⟨_ | ⟨first, earlier⟩, found, later, horder, hearlier, hfound⟩
    · obtain ⟨rfl, rfl⟩ := List.cons.inj horder
      exact .inl hfound
    · obtain ⟨rfl, rfl⟩ := List.cons.inj horder
      refine .inr ⟨hearlier check List.mem_cons_self, earlier, found, later, rfl, ?_, hfound⟩
      exact fun c hc => hearlier c (List.mem_cons_of_mem _ hc)
  · rintro (hcheck | ⟨hcheck, earlier, found, later, rfl, hearlier, hfound⟩)
    · exact ⟨[], check, rest, rfl, by simp, hcheck⟩
    · refine ⟨check :: earlier, found, later, rfl, ?_, hfound⟩
      rintro c (_ | ⟨_, hc⟩)
      · exact hcheck
      · exact hearlier c hc

theorem firstViolated_singleton {e : SetupError} :
    FirstViolated [check] violates e ↔ violates check e := by
  simp [firstViolated_cons]

/-- Where no check is violated first, none is violated at all. -/
theorem forall_not_firstViolated :
    (∀ e, ¬ FirstViolated order violates e) ↔ ∀ c ∈ order, ∀ e, ¬ violates c e := by
  induction order with
  | nil => simp
  | cons check rest ih =>
    simp only [firstViolated_cons, List.forall_mem_cons, not_or, not_and, forall_and]
    constructor
    · rintro ⟨hcheck, hrest⟩
      exact ⟨hcheck, ih.mp fun e => hrest e hcheck⟩
    · rintro ⟨hcheck, hrest⟩
      exact ⟨hcheck, fun e _ => ih.mpr hrest e⟩

/-- A step that makes a check, before steps that make the checks behind it. -/
theorem firstViolated_bind {step : Except SetupError α} {next : α → Except SetupError β}
    (hstep : ∀ e, step = .error e ↔ violates check e)
    (hnext : ∀ a, step = .ok a → ∀ e, next a = .error e ↔ FirstViolated rest violates e)
    (e : SetupError) : step >>= next = .error e ↔ FirstViolated (check :: rest) violates e := by
  rw [firstViolated_cons, ← hstep e]
  simp only [← hstep]
  cases step with
  | error e' => simp [bind, Except.bind]
  | ok a => simpa [bind, Except.bind] using hnext a rfl e

theorem exists_ok_iff {outcome : Except SetupError α} :
    (∃ a, outcome = .ok a) ↔ ∀ e, outcome ≠ .error e := by
  cases outcome <;> simp

theorem bind_eq_ok {step : Except SetupError α} {next : α → Except SetupError β} {b : β} :
    step >>= next = .ok b ↔ ∃ a, step = .ok a ∧ next a = .ok b := by
  cases step <;> simp [bind, Except.bind]

end

/-! ## The checks -/

/-- What is checked about a configuration. -/
inductive Check where
  | timeout (which : Timeout)
  | provided (capability : Capability)
  deriving DecidableEq, Repr

/-- A timeout is positive and at most five minutes, to the nanosecond. -/
def Allowed (timeout : Duration) : Prop :=
  0 < timeout.toNanos ∧ timeout.toNanos ≤ 300 * nanosPerSecond

/-- What is wrong with a timeout that is not allowed. -/
inductive OutOfRange (which : Timeout) (timeout : Duration) : SetupError → Prop where
  | zero (h : timeout.toNanos = 0) : OutOfRange which timeout (.timeoutZero which)
  | tooLong (h : 300 * nanosPerSecond < timeout.toNanos) :
    OutOfRange which timeout (.timeoutTooLong which)

theorem forall_not_outOfRange {which : Timeout} {timeout : Duration} :
    (∀ e, ¬ OutOfRange which timeout e) ↔ Allowed timeout := by
  constructor
  · intro h
    exact ⟨Nat.pos_of_ne_zero fun hzero => h _ (.zero hzero),
      Nat.le_of_not_lt fun hlong => h _ (.tooLong hlong)⟩
  · rintro ⟨hpos, hle⟩ e (hzero | hlong)
    · exact absurd hzero hpos.ne'
    · exact absurd hle (Nat.not_le_of_lt hlong)

/-- Timeouts are allowed where checks, these among them, find nothing wrong. -/
theorem allowed_of_unviolated {violates : Check → SetupError → Prop} {checks : List Check}
    {timeout : Timeout → Duration}
    (hviolates : ∀ {which e}, OutOfRange which (timeout which) e → violates (.timeout which) e)
    (hmem : ∀ which, .timeout which ∈ checks) (h : ∀ check ∈ checks, ∀ e, ¬ violates check e)
    (which : Timeout) : Allowed (timeout which) :=
  forall_not_outOfRange.mp fun e hout => h (.timeout which) (hmem which) e (hviolates hout)

theorem checkTimeout_eq_error_iff {which : Timeout} {timeout : Duration} (e : SetupError) :
    checkTimeout which timeout = .error e ↔ OutOfRange which timeout e := by
  have hmax : (Duration.ofSeconds maxTimeoutSeconds).toNanos = 300 * nanosPerSecond := rfl
  unfold checkTimeout
  rw [hmax, Duration.isZero]
  split
  case isTrue hzero =>
    constructor
    · rintro ⟨⟩
      exact .zero (by simpa using hzero)
    · rintro (_ | hlong)
      · rfl
      · simp_all
  case isFalse hzero =>
    split
    case isTrue hlong =>
      constructor
      · rintro ⟨⟩
        exact .tooLong hlong
      · rintro (hzero' | _)
        · simp_all
        · rfl
    case isFalse hlong =>
      constructor
      · rintro ⟨⟩
      · rintro (hzero' | hlong')
        · simp_all
        · exact absurd hlong' hlong

theorem checkTimeout_eq_ok_iff {which : Timeout} {timeout : Duration} {done : Unit} :
    checkTimeout which timeout = .ok done ↔ Allowed timeout := by
  rw [← @forall_not_outOfRange which]
  simp only [← checkTimeout_eq_error_iff]
  cases checkTimeout which timeout <;> simp

/-! ## Validation -/

namespace Complete

/-- The timeouts of a configuration. -/
def timeout (c : Complete) : Timeout → Duration
  | .request => c.requestTimeout
  | .probe => c.probeTimeout

/-- What is wrong with a configuration. -/
inductive Violates (c : Complete) : Check → SetupError → Prop where
  | timeout {which : Timeout} {e : SetupError} (h : OutOfRange which (c.timeout which) e) :
    Violates c (.timeout which) e
  | unmonitored (aware : c.features.networkAwareness = true) (h : c.networkChange = none) :
    Violates c (.provided .networkChange) .awarenessWithoutMonitor

/-- The order in which a configuration is checked. -/
def checks : List Check := [.timeout .request, .timeout .probe, .provided .networkChange]

/-- A configuration that holds together. -/
structure Sound (c : Complete) : Prop where
  timeouts : ∀ which, Allowed (c.timeout which)
  monitored : c.features.networkAwareness = true → c.networkChange.isSome

theorem timeout_eq_error_iff {c : Complete} {which : Timeout} (e : SetupError) :
    checkTimeout which (c.timeout which) = .error e ↔ c.Violates (.timeout which) e := by
  rw [checkTimeout_eq_error_iff]
  constructor
  · exact .timeout
  · rintro ⟨h⟩
    exact h

/-- Validation fails with the first violation in its order. -/
theorem validate_eq_error_iff (c : Complete) (e : SetupError) :
    c.validate = .error e ↔ FirstViolated checks c.Violates e := by
  refine firstViolated_bind timeout_eq_error_iff (fun _ _ => firstViolated_bind timeout_eq_error_iff
    fun _ _ e => ?monitor) e
  rw [firstViolated_singleton]
  split
  case isTrue h =>
    obtain ⟨aware, hnone⟩ : c.features.networkAwareness = true ∧ c.networkChange = none := by
      simpa using h
    constructor
    · rintro ⟨⟩
      exact .unmonitored aware hnone
    · rintro ⟨⟩
      rfl
  case isFalse h =>
    constructor
    · rintro ⟨⟩
    · rintro ⟨⟩
      simp_all

theorem sound_iff {c : Complete} : c.Sound ↔ ∀ check ∈ checks, ∀ e, ¬ c.Violates check e := by
  constructor
  · rintro ⟨timeouts, monitored⟩ check _ e (h | ⟨aware, h⟩)
    · exact forall_not_outOfRange.mpr (timeouts _) e h
    · simpa [h] using monitored aware
  · intro h
    constructor
    case timeouts => exact allowed_of_unviolated .timeout (by rintro (_ | _) <;> simp [checks]) h
    case monitored =>
      intro aware
      by_contra hnone
      refine h (.provided .networkChange) (by simp [checks]) _ (.unmonitored aware ?_)
      simpa using hnone

theorem validate_eq_ok_iff (c : Complete) : c.validate = .ok () ↔ c.Sound := by
  rw [sound_iff, ← forall_not_firstViolated]
  simp only [← validate_eq_error_iff, ← ne_eq, ← exists_ok_iff]
  constructor
  · exact fun h => ⟨(), h⟩
  · rintro ⟨_, h⟩
    exact h

end Complete

/-! ## Building -/

namespace Settings

/-- The timeout that settings come to: half a minute for requests and five seconds for probes unless
another one is set. -/
def timeout (s : Settings) : Timeout → Duration
  | .request => s.requestTimeout.getD (.ofSeconds 30)
  | .probe => s.probeTimeout.getD (.ofSeconds 5)

/-- The object that is injected for a capability. -/
def injected (s : Settings) : Capability → Option Nat
  | .fileSystem => s.fileSystem
  | .httpClient => s.httpClient
  | .networkChange => s.networkChange

/-- Whether a configuration cannot do without a capability. -/
def Needs (s : Settings) : Capability → Prop
  | .networkChange => s.features.networkAwareness = true
  | _ => True

/-- What is wrong with settings. -/
inductive Violates (desktop : Option Desktop) (s : Settings) : Check → SetupError → Prop where
  | timeout {which : Timeout} {e : SetupError} (h : OutOfRange which (s.timeout which) e) :
    Violates desktop s (.timeout which) e
  | missing {capability : Capability} (needed : s.Needs capability)
      (h : s.injected capability = none) (bare : desktop = none) :
    Violates desktop s (.provided capability) (.capabilityMissing capability)
  /-- The desktop's own client is wanted and cannot be made. -/
  | client {d : Desktop} {complaint : String} (h : s.httpClient = none) (hd : desktop = some d)
      (made : d.makeClient (s.timeout .request) = .error complaint) :
    Violates desktop s (.provided .httpClient)
      (.host (.http s!"Failed to build HTTP client: {complaint}"))

/-- The order in which settings are checked. -/
def checks : List Check :=
  [.timeout .request, .timeout .probe, .provided .fileSystem, .provided .httpClient,
    .provided .networkChange]

/-- Settings that a configuration can be built from. -/
structure Suffices (desktop : Option Desktop) (s : Settings) : Prop where
  timeouts : ∀ which, Allowed (s.timeout which)
  /-- Without a desktop everything that is needed is injected. -/
  injected : desktop = none → ∀ capability, s.Needs capability → (s.injected capability).isSome
  /-- The desktop can make its own client if that is wanted. -/
  client : ∀ d, desktop = some d → s.httpClient = none →
    d.makeClient (s.timeout .request) = .ok ()

end Settings

section

variable {setting : Type} {capability : Capability} {object : Option Nat}
  {desktop : Option Desktop} {make : Desktop → Except SetupError setting}

theorem provide_eq_error_iff {e : SetupError} :
    provide capability object desktop make = .error e ↔ object = none ∧
      (desktop = none ∧ e = .capabilityMissing capability ∨
        ∃ d, desktop = some d ∧ make d = .error e) := by
  cases object with
  | some object => simp [provide]
  | none =>
    cases desktop with
    | none => simp [provide, eq_comm]
    | some d => cases h : make d <;> simp [provide, h]

/-- What is provided is an injected object exactly if there is one. -/
theorem eq_injected_iff_of_provide {provider : Provider setting}
    (h : provide capability object desktop make = .ok provider) (o : Nat) :
    provider = .injected o ↔ object = some o := by
  cases object with
  | some object =>
    obtain rfl := Except.ok.inj h
    simp
  | none =>
    cases desktop with
    | none => cases h
    | some d => cases hmake : make d <;> simp_all [provide, eq_comm]

theorem make_of_provide {made : setting}
    (h : provide capability object desktop make = .ok (.standard made)) :
    ∃ d, desktop = some d ∧ make d = .ok made := by
  cases object with
  | some object => cases h
  | none =>
    cases desktop with
    | none => cases h
    | some d => cases hmake : make d <;> simp_all [provide]

end

theorem Desktop.client_eq_error_iff {d : Desktop} {timeout : Duration} {e : SetupError} :
    d.client timeout = .error e ↔ ∃ complaint, d.makeClient timeout = .error complaint ∧
      e = .host (.http s!"Failed to build HTTP client: {complaint}") := by
  cases h : d.makeClient timeout <;> simp [client, h, eq_comm]

theorem Desktop.eq_of_client {d : Desktop} {timeout made : Duration}
    (h : d.client timeout = .ok made) : made = timeout := by
  cases hmake : d.makeClient timeout <;> simp_all [client]

namespace Settings

variable {desktop : Option Desktop} {s : Settings}

theorem timeout_eq_error_iff {which : Timeout} (e : SetupError) :
    checkTimeout which (s.timeout which) = .error e ↔ s.Violates desktop (.timeout which) e := by
  rw [checkTimeout_eq_error_iff]
  constructor
  · exact .timeout
  · rintro ⟨h⟩
    exact h

theorem fileSystem_eq_error_iff (e : SetupError) :
    provide .fileSystem s.fileSystem desktop (fun _ => .ok ()) = .error e ↔
      s.Violates desktop (.provided .fileSystem) e := by
  rw [provide_eq_error_iff]
  constructor
  · rintro ⟨hnone, ⟨bare, rfl⟩ | ⟨d, _, h⟩⟩
    · exact .missing trivial hnone bare
    · cases h
  · rintro ⟨⟩
    exact ⟨‹_›, .inl ⟨‹_›, rfl⟩⟩

theorem httpClient_eq_error_iff (e : SetupError) :
    provide .httpClient s.httpClient desktop (·.client (s.timeout .request)) = .error e ↔
      s.Violates desktop (.provided .httpClient) e := by
  rw [provide_eq_error_iff]
  simp only [Desktop.client_eq_error_iff]
  constructor
  · rintro ⟨hnone, ⟨bare, rfl⟩ | ⟨d, hd, complaint, made, rfl⟩⟩
    · exact .missing trivial hnone bare
    · exact .client hnone hd made
  · rintro ⟨⟩
    case missing bare _ hnone => exact ⟨hnone, .inl ⟨bare, rfl⟩⟩
    case client d complaint hnone hd made => exact ⟨hnone, .inr ⟨d, hd, complaint, made, rfl⟩⟩

theorem monitor_eq_error_iff (e : SetupError) :
    s.monitor desktop (s.timeout .probe) = .error e ↔
      s.Violates desktop (.provided .networkChange) e := by
  unfold monitor
  split
  case isTrue hwanted =>
    have hmap : ∀ x : Except SetupError (Provider Duration),
        some <$> x = .error e ↔ x = .error e := by
      intro x
      cases x <;> simp
    rw [hmap, provide_eq_error_iff]
    constructor
    · rintro ⟨hnone, ⟨bare, rfl⟩ | ⟨d, _, h⟩⟩
      · have aware : s.features.networkAwareness = true := by simpa [hnone] using hwanted
        exact .missing aware hnone bare
      · cases h
    · rintro ⟨⟩
      exact ⟨‹_›, .inl ⟨‹_›, rfl⟩⟩
  case isFalse hwanted =>
    simp only [Bool.or_eq_true, not_or] at hwanted
    constructor
    · rintro ⟨⟩
    · rintro ⟨⟩
      exact absurd ‹s.Needs .networkChange› hwanted.2

/-- The monitor in use, by what was injected and what is wanted. -/
theorem monitor_eq_ok {probeTimeout : Duration} {monitor : Option (Provider Duration)}
    (h : s.monitor desktop probeTimeout = .ok monitor) :
    (∀ o, monitor = some (.injected o) ↔ s.networkChange = some o) ∧
    (monitor.isSome ↔ s.networkChange.isSome ∨ s.features.networkAwareness = true) ∧
    ∀ made, monitor = some (.standard made) → made = probeTimeout := by
  unfold Settings.monitor at h
  split at h
  case isTrue hwanted =>
    cases hprovide : provide .networkChange s.networkChange desktop fun _ => .ok probeTimeout with
    | error e => simp [hprovide] at h
    | ok provider =>
      obtain rfl : some provider = monitor := by simpa [hprovide] using h
      refine ⟨fun o => ?_, by simpa using hwanted, ?_⟩
      · rw [Option.some_inj, eq_injected_iff_of_provide hprovide]
      · rintro made ⟨⟩
        obtain ⟨d, _, hmade⟩ := make_of_provide hprovide
        exact (Except.ok.inj hmade).symm
  case isFalse hwanted =>
    obtain rfl := Except.ok.inj h
    simp only [Bool.or_eq_true, not_or, Bool.not_eq_true, Option.isSome_eq_false_iff,
      Option.isNone_iff_eq_none] at hwanted
    simp [hwanted]

theorem suffices_iff :
    s.Suffices desktop ↔ ∀ check ∈ checks, ∀ e, ¬ s.Violates desktop check e := by
  constructor
  · rintro ⟨timeouts, injected, client⟩ check _ e (h | ⟨needed, h, bare⟩ | ⟨h, hd, made⟩)
    · exact forall_not_outOfRange.mpr (timeouts _) e h
    · simpa [h] using injected bare _ needed
    · rw [client _ hd h] at made
      cases made
  · intro h
    constructor
    case timeouts => exact allowed_of_unviolated .timeout (by rintro (_ | _) <;> simp [checks]) h
    case injected =>
      intro bare capability needed
      by_contra hnone
      refine h (.provided capability) ?_ _ (.missing needed (by simpa using hnone) bare)
      cases capability <;> simp [checks]
    case client =>
      intro d hd hnone
      cases hmake : d.makeClient (s.timeout .request) with
      | ok _ => rfl
      | error complaint =>
        exact absurd (.client hnone hd hmake) (h (.provided .httpClient) (by simp [checks]) _)

theorem build_eq_error_iff (e : SetupError) :
    s.build desktop = .error e ↔ FirstViolated checks (s.Violates desktop) e := by
  unfold build
  refine firstViolated_bind timeout_eq_error_iff (fun _ hrequest =>
    firstViolated_bind timeout_eq_error_iff fun _ hprobe =>
    firstViolated_bind fileSystem_eq_error_iff fun fileSystem _ =>
    firstViolated_bind httpClient_eq_error_iff fun httpClient _ =>
    firstViolated_bind monitor_eq_error_iff fun monitor hmonitor e => ?rest) e
  -- What has passed the checks so far passes validation.
  obtain ⟨_, hmonitored, _⟩ := monitor_eq_ok hmonitor
  have hsound : Complete.Sound
      ⟨fileSystem, httpClient, monitor, s.timeout .request, s.timeout .probe, s.features⟩ := by
    constructor
    case timeouts =>
      rintro (_ | _)
      · exact checkTimeout_eq_ok_iff.mp hrequest
      · exact checkTimeout_eq_ok_iff.mp hprobe
    case monitored => exact fun aware => hmonitored.mpr (.inr aware)
  have hvalid : Complete.validate ⟨fileSystem, httpClient, monitor,
      s.requestTimeout.getD defaultRequestTimeout, s.probeTimeout.getD defaultProbeTimeout,
      s.features⟩ = .ok () := (Complete.validate_eq_ok_iff _).mpr hsound
  simp only [hvalid, firstViolated_nil, iff_false]
  exact nofun

end Settings

/-- A configuration that does what settings ask for. -/
structure Complete.Serves (s : Settings) (config : Complete) : Prop where
  fileSystem : ∀ o, config.fileSystem = .injected o ↔ s.fileSystem = some o
  httpClient : ∀ o, config.httpClient = .injected o ↔ s.httpClient = some o
  networkChange : ∀ o, config.networkChange = some (.injected o) ↔ s.networkChange = some o
  /-- There is a monitor if one was injected or network awareness is on. -/
  monitored : config.networkChange.isSome ↔
    s.networkChange.isSome ∨ s.features.networkAwareness = true
  timeouts : ∀ which, config.timeout which = s.timeout which
  features : config.features = s.features
  /-- The desktop's own client has the request timeout. -/
  client : ∀ made, config.httpClient = .standard made → made = s.timeout .request
  /-- The desktop's own monitor has the probe timeout. -/
  monitor : ∀ made, config.networkChange = some (.standard made) → made = s.timeout .probe

theorem Settings.serves_of_build {desktop : Option Desktop} {s : Settings} {config : Complete}
    (h : s.build desktop = .ok config) : config.Serves s ∧ config.validate = .ok () := by
  unfold build at h
  simp only [bind_eq_ok] at h
  obtain ⟨_, _, _, _, fileSystem, hfileSystem, httpClient, hclient, monitor, hmonitor, _, hvalid,
    hconfig⟩ := h
  obtain rfl := Except.ok.inj hconfig
  obtain ⟨hinjected, hmonitored, hmade⟩ := monitor_eq_ok hmonitor
  refine ⟨?_, hvalid⟩
  constructor
  case fileSystem => exact eq_injected_iff_of_provide hfileSystem
  case httpClient => exact eq_injected_iff_of_provide hclient
  case networkChange => exact hinjected
  case monitored => exact hmonitored
  case timeouts => rintro (_ | _) <;> rfl
  case features => rfl
  case client =>
    rintro made rfl
    obtain ⟨d, _, hclient⟩ := make_of_provide hclient
    exact Desktop.eq_of_client hclient
  case monitor => exact hmade

/-! ## Later changes -/

/-- Each outcome is that of validation after the changes up to it. -/
theorem Complete.outcomes_changeAll (c : Complete) (changes : List Change) :
    (c.changeAll changes).1 =
      changes.inits.tail.map fun made => (made.foldl Complete.change c).validate := by
  induction changes generalizing c with
  | nil => rfl
  | cons change rest ih =>
    have hinits : ∀ l : List Change, l.inits = [] :: l.inits.tail := by
      intro l
      cases l <;> simp
    rw [List.inits_cons, List.tail_cons, hinits rest, List.map_cons, List.map_cons, List.map_map]
    simp only [changeAll, ih]
    rfl

/-- How a configuration is judged. -/
structure Complete.ValidateLaw (c : Complete) : Prop where
  accepted : c.validate = .ok () ↔ c.Sound
  refused : ∀ e, c.validate = .error e ↔ FirstViolated Complete.checks c.Violates e

theorem Complete.validateLaw (c : Complete) : c.ValidateLaw :=
  ⟨c.validate_eq_ok_iff, c.validate_eq_error_iff⟩

/-! ## The law -/

/-- What building from settings comes to. -/
structure Settings.BuildLaw (desktop : Option Desktop) (s : Settings)
    (outcome : Except SetupError Complete) : Prop where
  accepted : (∃ config, outcome = .ok config) ↔ s.Suffices desktop
  refused : ∀ e, outcome = .error e ↔ FirstViolated Settings.checks (s.Violates desktop) e
  serves : ∀ config, outcome = .ok config → config.Serves s
  valid : ∀ config, outcome = .ok config → config.validate = .ok ()
  /-- After each of some changes validation is asked again. -/
  changed : ∀ config, outcome = .ok config → ∀ changes : List Change,
    (config.changeAll changes).1 =
      changes.inits.tail.map fun made => (made.foldl Complete.change config).validate
  /-- Whatever is assigned later, validation finds what is wrong then: it judges every
  configuration, and not only those that were built or have been changed. -/
  judged : ∀ config : Complete, config.ValidateLaw

/-- Only the last call to each setting counts, and these calls decide what building comes to. -/
theorem last_calls_decide (desktop : Option Desktop) (calls : List Call) :
    (Settings.ofCalls calls).build desktop = (lastCalls calls).build desktop ∧
    (lastCalls calls).BuildLaw desktop ((Settings.ofCalls calls).build desktop) := by
  rw [ofCalls_eq_lastCalls]
  refine ⟨rfl, ?_⟩
  constructor
  case accepted =>
    rw [Settings.suffices_iff, ← forall_not_firstViolated, exists_ok_iff]
    simp only [ne_eq, Settings.build_eq_error_iff]
  case refused => exact Settings.build_eq_error_iff
  case serves => exact fun _ h => (Settings.serves_of_build h).1
  case valid => exact fun _ h => (Settings.serves_of_build h).2
  case changed => exact fun config _ changes => config.outcomes_changeAll changes
  case judged => exact Complete.validateLaw

/-- Of several things that are wrong the first one in the order is reported. -/
example : (Settings.ofCalls [.probeTimeout ⟨0, 0⟩, .requestTimeout ⟨300, 0⟩, .networkAwareness true,
    .requestTimeout ⟨300, 1⟩]).build none = .error (.timeoutTooLong .request) := by
  decide

end Hostlink.Config
