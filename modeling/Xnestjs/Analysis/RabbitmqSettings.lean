import Xnestjs.Program.GetRabbitmqConfig

/-!
# The documented RabbitMQ settings

Each setting is asked for by the argument, or else by its own variable; the hosts have a
default. Four settings are not always resolved so: an options object without hosts gets none,
no line reads the variables of `connectionName` and `noDelay`, and `retryLow` is read from
the variable of `noDelay`.
-/

set_option autoImplicit false

namespace Xnestjs.Analysis

open Xnestjs.Model Xnestjs.Program.GetRabbitmqConfig

/-- The documented variables and the options they stand for. SOURCE: README.md:66-92 -/
def documentedRabbitmqSettings : List (Setting RabbitmqSetting) :=
  [⟨.hosts, .list, "HOSTS"⟩,
    ⟨.vhost, .text, "VHOST"⟩,
    ⟨.username, .text, "USERNAME"⟩,
    ⟨.password, .text, "PASSWORD"⟩,
    ⟨.acquireTimeout, .int, "ACQUIRE_TIMEOUT"⟩,
    ⟨.connectionName, .text, "CONNECTION_NAME"⟩,
    ⟨.connectionTimeout, .int, "CONNECTION_TIMEOUT"⟩,
    ⟨.frameMax, .int, "FRAME_MAX"⟩,
    ⟨.heartbeat, .int, "HEARTBEAT_INTERVAL"⟩,
    ⟨.maxChannels, .int, "MAX_CHANNELS"⟩,
    ⟨.retryHigh, .int, "RETRY_HIGH"⟩,
    ⟨.retryLow, .int, "RETRY_LOW"⟩,
    ⟨.noDelay, .boolean, "NO_DELAY"⟩,
    ⟨.lazyConnect, .boolean, "LAZY_CONNECT"⟩]

def explicitOptions : RabbitmqInit → RabbitmqSetting → Value
  | .absent => fun _ => .undefined
  | .text s => onlyHosts (.strs (splitCommas s))
  | .hosts l => onlyHosts (.strs l)
  | .options o => o

def documentedDefault : RabbitmqSetting → Value
  | .hosts => .strs ["localhost:5672"]
  | _ => .undefined

section

variable (h : VarHelpers) (env : Env) (pre : String)

/-- What a setting should come out as: explicit, else from its variable, else its default, and
absent when all these are nullish. -/
def documentedValue (init : RabbitmqInit) (s : Setting RabbitmqSetting) : Value :=
  ((s.asked h env pre (explicitOptions init)).coalesce (documentedDefault s.field)).omitNullish

/-- The settings that are not assigned by one line of their own. -/
def gapSettings : List RabbitmqSetting := [.hosts, .connectionName, .noDelay, .retryLow]

/-- What the gaps ask of the input for a setting to come out as documented. -/
def GapHarmless (init : RabbitmqInit) : RabbitmqSetting → Prop
  | .hosts =>
    match init with
    | .absent => env (pre ++ "HOSTS") ≠ some ""
    | .text s => s ≠ ""
    | .hosts _ => True
    | .options o => (o .hosts).nullish = false
  | .connectionName => (explicitOptions init .connectionName).nullish = true →
    env (pre ++ "CONNECTION_NAME") = none
  | .noDelay => (explicitOptions init .noDelay).nullish = true →
    (h.toBoolean (env.get (pre ++ "NO_DELAY"))).nullish = true
  | .retryLow => (explicitOptions init .retryLow).nullish = true →
    (h.toInt (env.get (pre ++ "NO_DELAY"))).omitNullish =
      (h.toInt (env.get (pre ++ "RETRY_LOW"))).omitNullish
  | _ => True

/-- INTERNAL: every other documented setting is assigned by one line, its own.
SOURCE: get-rabbitmq-config.ts:19-34 -/
theorem documented_rabbitmq_line (s : Setting RabbitmqSetting)
    (hs : s ∈ documentedRabbitmqSettings) (hc : s.field ∉ gapSettings) :
    settingLines.filter (fun l => l.target = s.field) =
      [⟨s.field, s.field, s.type, s.name⟩] := by
  revert s
  decide

/-- INTERNAL: apart from the hosts, the options before the assignments are the explicit
ones. SOURCE: get-rabbitmq-config.ts:11-18 -/
theorem initialOptions_explicit (init : RabbitmqInit) {f : RabbitmqSetting} (hf : f ≠ .hosts) :
    initialOptions env pre init f = explicitOptions init f := by
  cases init with
  | absent => simp only [initialOptions, explicitOptions, onlyHosts, Function.update_of_ne hf]
  | text s => simp only [initialOptions, explicitOptions, onlyHosts, Function.update_of_ne hf]
  | hosts l => rfl
  | options o => rfl

/-! ## The settings of the gaps -/

/-- INTERNAL: no line assigns these settings. SOURCE: get-rabbitmq-config.ts:19-34 -/
theorem resolved_unassigned (init : RabbitmqInit) {f : RabbitmqSetting}
    (hf : f ∉ settingLines.map EnvLine.target) :
    getRabbitmqConfig h env init pre f = (initialOptions env pre init f).omitNullish := by
  show (runEnvLines h env pre settingLines (initialOptions env pre init) f).omitNullish = _
  rw [runEnvLines_untouched h env pre hf]

/-- INTERNAL: `retryLow` falls back to the variable of `noDelay`.
SOURCE: get-rabbitmq-config.ts:31 -/
theorem resolved_retryLow (init : RabbitmqInit) :
    getRabbitmqConfig h env init pre .retryLow =
      ((explicitOptions init .retryLow).coalesce
        (h.toInt (env.get (pre ++ "NO_DELAY")))).omitNullish := by
  have hline := runEnvLines_own h env pre settingLines ⟨.retryLow, .int, "NO_DELAY"⟩
    (by decide) (initialOptions env pre init)
  have hexplicit := initialOptions_explicit env pre init (f := .retryLow) (by decide)
  show (runEnvLines h env pre settingLines (initialOptions env pre init)
    .retryLow).omitNullish = _
  rw [hline, Setting.asked, hexplicit]
  rfl

/-- INTERNAL: without a default, the documented value is what is asked. -/
theorem documentedValue_of_ne_hosts (init : RabbitmqInit) {s : Setting RabbitmqSetting}
    (hs : s.field ≠ .hosts) :
    documentedValue h env pre init s =
      (s.asked h env pre (explicitOptions init)).omitNullish := by
  have hdefault : documentedDefault s.field = .undefined := by
    unfold documentedDefault
    split
    · exact absurd ‹_› hs
    · rfl
  rw [documentedValue, hdefault, Value.coalesce_undefined_omitNullish]

/-- The text that the hosts are split from without a text of the caller. -/
def hostsOrDefault : String :=
  match env (pre ++ "HOSTS") with
  | some t => if t = "" then "localhost:5672" else t
  | none => "localhost:5672"

/-- INTERNAL: there is always a host. -/
theorem hostsOrDefault_ne_empty : hostsOrDefault env pre ≠ "" := by
  unfold hostsOrDefault
  cases env (pre ++ "HOSTS") with
  | none => decide
  | some t =>
    by_cases ht : t = ""
    · simp [ht]
    · simp [ht]

/-- INTERNAL: the variable is used unless it is empty. SOURCE: get-rabbitmq-config.ts:16-18 -/
theorem get_hosts_orElse_default :
    (env.get (pre ++ "HOSTS")).orElse (.str "localhost:5672") =
      .str (hostsOrDefault env pre) := by
  unfold hostsOrDefault Env.get
  cases env (pre ++ "HOSTS") with
  | none => exact Value.orElse_of_falsy _ rfl
  | some t =>
    by_cases ht : t = ""
    · simp only [if_pos ht]
      exact Value.orElse_of_falsy _ (by simp [ht])
    · simp only [if_neg ht]
      exact Value.orElse_of_truthy _ (by simp [ht])

/-- INTERNAL: a text is split when it is not empty. SOURCE: get-rabbitmq-config.ts:15-18 -/
theorem resolved_hosts_text (init : RabbitmqInit) (s : String)
    (hinit : init = .text s ∨ init = .absent ∧ s = "") :
    getRabbitmqConfig h env init pre .hosts =
      .strs (splitCommas (if s = "" then hostsOrDefault env pre else s)) := by
  have htext : (init.textValue.orElse (env.get (pre ++ "HOSTS"))).orElse
      (.str "localhost:5672") = .str (if s = "" then hostsOrDefault env pre else s) := by
    have hvalue : init.textValue.truthy = (s != "") := by
      rcases hinit with rfl | ⟨rfl, rfl⟩ <;> rfl
    by_cases hs : s = ""
    · rw [Value.orElse_of_falsy _ (hvalue.trans (by simp [hs])), if_pos hs]
      exact get_hosts_orElse_default env pre
    · have htruthy : init.textValue.truthy = true := hvalue.trans (by simp [hs])
      rw [Value.orElse_of_truthy _ htruthy, Value.orElse_of_truthy _ htruthy, if_neg hs,
        hinit.resolve_right fun hempty => hs hempty.2]
      rfl
  have hoptions : initialOptions env pre init .hosts =
      ((init.textValue.orElse (env.get (pre ++ "HOSTS"))).orElse
        (.str "localhost:5672")).splitList := by
    rcases hinit with rfl | ⟨rfl, -⟩
    · simp only [initialOptions, onlyHosts, Function.update_self]
    · simp only [initialOptions, onlyHosts, Function.update_self]
  rw [resolved_unassigned h env pre init (by decide), hoptions, htext]
  rfl

/-- INTERNAL: explicit hosts are documented to be the hosts. -/
theorem documented_hosts_of_given (init : RabbitmqInit)
    (hgiven : (explicitOptions init .hosts).nullish = false) :
    documentedValue h env pre init ⟨.hosts, .list, "HOSTS"⟩ = explicitOptions init .hosts := by
  unfold documentedValue Setting.asked
  rw [Value.coalesce_of_given _ hgiven, Value.coalesce_of_given _ hgiven,
    Value.omitNullish_of_given hgiven]

/-- INTERNAL: without explicit hosts they are documented to come from `HOSTS` or to be the
default, never to be absent. -/
theorem documented_hosts_of_nullish (init : RabbitmqInit)
    (hnull : (explicitOptions init .hosts).nullish = true) :
    documentedValue h env pre init ⟨.hosts, .list, "HOSTS"⟩ =
      .strs (match env (pre ++ "HOSTS") with
        | some t => splitCommas t
        | none => ["localhost:5672"]) := by
  unfold documentedValue Setting.asked Env.get
  rw [Value.coalesce_of_nullish _ hnull]
  cases env (pre ++ "HOSTS") with
  | none => rfl
  | some t => rfl

/-- INTERNAL: **the hosts** come out as documented from an array, from a text that is not
empty, from an options object that has them, and without an argument unless `HOSTS` is set to
the empty text. SOURCE: get-rabbitmq-config.ts:12-18 -/
theorem resolved_hosts_iff (init : RabbitmqInit) :
    getRabbitmqConfig h env init pre .hosts =
        documentedValue h env pre init ⟨.hosts, .list, "HOSTS"⟩ ↔
      GapHarmless h env pre init .hosts := by
  have hdefault : splitCommas "localhost:5672" = ["localhost:5672"] := by decide
  have hempty : splitCommas "" = [""] := (splitCommas_eq_empty_iff "").mpr rfl
  cases init with
  | absent =>
    rw [resolved_hosts_text h env pre .absent "" (Or.inr ⟨rfl, rfl⟩),
      documented_hosts_of_nullish h env pre .absent rfl]
    simp only [GapHarmless, if_true, hostsOrDefault]
    cases env (pre ++ "HOSTS") with
    | none => simp [hdefault]
    | some t =>
      by_cases ht : t = ""
      · simp [ht, hdefault, hempty]
      · simp [ht]
  | text s =>
    rw [resolved_hosts_text h env pre (.text s) s (Or.inl rfl),
      documented_hosts_of_given h env pre (.text s) rfl]
    show Value.strs _ = .strs (splitCommas s) ↔ s ≠ ""
    by_cases hs : s = ""
    · have hne : splitCommas (hostsOrDefault env pre) ≠ [""] := fun heq =>
        hostsOrDefault_ne_empty env pre ((splitCommas_eq_empty_iff _).mp heq)
      simp [hs, hempty, hne]
    · simp [hs]
  | hosts l =>
    rw [resolved_unassigned h env pre _ (by decide),
      documented_hosts_of_given h env pre (.hosts l) rfl]
    exact ⟨fun _ => trivial, fun _ => rfl⟩
  | options o =>
    rw [resolved_unassigned h env pre _ (by decide)]
    show (o .hosts).omitNullish = _ ↔ (o .hosts).nullish = false
    by_cases hnull : (o .hosts).nullish = true
    · rw [documented_hosts_of_nullish h env pre (.options o) hnull,
        Value.omitNullish_of_nullish hnull]
      simp [hnull]
    · rw [Bool.not_eq_true] at hnull
      rw [documented_hosts_of_given h env pre (.options o) hnull,
        Value.omitNullish_of_given hnull]
      simp [hnull, explicitOptions]

/-! ## Which settings come out as documented -/

/-- INTERNAL: **one setting** comes out as documented exactly when the gaps are harmless for
it. SOURCE: get-rabbitmq-config.ts:6-36 -/
theorem resolved_as_documented_iff (init : RabbitmqInit) {s : Setting RabbitmqSetting}
    (hs : s ∈ documentedRabbitmqSettings) :
    getRabbitmqConfig h env init pre s.field = documentedValue h env pre init s ↔
      GapHarmless h env pre init s.field := by
  by_cases hc : s.field ∈ gapSettings
  · have hcases : s = ⟨.hosts, .list, "HOSTS"⟩ ∨
        s = ⟨.connectionName, .text, "CONNECTION_NAME"⟩ ∨
        s = ⟨.noDelay, .boolean, "NO_DELAY"⟩ ∨ s = ⟨.retryLow, .int, "RETRY_LOW"⟩ := by
      revert s
      decide
    rcases hcases with rfl | rfl | rfl | rfl
    · exact resolved_hosts_iff h env pre init
    · rw [resolved_unassigned h env pre init (by decide),
        initialOptions_explicit env pre init (by decide),
        documentedValue_of_ne_hosts h env pre init (by decide)]
      unfold Setting.asked GapHarmless
      rw [Value.omitNullish_eq_coalesce_iff]
      exact imp_congr_right fun _ => Env.get_nullish_iff env _
    · rw [resolved_unassigned h env pre init (by decide),
        initialOptions_explicit env pre init (by decide),
        documentedValue_of_ne_hosts h env pre init (by decide)]
      exact Value.omitNullish_eq_coalesce_iff _ _
    · rw [resolved_retryLow, documentedValue_of_ne_hosts h env pre init (by decide)]
      exact Value.coalesce_omitNullish_congr_iff _ _ _
  · have hne : s.field ≠ .hosts := fun heq => hc (by rw [heq]; decide)
    have hdocumented : getRabbitmqConfig h env init pre s.field =
        documentedValue h env pre init s := by
      rw [documentedValue_of_ne_hosts h env pre init hne]
      show (runEnvLines h env pre settingLines (initialOptions env pre init)
        s.field).omitNullish = _
      rw [runEnvLines_own h env pre settingLines s (documented_rabbitmq_line s hs hc)]
      unfold Setting.asked
      rw [initialOptions_explicit env pre init hne]
    have hharmless : GapHarmless h env pre init s.field := by
      unfold GapHarmless
      split <;> simp_all [gapSettings]
    exact ⟨fun _ => hharmless, fun _ => hdocumented⟩

/-- **The documented settings** come out as documented, all of them, exactly when the gaps are
harmless for each. Between inputs of this kind with one prefix, a resolved setting depends on
nothing but what the argument supplies for it and its own variable.
SOURCE: get-rabbitmq-config.ts:6-36, README.md:66-92 -/
theorem documented_rabbitmq_settings_iff (init : RabbitmqInit) :
    ((∀ s ∈ documentedRabbitmqSettings,
      getRabbitmqConfig h env init pre s.field = documentedValue h env pre init s) ↔
      ∀ f, GapHarmless h env pre init f) ∧
    ∀ (env' : Env) (init' : RabbitmqInit),
      (∀ f, GapHarmless h env pre init f) → (∀ f, GapHarmless h env' pre init' f) →
      ∀ s ∈ documentedRabbitmqSettings,
        explicitOptions init s.field = explicitOptions init' s.field →
        env (pre ++ s.name) = env' (pre ++ s.name) →
        getRabbitmqConfig h env init pre s.field = getRabbitmqConfig h env' init' pre s.field := by
  have hall : ∀ f : RabbitmqSetting, ∃ s ∈ documentedRabbitmqSettings, s.field = f := by
    intro f
    cases f <;> decide
  refine ⟨⟨?_, ?_⟩, ?_⟩
  · intro hdocumented f
    obtain ⟨s, hs, rfl⟩ := hall f
    exact (resolved_as_documented_iff h env pre init hs).mp (hdocumented s hs)
  · intro hharmless s hs
    exact (resolved_as_documented_iff h env pre init hs).mpr (hharmless s.field)
  · intro env' init' hharmless hharmless' s hs hoption hvariable
    calc getRabbitmqConfig h env init pre s.field
        = documentedValue h env pre init s :=
          (resolved_as_documented_iff h env pre init hs).mpr (hharmless s.field)
      _ = documentedValue h env' pre init' s := by
          unfold documentedValue
          rw [Setting.asked_congr h hoption hvariable]
      _ = getRabbitmqConfig h env' init' pre s.field :=
          ((resolved_as_documented_iff h env' pre init' hs).mpr (hharmless' s.field)).symm

end

/-- With an options object that has a user name only, and `RMQ_HOSTS` set, there are no
hosts at all. -/
theorem options_object_ignores_hosts :
    ¬ ∀ (h : VarHelpers) (env : Env) (pre : String) (init : RabbitmqInit),
      ∀ s ∈ documentedRabbitmqSettings,
        getRabbitmqConfig h env init pre s.field = documentedValue h env pre init s := by
  intro hdocumented
  have hhosts := hdocumented ⟨id, id, rfl, rfl⟩
    (fun name => if name = "RMQ_HOSTS" then some "a:5672" else none) "RMQ_"
    (.options fun f => if f = .username then .str "guest" else .undefined)
    ⟨.hosts, .list, "HOSTS"⟩ (by decide)
  exact absurd hhosts (by decide)

end Xnestjs.Analysis
