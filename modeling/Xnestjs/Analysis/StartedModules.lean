import Xnestjs.Analysis.BootstrapReports
import Xnestjs.Analysis.KafkaSettings
import Xnestjs.Analysis.RabbitmqSettings
import Xnestjs.Analysis.RedisSettings
import Xnestjs.Program.Startups

/-!
# Which modules connect at the start

An application that starts connects its modules unless it asks for lazy ones. From the options
and the environment to the first call of a hook there are three functions in Redis and two in the
other packages, and each looks for something that the one before has filled in. The module starts
unless the options are refused or a constructor throws. The variable `LAZY_CONNECT` is read in
three packages of five, and some options that name nothing to connect to are taken as they are:
such a module starts without a connection and without a message.
-/

set_option autoImplicit false

namespace Xnestjs.Analysis

open Xnestjs.Model Xnestjs.Program

section

variable (h : GetRedisConfig.RedisVarHelpers) (env : Env) (pre : String)

/-- What is asked of `lazyConnect`: the option, or else the variable where there is one. -/
def askedLazy : RegisteredModule → Value
  | .redis options => ((options.getD .empty).settings .lazyConnect).coalesce
      (h.toBoolean ((env.get (pre ++ "LAZY_CONNECT")).coalesce (.str "false")))
  | .mongodb options => options.lazyConnect
  | .elasticsearch options => options.lazyConnect
  | .rabbitmq (.options o) => (o .lazyConnect).coalesce
      (h.toBoolean (env.get (pre ++ "LAZY_CONNECT")))
  | .rabbitmq _ => h.toBoolean (env.get (pre ++ "LAZY_CONNECT"))
  | .kafka options => (options.settings .lazyConnect).coalesce
      (h.toBoolean ((env.get (pre ++ "LAZY_CONNECT")).coalesce (.str "false")))

/-- The options name nothing to connect to, and nothing is filled in. -/
def NamesNothing : RegisteredModule → Prop
  | .redis options =>
    (options.getD .empty).nodes = some [] ∨ (options.getD .empty).nodes = some [.text ""]
  | .rabbitmq (.hosts l) => l = []
  | .rabbitmq (.options o) => RabbitmqCoreModule.hasLength (o .hosts) = false
  | _ => False

/-- How many calls a hook awaits, when none of them is rejected, `disconnect()` of the `finally`
aside. -/
def awaitedCalls : RegisteredModule → ℕ
  | .redis _ => 2
  | .kafka _ => 2
  | _ => 1

/-- The options of a Redis client are refused: a standalone configuration has no host, or one with
a scheme that is no URL. -/
def OptionsRefused (newURL : String → Option Url) :
    RegisteredModule → RedisCoreModule.CreateError → Prop
  | .redis options, .invalidConnectionOptions =>
    (options.getD .empty).nodes = none ∧ askedHost env pre (options.getD .empty) = ""
  | .redis options, .invalidUrl =>
    (options.getD .empty).nodes = none ∧
      RedisCoreModule.includesScheme (askedHost env pre (options.getD .empty)) = true ∧
      newURL (askedHost env pre (options.getD .empty)) = none
  | _, _ => False

/-- A constructor throws on what the resolved configuration gives it. -/
def ConstructorThrows (new : ClientConstructors) (newURL : String → Option Url) :
    RegisteredModule → String → Prop
  | .redis options, message =>
    ∃ client, RedisCoreModule.createClient newURL
        (GetRedisConfig.getRedisConfig h env options pre) = .ok client ∧
      new.redis client = .error message
  | .mongodb options, message =>
    let opts := MongodbCoreModule.connectionOptions h.toVarHelpers env options pre
    new.mongodb (MongodbCoreModule.createClient opts) = .error message ∨
      new.mongodb (MongodbCoreModule.createClient opts) = .ok () ∧
        (opts.settings .database).truthy = true ∧
        new.db (opts.settings .database) = .error message
  | .elasticsearch options, message =>
    new.elasticsearch
      (ElasticsearchCoreModule.connectionOptions h.toVarHelpers env options pre) = .error message
  | .rabbitmq init, message =>
    new.rabbitmq (GetRabbitmqConfig.getRabbitmqConfig h.toVarHelpers env init pre) = .error message
  | .kafka options, message =>
    new.kafka (GetKafkaConfig.getKafkaConfig h.toVarHelpers env options pre) = .error message

/-- How the start of a module fails. -/
def StartFails (new : ClientConstructors) (newURL : String → Option Url) (m : RegisteredModule) :
    StartError → Prop
  | .refused e => OptionsRefused env pre newURL m e
  | .thrown message => ConstructorThrows h env pre new newURL m message

end

/-! ## The client of Redis -/

section

open Xnestjs.Program.GetRedisConfig Xnestjs.Program.RedisCoreModule

variable (newURL : String → Option Url) {opts : RedisConnectionOptions}

/-- INTERNAL: a cluster is always created. SOURCE: redis-core.module.ts:110-116 -/
theorem createClient_cluster {l : List ClusterNode} (hnodes : opts.nodes = some l) :
    ∃ client, createClient newURL opts = .ok client ∧
      client.opts.settings .lazyConnect = .bool true := by
  unfold createClient isClusterOptions
  simp only [hnodes, Option.isSome_some, if_true]
  exact ⟨_, rfl, by simp only [CreatedClient.opts, Function.update_self]⟩

/-- INTERNAL: a single client needs a host that can be used. SOURCE: redis-core.module.ts:117-136 -/
theorem createClient_standalone (hnodes : opts.nodes = none) :
    (opts.host.getD "" = "" → createClient newURL opts = .error .invalidConnectionOptions) ∧
    (includesScheme (opts.host.getD "") = true → newURL (opts.host.getD "") = none →
      createClient newURL opts = .error .invalidUrl) ∧
    (opts.host.getD "" ≠ "" → (includesScheme (opts.host.getD "") = true →
        (newURL (opts.host.getD "")).isSome) →
      ∃ client, createClient newURL opts = .ok client ∧
        client.opts.settings .lazyConnect = .bool true) := by
  have hstandalone : isStandaloneOptions opts = (opts.host.getD "" != "") := by
    unfold isStandaloneOptions
    cases opts.host <;> rfl
  unfold createClient isClusterOptions
  simp only [hnodes, Option.isSome_none, Bool.false_eq_true, if_false, hstandalone, bne_iff_ne]
  generalize opts.host.getD "" = host
  refine ⟨fun hempty => if_neg (not_not.mpr hempty), fun hscheme hnone => ?_, fun hhost hurl => ?_⟩
  · have hhost : host ≠ "" := by
      rintro rfl
      exact absurd hscheme (by decide)
    simp [hhost, hscheme, hnone, throw, throwThe, MonadExceptOf.throw, bind, Except.bind]
  · rw [if_pos hhost]
    by_cases hscheme : includesScheme host = true
    · obtain ⟨url, hsome⟩ := Option.isSome_iff_exists.mp (hurl hscheme)
      simp only [hscheme, if_true, hsome]
      exact ⟨_, rfl, by simp only [CreatedClient.opts, Function.update_self]⟩
    · simp only [hscheme, Bool.false_eq_true, if_false]
      exact ⟨_, rfl, by simp only [CreatedClient.opts, Function.update_self]⟩

/-- INTERNAL: a node has a text, unless it is the empty text. -/
theorem nodeText_eq_empty_iff (n : ClusterNode) : nodeText n = "" ↔ n = .text "" := by
  cases n with
  | text s => simp [nodeText]
  | port n => simp [nodeText]
  | node host port => simp [nodeText]

/-- INTERNAL: the hosts of a cluster have a text, unless there is nothing to join.
SOURCE: redis-core.module.ts:157-166 -/
theorem intercalate_nodes_eq_empty_iff (l : List ClusterNode) :
    ", ".intercalate (l.map nodeText) = "" ↔ l = [] ∨ l = [.text ""] := by
  cases l with
  | nil => simp
  | cons n rest =>
    cases rest with
    | nil => simp [nodeText_eq_empty_iff]
    | cons m rest => simp

end

/-! ## The start of each module -/

section

variable (new : ClientConstructors) (newURL : String → Option Url)
variable (h : GetRedisConfig.RedisVarHelpers) (env : Env) (pre : String) (blue : String → String)

/-- The module starts as it is asked to: it is idle when it is asked to be lazy or there is
nothing to connect to, and otherwise awaits its calls with the timer set. -/
structure StartsAsAsked (m : RegisteredModule) (c : ConnectingModule) : Prop where
  idle : (askedLazy h env pre m).truthy = true ∨ NamesNothing m → c.bootstrapState blue = .idle
  connects : ¬ ((askedLazy h env pre m).truthy = true ∨ NamesNothing m) →
    c.bootstrapState blue = ⟨awaitedCalls m, true, greeting blue c⟩

variable {h env pre} in
/-- INTERNAL: what decides how a hook begins. -/
theorem StartsAsAsked.of_iff {m : RegisteredModule} {c : ConnectingModule}
    (hnothing : NothingToConnect c ↔ (askedLazy h env pre m).truthy = true ∨ NamesNothing m)
    (hcalls : furtherCalls c + 1 = awaitedCalls m) : StartsAsAsked h env pre blue m c where
  idle hasked := bootstrapState_of_nothing blue (hnothing.mpr hasked)
  connects hasked := by
    rw [bootstrapState_of_something blue fun h => hasked (hnothing.mp h), hcalls]

section

open Xnestjs.Program.GetRedisConfig Xnestjs.Program.RedisCoreModule

variable (options : Option RedisConnectionOptions)

/-- INTERNAL: `lazyConnect` of Redis is resolved as asked. SOURCE: get-redis-config.ts:55-56 -/
theorem getRedisConfig_lazyConnect :
    (getRedisConfig h env options pre).settings .lazyConnect =
      askedLazy h env pre (.redis options) := by
  unfold getRedisConfig
  by_cases hcluster : isClusterOptions (options.getD .empty) = true
  · simp only [hcluster, if_true, assignLazyConnect, Function.update_self]
    rfl
  · simp only [hcluster, Bool.false_eq_true, if_false, assignLazyConnect, Function.update_self]
    rfl

/-- INTERNAL: the client of the configuration. SOURCE: redis-core.module.ts:107-138 -/
theorem creation_of_config :
    (∀ e, createClient newURL (getRedisConfig h env options pre) = .error e ↔
      OptionsRefused env pre newURL (.redis options) e) ∧
    ∀ client, createClient newURL (getRedisConfig h env options pre) = .ok client →
      client.opts.settings .lazyConnect = .bool true := by
  cases hnodes : (options.getD .empty).nodes with
  | some l =>
    have hcluster : (options.getD .empty).nodes.isSome := by rw [hnodes]; rfl
    obtain ⟨client, hclient, hlazy⟩ := createClient_cluster newURL
      ((getRedisConfig_cluster h env pre options hcluster).1.trans hnodes)
    rw [hclient]
    refine ⟨fun e => iff_of_false (fun h => nomatch h) ?_, fun client' hclient' => ?_⟩
    · cases e <;> simp [OptionsRefused, hnodes]
    · exact Except.ok.inj hclient' ▸ hlazy
  | none =>
    obtain ⟨hnone, hhost, -⟩ := getRedisConfig_standalone h env pre options hnodes
    obtain ⟨hempty, hurl, hok⟩ := createClient_standalone newURL hnone
    rw [hhost, Option.getD_some] at hempty hurl hok
    generalize hasked : askedHost env pre (options.getD .empty) = host at hempty hurl hok
    by_cases hhostEmpty : host = ""
    · rw [hempty hhostEmpty]
      refine ⟨fun e => ?_, fun client hclient => nomatch hclient⟩
      cases e with
      | invalidUrl =>
        have hscheme : includesScheme host = false := by
          rw [hhostEmpty]
          decide
        simp [OptionsRefused, hasked, hscheme]
      | invalidConnectionOptions => simp [OptionsRefused, hnodes, hasked, hhostEmpty]
    by_cases hbad : includesScheme host = true ∧ newURL host = none
    · rw [hurl hbad.1 hbad.2]
      refine ⟨fun e => ?_, fun client hclient => nomatch hclient⟩
      cases e with
      | invalidUrl => simp [OptionsRefused, hnodes, hasked, hbad]
      | invalidConnectionOptions => simp [OptionsRefused, hasked, hhostEmpty]
    · have hread : includesScheme host = true → (newURL host).isSome := by
        intro hscheme
        rw [Option.isSome_iff_ne_none]
        exact fun hnone => hbad ⟨hscheme, hnone⟩
      obtain ⟨client, hclient, hlazy⟩ := hok hhostEmpty hread
      rw [hclient]
      refine ⟨fun e => iff_of_false (fun h => nomatch h) ?_, fun client' hclient' => ?_⟩
      · cases e with
        | invalidUrl =>
          rintro ⟨-, hboth⟩
          rw [hasked] at hboth
          exact hbad hboth
        | invalidConnectionOptions =>
          rintro ⟨-, hasked'⟩
          exact hhostEmpty (hasked.symm.trans hasked')
      · exact Except.ok.inj hclient' ▸ hlazy

/-- INTERNAL: **the start of Redis**. SOURCE: get-redis-config.ts:11-58,
redis-core.module.ts:107-138, 153-179 -/
theorem redis_starts {client : CreatedClient}
    (hclient : createClient newURL (getRedisConfig h env options pre) = .ok client) :
    StartsAsAsked h env pre blue (.redis options)
      (.redis (getRedisConfig h env options pre) "wait") := by
  have hlazy := getRedisConfig_lazyConnect h env pre options
  have hhosts : hostsText (getRedisConfig h env options pre) = "" ↔
      NamesNothing (.redis options) := by
    unfold hostsText
    rw [isCluster_getRedisConfig]
    cases hnodes : (options.getD .empty).nodes with
    | some l =>
      have hcluster : (options.getD .empty).nodes.isSome := by rw [hnodes]; rfl
      rw [(getRedisConfig_cluster h env pre options hcluster).1, hnodes]
      simp only [Option.isSome_some, if_true, Option.getD_some, NamesNothing, hnodes,
        Option.some.injEq]
      exact intercalate_nodes_eq_empty_iff l
    | none =>
      obtain ⟨-, hhost, -⟩ := getRedisConfig_standalone h env pre options hnodes
      have hne : askedHost env pre (options.getD .empty) ≠ "" := by
        intro hempty
        have hfails := ((creation_of_config newURL h env pre options).1
          .invalidConnectionOptions).mpr ⟨hnodes, hempty⟩
        rw [hclient] at hfails
        cases hfails
      simp [hhost, hne, NamesNothing, hnodes]
  refine .of_iff blue ?_ (by simp [furtherCalls, awaitedCalls])
  show ((getRedisConfig h env options pre).settings .lazyConnect).truthy = true ∨
    hostsText (getRedisConfig h env options pre) = "" ↔ _
  rw [hlazy, hhosts]

end

section

open Xnestjs.Program.GetRabbitmqConfig Xnestjs.Program.RabbitmqCoreModule

/-- INTERNAL: a text always gives a host. SOURCE: get-rabbitmq-config.ts:12-18 -/
theorem rabbitmq_hosts_iff (init : RabbitmqInit) :
    hasLength (getRabbitmqConfig h.toVarHelpers env init pre .hosts) = false ↔
      NamesNothing (.rabbitmq init) := by
  have htext : ∀ s, hasLength (.strs (splitCommas s)) = true := by
    intro s
    simpa [hasLength] using splitCommas_ne_nil s
  cases init with
  | absent =>
    rw [resolved_hosts_text h.toVarHelpers env pre .absent "" (Or.inr ⟨rfl, rfl⟩), htext]
    simp [NamesNothing]
  | text s =>
    rw [resolved_hosts_text h.toVarHelpers env pre (.text s) s (Or.inl rfl), htext]
    simp [NamesNothing]
  | hosts l =>
    rw [resolved_unassigned h.toVarHelpers env pre _ (by decide)]
    show (!l.isEmpty) = false ↔ l = []
    simp
  | options o =>
    rw [resolved_unassigned h.toVarHelpers env pre _ (by decide)]
    show hasLength (o .hosts).omitNullish = false ↔ hasLength (o .hosts) = false
    cases o .hosts <;> rfl

/-- INTERNAL: that of RabbitMQ is, as a condition. SOURCE: get-rabbitmq-config.ts:33-35 -/
theorem rabbitmq_lazyConnect (init : RabbitmqInit) :
    (getRabbitmqConfig h.toVarHelpers env init pre .lazyConnect).truthy =
      (askedLazy h env pre (.rabbitmq init)).truthy := by
  have hresolved : getRabbitmqConfig h.toVarHelpers env init pre .lazyConnect =
      documentedValue h.toVarHelpers env pre init ⟨.lazyConnect, .boolean, "LAZY_CONNECT"⟩ :=
    (resolved_as_documented_iff h.toVarHelpers env pre init
      (s := ⟨.lazyConnect, .boolean, "LAZY_CONNECT"⟩) (by decide)).mpr trivial
  rw [hresolved, documentedValue_of_ne_hosts _ _ _ _ (by decide), Value.truthy_omitNullish]
  cases init <;> rfl

/-- INTERNAL: **the start of RabbitMQ**. SOURCE: get-rabbitmq-config.ts:6-36,
rabbitmq-core.module.ts:127-136 -/
theorem rabbitmq_starts (init : RabbitmqInit) :
    StartsAsAsked h env pre blue (.rabbitmq init)
      (.rabbitmq (getRabbitmqConfig h.toVarHelpers env init pre)) := by
  refine .of_iff blue ?_ rfl
  show (getRabbitmqConfig h.toVarHelpers env init pre .lazyConnect).truthy = true ∨
    hasLength (getRabbitmqConfig h.toVarHelpers env init pre .hosts) = false ↔ _
  rw [rabbitmq_lazyConnect, rabbitmq_hosts_iff]

end

section

open Xnestjs.Program.GetKafkaConfig Xnestjs.Program.KafkaCoreModule

/-- INTERNAL: **the start of Kafka**: there are always brokers to connect to.
SOURCE: get-kafka-config.ts:13-15, 79-81, kafka-core.module.ts:148-163 -/
theorem kafka_starts (options : KafkaConnectionOptions) :
    StartsAsAsked h env pre blue (.kafka options)
      (.kafka (bootstrapOptions (getKafkaConfig h.toVarHelpers env options pre))) := by
  have hlazy : (bootstrapOptions (getKafkaConfig h.toVarHelpers env options pre)).lazyConnect =
      askedLazy h env pre (.kafka options) := by
    refine (kafka_lazyConnect h.toVarHelpers env pre options).trans ?_
    unfold askedLazy Env.get
    cases env (pre ++ "LAZY_CONNECT") <;> rfl
  have hbrokers : (bootstrapOptions
      (getKafkaConfig h.toVarHelpers env options pre)).brokers.truthy = true := by
    show (brokersValue (some (options.brokers.getD _))).truthy = true
    cases options.brokers.getD (.list (splitCommas ((env (pre ++ "BROKERS")).getD "localhost"))) <;>
      rfl
  refine .of_iff blue ?_ rfl
  unfold NothingToConnect
  simp only [hlazy, hbrokers, Bool.true_eq_false, or_false, NamesNothing]

end

/-- INTERNAL: a module whose client is only constructed fails to start as the constructor does. -/
theorem constructed_iff {α : Type} (x : Except String α) (f : α → ConnectingModule) :
    (∀ e, (do let a ← x.mapError StartError.thrown; return f a) = Except.error e ↔
        ∃ message, e = .thrown message ∧ x = .error message) ∧
      ∀ c, (do let a ← x.mapError StartError.thrown; return f a) = Except.ok c →
        ∃ a, x = .ok a ∧ c = f a := by
  cases x with
  | error message =>
    refine ⟨fun e => ⟨fun herror => ⟨message, (Except.error.inj herror).symm, rfl⟩, ?_⟩,
      fun c hok => nomatch hok⟩
    rintro ⟨message', rfl, hmessage⟩
    rw [Except.error.inj hmessage]
    rfl
  | ok a =>
    refine ⟨fun e => ⟨fun herror => (nomatch herror), ?_⟩,
      fun c hok => ⟨a, rfl, (Except.ok.inj hok).symm⟩⟩
    rintro ⟨message, -, hmessage⟩
    cases hmessage

/-- INTERNAL: the start of a module, once its client is only to be constructed. -/
theorem start_of_constructed {m : RegisteredModule} {α : Type} {x : Except String α}
    {f : α → ConnectingModule}
    (hstart : m.start new newURL h env pre = do
      let a ← x.mapError StartError.thrown
      return f a)
    (haccepted : ∀ e, ¬ OptionsRefused env pre newURL m e)
    (hthrows : ∀ message, x = .error message ↔ ConstructorThrows h env pre new newURL m message)
    (hasked : ∀ a, x = .ok a → StartsAsAsked h env pre blue m (f a)) :
    (∀ e, m.start new newURL h env pre = .error e ↔ StartFails h env pre new newURL m e) ∧
      ∀ c, m.start new newURL h env pre = .ok c → StartsAsAsked h env pre blue m c := by
  obtain ⟨herror, hok⟩ := constructed_iff x f
  rw [hstart]
  refine ⟨fun e => (herror e).trans ?_, fun c hc => ?_⟩
  · cases e with
    | refused e => exact iff_of_false (fun ⟨_, he, _⟩ => nomatch he) (haccepted e)
    | thrown message =>
      refine ⟨?_, fun hthrown => ⟨message, rfl, (hthrows message).mpr hthrown⟩⟩
      rintro ⟨message', hmessage, hx⟩
      rw [StartError.thrown.inj hmessage]
      exact (hthrows message').mp hx
  · obtain ⟨a, hx, rfl⟩ := hok c hc
    exact hasked a hx

/-- INTERNAL: two constructors are one that may throw in either. -/
theorem constructed_both (x y : Except String Unit) (c : ConnectingModule) :
    (do x.mapError StartError.thrown; y.mapError StartError.thrown; return c) =
      (do (x >>= fun _ => y).mapError StartError.thrown; return c :
        Except StartError ConnectingModule) := by
  cases x with
  | error message => rfl
  | ok u => rfl

/-- INTERNAL: it throws what the first one throws, or else the second. -/
theorem both_eq_error_iff (x y : Except String Unit) (message : String) :
    (x >>= fun _ => y) = .error message ↔
      x = .error message ∨ x = .ok () ∧ y = .error message := by
  cases x with
  | error message' => simp [bind, Except.bind]
  | ok u => simp [bind, Except.bind]

/-- INTERNAL: the database is constructed when it is named. SOURCE: mongodb-core.module.ts:97-99 -/
theorem createDb_eq_error_iff (opts : MongodbCoreModule.ModuleConnectionOptions)
    (message : String) :
    MongodbCoreModule.createDb new opts = .error message ↔
      (opts.settings .database).truthy = true ∧
        new.db (opts.settings .database) = .error message := by
  unfold MongodbCoreModule.createDb
  split_ifs with hdatabase
  · simp [hdatabase]
  · simp [hdatabase]

/-- INTERNAL: **the start of Redis** fails where creating the client does.
SOURCE: get-redis-config.ts:11-58, redis-core.module.ts:107-138 -/
theorem redis_started
    (hstatus : ∀ client : RedisCoreModule.CreatedClient,
      client.opts.settings .lazyConnect = .bool true → ∀ s, new.redis client = .ok s → s = "wait")
    (options : Option GetRedisConfig.RedisConnectionOptions) :
    (∀ e, (RegisteredModule.redis options).start new newURL h env pre = .error e ↔
        StartFails h env pre new newURL (.redis options) e) ∧
      ∀ c, (RegisteredModule.redis options).start new newURL h env pre = .ok c →
        StartsAsAsked h env pre blue (.redis options) c := by
  obtain ⟨hrefused, hlazy⟩ := creation_of_config newURL h env pre options
  have hstart : (RegisteredModule.redis options).start new newURL h env pre = (do
      let client ← (RedisCoreModule.createClient newURL
        (GetRedisConfig.getRedisConfig h env options pre)).mapError .refused
      let status ← (new.redis client).mapError .thrown
      return .redis (GetRedisConfig.getRedisConfig h env options pre) status) := rfl
  cases hcreate : RedisCoreModule.createClient newURL
      (GetRedisConfig.getRedisConfig h env options pre) with
  | error e =>
    rw [hcreate] at hstart
    rw [hstart]
    refine ⟨fun e' => ?_, fun c hc => nomatch hc⟩
    cases e' with
    | refused e' =>
      show Except.error (StartError.refused e) = .error (.refused e') ↔
        OptionsRefused env pre newURL (.redis options) e'
      rw [← hrefused e', hcreate]
      simp
    | thrown message =>
      refine iff_of_false (fun h => nomatch h) ?_
      rintro ⟨client, hclient, -⟩
      rw [hcreate] at hclient
      cases hclient
  | ok client =>
    rw [hcreate] at hstart
    refine start_of_constructed new newURL h env pre blue hstart (fun e he => ?_)
      (fun message => ⟨fun hthrown => ⟨client, hcreate, hthrown⟩, ?_⟩) (fun status hnew => ?_)
    · have herror := (hrefused e).mpr he
      rw [hcreate] at herror
      cases herror
    · rintro ⟨client', hclient, hthrown⟩
      obtain rfl := Except.ok.inj (hcreate.symm.trans hclient)
      exact hthrown
    · obtain rfl := hstatus client (hlazy client hcreate) status hnew
      exact redis_starts newURL h env pre blue options hcreate

/-- **The start of a module**, from its options and the environment, with conversions of variables
that do not throw and constructors that may: it fails exactly when Redis is left with a standalone
configuration that has no host or one that is no URL, or a constructor throws on what the resolved
configuration gives it, with the error of that. Otherwise the hook is idle exactly when
`lazyConnect` is asked for or nothing is named to connect to, and it awaits all its calls when not,
a Redis client being connected by the hook and not before.
SOURCE: `forRoot`, `_createDynamicModule` and `onApplicationBootstrap` of the five packages -/
theorem module_starts_as_asked
    (hstatus : ∀ client : RedisCoreModule.CreatedClient,
      client.opts.settings .lazyConnect = .bool true → ∀ s, new.redis client = .ok s → s = "wait")
    (m : RegisteredModule) :
    (∀ e, m.start new newURL h env pre = .error e ↔ StartFails h env pre new newURL m e) ∧
      ∀ c, m.start new newURL h env pre = .ok c → StartsAsAsked h env pre blue m c := by
  cases m with
  | redis options => exact redis_started new newURL h env pre blue hstatus options
  | mongodb options =>
    refine start_of_constructed new newURL h env pre blue (constructed_both _ _ _) (fun _ => id)
      (fun message => ?_) fun _ _ => .of_iff blue (or_false _).symm.to_iff rfl
    rw [both_eq_error_iff, createDb_eq_error_iff]
    rfl
  | elasticsearch options =>
    exact start_of_constructed new newURL h env pre blue rfl (fun _ => id) (fun _ => Iff.rfl)
      fun _ _ => .of_iff blue (or_false _).symm.to_iff rfl
  | rabbitmq init =>
    exact start_of_constructed new newURL h env pre blue rfl (fun _ => id) (fun _ => Iff.rfl)
      fun _ _ => rabbitmq_starts h env pre blue init
  | kafka options =>
    exact start_of_constructed new newURL h env pre blue rfl (fun _ => id) (fun _ => Iff.rfl)
      fun _ _ => kafka_starts h env pre blue options

end

/-- A Redis module without options in an environment without variables starts with a greeting, two
calls to await and the timer set; with a constructor that throws MongoDB never starts. -/
theorem plain_redis_starts :
    let h : GetRedisConfig.RedisVarHelpers :=
      ⟨⟨id, fun v => if v = .str "false" then .bool false else v, rfl, rfl⟩,
        fun v d => if v = .undefined then d else v, fun _ => rfl⟩
    let new : ClientConstructors :=
      { redis client := .ok
          (if (client.opts.settings .lazyConnect).truthy then "wait" else "connecting")
        mongodb _ := .error "Invalid scheme"
        db _ := .ok ()
        elasticsearch _ := .ok ()
        rabbitmq _ := .ok ()
        kafka _ := .ok () }
    let start (m : RegisteredModule) (pre : String) :=
      m.start new (fun _ => none) h (fun _ => none) pre
    (∃ c, start (.redis none) "REDIS_" = .ok c ∧
      c.bootstrapState id = ⟨2, true, greeting id c⟩) ∧
    ∀ options, start (.mongodb options) "MONGODB_" = .error (.thrown "Invalid scheme") := by
  intro h new start
  have hstatus : ∀ client : RedisCoreModule.CreatedClient,
      client.opts.settings .lazyConnect = .bool true → ∀ s, new.redis client = .ok s →
        s = "wait" := by
    intro client hlazy s hs
    rw [← Except.ok.inj hs, hlazy]
    rfl
  have hstarts := fun m pre =>
    module_starts_as_asked new (fun _ => none) h (fun _ => none) pre id hstatus m
  refine ⟨?_, fun options => ((hstarts (.mongodb options) "MONGODB_").1 _).mpr (Or.inl rfl)⟩
  obtain ⟨hfails, hasked⟩ := hstarts (.redis none) "REDIS_"
  cases hstart : start (.redis none) "REDIS_" with
  | ok c =>
    refine ⟨c, rfl, (hasked c hstart).connects ?_⟩
    rintro (hlazy | hnone | hnone)
    · exact absurd hlazy (by decide)
    · cases hnone
    · cases hnone
  | error e =>
    exfalso
    have he := (hfails e).mp hstart
    cases e with
    | refused e =>
      cases e with
      | invalidConnectionOptions => exact absurd he.2 (by decide)
      | invalidUrl => exact absurd he.2.1 (by decide)
    | thrown message =>
      obtain ⟨client, -, hthrown⟩ := he
      cases hthrown

end Xnestjs.Analysis
