import Xnestjs.Program.RedisCoreModule

/-!
# The Redis configuration and its client

Three functions have to agree: `getRedisConfig` chooses the shape of a configuration and where
its common settings go, `isClusterOptions` tells the shapes apart, and `_createClient` builds
the client of that shape. Only an options object that already has nodes becomes a cluster: the
variable `NODES` is read where the nodes are known to be given.
-/

set_option autoImplicit false

namespace Xnestjs.Analysis

open Xnestjs.Model Xnestjs.Program.GetRedisConfig Xnestjs.Program.RedisCoreModule

/-- The common settings without a default. SOURCE: README.md:131-148 -/
def commonRedisSettings : List (Setting RedisSetting) :=
  [⟨.username, .text, "USERNAME"⟩,
    ⟨.password, .text, "PASSWORD"⟩,
    ⟨.autoResubscribe, .boolean, "AUTO_RESUBSCRIBE"⟩,
    ⟨.connectTimeout, .int, "CONNECT_TIMEOUT"⟩,
    ⟨.socketTimeout, .int, "SOCKET_TIMEOUT"⟩,
    ⟨.keepAlive, .int, "KEEP_ALIVE"⟩,
    ⟨.noDelay, .boolean, "NO_DELAY"⟩,
    ⟨.connectionName, .text, "CONNECTION_NAME"⟩,
    ⟨.maxRetriesPerRequest, .int, "MAX_RETRIES_PER_REQUEST"⟩]

/-- Where a configuration keeps the common settings. -/
def commonPlace (cluster : Bool) (c : RedisConnectionOptions) : RedisSetting → Value :=
  if cluster then (c.redisOptions.getD .empty).settings else c.settings

section

variable (h : RedisVarHelpers) (env : Env) (pre : String)

/-- What is asked of a setting: explicit, else from its variable; an explicit `null` of
`maxRetriesPerRequest` counts. -/
def askedOfRedis (s : Setting RedisSetting) (o : RedisSetting → Value) : Value :=
  if s.field = .maxRetriesPerRequest ∧ o s.field = .null then .null
  else s.asked h.toVarHelpers env pre o

/-- A number with a default: explicit, else the variable when it is set, else the default. -/
def askedWithDefault (k : RedisSetting) (name : String) (d : ℚ) (o : RedisSetting → Value) :
    Value :=
  (o k).coalesce (match env (pre ++ name) with
    | some s => h.toIntDef (.str s) (.num d)
    | none => .num d)

/-- The host of a standalone configuration. -/
def askedHost (options : RedisConnectionOptions) : String :=
  options.host.getD ((env (pre ++ "HOST")).getD "localhost")

/-- The client is of the kind of the configuration. -/
def BuildsMatchingClient (newURL : String → Option Url) (c : RedisConnectionOptions) : Prop :=
  match createClient newURL c with
  | .ok (.cluster startupNodes _) => c.nodes = some startupNodes
  | .ok (.standalone _) => isClusterOptions c = false
  | .error _ => False

/-- What is promised of the configuration `c` that comes of `options`. -/
structure ResolvesRedis (newURL : String → Option Url) (options c : RedisConnectionOptions) :
    Prop where
  cluster_iff : isClusterOptions c = true ↔ options.nodes.isSome ∨
    options.host = none ∧ options.nodes = none ∧ env (pre ++ "HOST") = none ∧
      (env (pre ++ "NODES")).isSome
  given_nodes : ∀ l, options.nodes = some l → c.nodes = some l
  env_nodes : options.host = none → options.nodes = none → env (pre ++ "HOST") = none →
    ∀ s, env (pre ++ "NODES") = some s → c.nodes = some ((splitCommas s).map .text)
  db : commonPlace (isClusterOptions c) c .db =
    askedWithDefault h env pre .db "DB" 0 (commonPlace (isClusterOptions c) options)
  common : ∀ s ∈ commonRedisSettings, commonPlace (isClusterOptions c) c s.field =
    askedOfRedis h env pre s (commonPlace (isClusterOptions c) options)
  host : isClusterOptions c = false → c.host = some (askedHost env pre options)
  port : isClusterOptions c = false →
    c.settings .port = askedWithDefault h env pre .port "PORT" 6379 options.settings
  client : BuildsMatchingClient newURL c

/-- Nothing asks for nodes that are not given: there are some, or a host is asked for, or
`NODES` is not set. -/
def NodesGivenOrUnasked (options : RedisConnectionOptions) : Prop :=
  options.nodes.isSome ∨ options.host.isSome ∨ (env (pre ++ "HOST")).isSome ∨
    env (pre ++ "NODES") = none

/-- A standalone configuration has a host that a client can be built for: a text that is not
empty, and a URL that can be read if it looks like one. -/
def HostUsable (newURL : String → Option Url) (options : RedisConnectionOptions) : Prop :=
  options.nodes.isSome ∨ askedHost env pre options ≠ "" ∧
    (includesScheme (askedHost env pre options) = true →
      (newURL (askedHost env pre options)).isSome)

/-! ## The common settings -/

/-- INTERNAL: the conversion with a default does what its name says.
SOURCE: get-redis-config.ts:26,28 -/
theorem assignIntDef_self (k : RedisSetting) (name : String) (d : ℚ)
    (o : RedisSetting → Value) :
    assignIntDef h env pre k name d o k = askedWithDefault h env pre k name d o := by
  unfold assignIntDef askedWithDefault Env.get
  rw [Function.update_self]
  cases env (pre ++ name) with
  | none => rw [h.toIntDef_undefined]
  | some s => rfl

/-- INTERNAL: an assignment with a default changes its own setting only.
SOURCE: get-redis-config.ts:26-28 -/
theorem assignIntDef_other {k k' : RedisSetting} (hk : k' ≠ k) (name : String) (d : ℚ)
    (o : RedisSetting → Value) : assignIntDef h env pre k name d o k' = o k' :=
  Function.update_of_ne hk _ _

/-- INTERNAL: the lines of the common settings as one list. -/
theorem assignCommon_settings (o : RedisOptions) :
    (assignCommon h env pre o).settings = assignMaxRetries h env pre
      (runEnvLines h.toVarHelpers env pre (linesBeforeReconnect ++ linesAfterReconnect)
        (assignIntDef h env pre .db "DB" 0 o.settings)) := by
  rw [runEnvLines_append]
  rfl

/-- INTERNAL: settings that are not common ones are left alone. -/
theorem assignCommon_untouched (o : RedisOptions) {k : RedisSetting}
    (hlines : k ∉ (linesBeforeReconnect ++ linesAfterReconnect).map EnvLine.target)
    (hdb : k ≠ .db) (hretries : k ≠ .maxRetriesPerRequest) :
    (assignCommon h env pre o).settings k = o.settings k := by
  rw [assignCommon_settings, assignMaxRetries, Function.update_of_ne hretries,
    runEnvLines_untouched h.toVarHelpers env pre hlines, assignIntDef_other h env pre hdb]

/-- INTERNAL: the database has a default. SOURCE: get-redis-config.ts:28 -/
theorem assignCommon_db (o : RedisOptions) :
    (assignCommon h env pre o).settings .db =
      askedWithDefault h env pre .db "DB" 0 o.settings := by
  rw [assignCommon_settings, assignMaxRetries, Function.update_of_ne (by decide),
    runEnvLines_untouched h.toVarHelpers env pre (by decide), assignIntDef_self]

/-- INTERNAL: **each common setting** is what is asked of it. SOURCE: get-redis-config.ts:29-54 -/
theorem assignCommon_setting (o : RedisOptions) (s : Setting RedisSetting)
    (hs : s ∈ commonRedisSettings) :
    (assignCommon h env pre o).settings s.field = askedOfRedis h env pre s o.settings := by
  have hdb : s.field ≠ .db := by
    revert s
    decide
  rw [assignCommon_settings]
  unfold askedOfRedis
  by_cases hretries : s.field = .maxRetriesPerRequest
  · have hline : s = ⟨.maxRetriesPerRequest, .int, "MAX_RETRIES_PER_REQUEST"⟩ := by
      revert s
      decide
    subst hline
    rw [assignMaxRetries, Function.update_self,
      runEnvLines_untouched h.toVarHelpers env pre (by decide),
      assignIntDef_other h env pre hdb]
    simp only [true_and]
    rfl
  · have hline : (linesBeforeReconnect ++ linesAfterReconnect).filter
        (fun l => l.target = s.field) = [⟨s.field, s.field, s.type, s.name⟩] := by
      revert s
      decide
    rw [assignMaxRetries, Function.update_of_ne hretries,
      runEnvLines_own h.toVarHelpers env pre _ s hline, if_neg fun hboth => hretries hboth.1]
    unfold Setting.asked
    rw [assignIntDef_other h env pre hdb]

/-! ## The two shapes -/

variable (options : Option RedisConnectionOptions)

/-- INTERNAL: what the cluster branch returns. SOURCE: get-redis-config.ts:19-22,55-57 -/
theorem getRedisConfig_cluster (hcluster : (options.getD .empty).nodes.isSome) :
    (getRedisConfig h env options pre).nodes = (options.getD .empty).nodes ∧
      (getRedisConfig h env options pre).redisOptions =
        some (assignCommon h env pre ((options.getD .empty).redisOptions.getD .empty)) := by
  unfold getRedisConfig
  simp only [isClusterOptions, hcluster, if_true]
  obtain ⟨l, hl⟩ := Option.isSome_iff_exists.mp hcluster
  simp [hl]

/-- INTERNAL: what the other branch returns. SOURCE: get-redis-config.ts:23-27,55-57 -/
theorem getRedisConfig_standalone (halone : (options.getD .empty).nodes = none) :
    (getRedisConfig h env options pre).nodes = none ∧
      (getRedisConfig h env options pre).host =
        some (askedHost env pre (options.getD .empty)) ∧
      ∀ k ≠ RedisSetting.lazyConnect, (getRedisConfig h env options pre).settings k =
        (assignCommon h env pre ⟨some (askedHost env pre (options.getD .empty)),
          assignIntDef h env pre .port "PORT" 6379 (options.getD .empty).settings,
          (options.getD .empty).reconnectOnError⟩).settings k := by
  unfold getRedisConfig
  simp only [isClusterOptions, halone, Option.isSome_none, Bool.false_eq_true, if_false]
  refine ⟨trivial, rfl, fun k hk => ?_⟩
  unfold assignLazyConnect
  rw [Function.update_of_ne hk]
  rfl

/-- INTERNAL: the result has the shape of the argument. SOURCE: get-redis-config.ts:19-27 -/
theorem isCluster_getRedisConfig :
    isClusterOptions (getRedisConfig h env options pre) =
      (options.getD .empty).nodes.isSome := by
  unfold isClusterOptions
  cases hnodes : (options.getD .empty).nodes with
  | none => rw [(getRedisConfig_standalone h env pre options hnodes).1]
  | some l =>
    have hcluster : (options.getD .empty).nodes.isSome := by rw [hnodes]; rfl
    rw [(getRedisConfig_cluster h env pre options hcluster).1, hnodes]

/-- INTERNAL: **the common settings** are resolved where the shape keeps them.
SOURCE: get-redis-config.ts:19-54 -/
theorem getRedisConfig_common :
    let cluster := (options.getD .empty).nodes.isSome
    let c := getRedisConfig h env options pre
    commonPlace cluster c .db =
        askedWithDefault h env pre .db "DB" 0 (commonPlace cluster (options.getD .empty)) ∧
      ∀ s ∈ commonRedisSettings, commonPlace cluster c s.field =
        askedOfRedis h env pre s (commonPlace cluster (options.getD .empty)) := by
  intro cluster c
  by_cases hcluster : (options.getD .empty).nodes.isSome
  · have hresult := (getRedisConfig_cluster h env pre options hcluster).2
    simp only [cluster, c, commonPlace, hcluster, if_true, hresult, Option.getD_some]
    exact ⟨assignCommon_db h env pre _, assignCommon_setting h env pre _⟩
  · have halone : (options.getD .empty).nodes = none := by
      rwa [Option.isSome_iff_ne_none, not_not] at hcluster
    obtain ⟨-, -, hsettings⟩ := getRedisConfig_standalone h env pre options halone
    simp only [cluster, c, commonPlace, hcluster, Bool.false_eq_true, if_false]
    refine ⟨?_, ?_⟩
    · rw [hsettings .db (by decide), assignCommon_db]
      unfold askedWithDefault
      dsimp only
      rw [assignIntDef_other h env pre (by decide)]
    · intro s hs
      have hne : s.field ≠ .lazyConnect ∧ s.field ≠ .port := by
        revert s
        decide
      rw [hsettings s.field hne.1, assignCommon_setting h env pre _ s hs]
      unfold askedOfRedis Setting.asked
      simp only [assignIntDef_other h env pre hne.2]

/-! ## The client -/

/-- INTERNAL: a cluster configuration always gets its client.
SOURCE: redis-core.module.ts:110-116 -/
theorem buildsMatchingClient_cluster (newURL : String → Option Url) {c : RedisConnectionOptions}
    (hcluster : c.nodes.isSome) : BuildsMatchingClient newURL c := by
  obtain ⟨l, hl⟩ := Option.isSome_iff_exists.mp hcluster
  unfold BuildsMatchingClient createClient isClusterOptions
  simp [hl]

/-- INTERNAL: a standalone configuration gets its client when the host can be used.
SOURCE: redis-core.module.ts:117-136 -/
theorem buildsMatchingClient_standalone (newURL : String → Option Url)
    {c : RedisConnectionOptions} {host : String} (halone : c.nodes = none)
    (hhost : c.host = some host) :
    BuildsMatchingClient newURL c ↔
      host ≠ "" ∧ (includesScheme host = true → (newURL host).isSome) := by
  unfold BuildsMatchingClient createClient isClusterOptions isStandaloneOptions
  simp only [halone, hhost, Option.isSome_none, Bool.false_eq_true, if_false,
    Option.getD_some, bne_iff_ne]
  by_cases hempty : host = ""
  · simp [hempty]
  · simp only [hempty, not_false_eq_true, if_true, ne_eq, true_and]
    by_cases hscheme : includesScheme host = true
    · simp only [hscheme, if_true, forall_const]
      cases newURL host with
      | none => simp [throw, throwThe, MonadExceptOf.throw, bind, Except.bind]
      | some url => simp [pure, Except.pure, bind, Except.bind]
    · simp [hscheme, pure, Except.pure, bind, Except.bind]

/-! ## The configuration -/

/-- INTERNAL: with nodes given, all that is promised is kept.
SOURCE: get-redis-config.ts:19-22, redis-core.module.ts:110-116 -/
theorem resolvesRedis_of_nodes (newURL : String → Option Url)
    (hcluster : (options.getD .empty).nodes.isSome) :
    ResolvesRedis h env pre newURL (options.getD .empty) (getRedisConfig h env options pre) := by
  have hshape := isCluster_getRedisConfig h env pre options
  obtain ⟨hdb, hcommon⟩ := getRedisConfig_common h env pre options
  rw [← hshape] at hdb hcommon
  have hnodes := (getRedisConfig_cluster h env pre options hcluster).1
  have hcluster' : isClusterOptions (getRedisConfig h env options pre) = true := by
    rwa [hshape]
  refine ⟨?_, ?_, ?_, hdb, hcommon, ?_, ?_, ?_⟩
  · rw [hshape]
    exact ⟨.inl, fun _ => hcluster⟩
  · intro l hl
    rw [hnodes, hl]
  · intro _ hnone
    rw [hnone] at hcluster
    cases hcluster
  · intro hfalse
    rw [hcluster'] at hfalse
    cases hfalse
  · intro hfalse
    rw [hcluster'] at hfalse
    cases hfalse
  · apply buildsMatchingClient_cluster
    rwa [hnodes]

/-- INTERNAL: without nodes, nobody may ask for them through the environment alone, and the
host has to be usable. SOURCE: get-redis-config.ts:23-27, redis-core.module.ts:117-136 -/
theorem resolvesRedis_standalone_iff (newURL : String → Option Url)
    (halone : (options.getD .empty).nodes = none) :
    ResolvesRedis h env pre newURL (options.getD .empty) (getRedisConfig h env options pre) ↔
      ¬ ((options.getD .empty).host = none ∧ env (pre ++ "HOST") = none ∧
          (env (pre ++ "NODES")).isSome) ∧
        askedHost env pre (options.getD .empty) ≠ "" ∧
          (includesScheme (askedHost env pre (options.getD .empty)) = true →
            (newURL (askedHost env pre (options.getD .empty))).isSome) := by
  have hshape := isCluster_getRedisConfig h env pre options
  obtain ⟨hdb, hcommon⟩ := getRedisConfig_common h env pre options
  rw [← hshape] at hdb hcommon
  obtain ⟨hnodes, hhost, hsettings⟩ := getRedisConfig_standalone h env pre options halone
  have hclient := buildsMatchingClient_standalone newURL hnodes hhost
  have hcluster : isClusterOptions (getRedisConfig h env options pre) = false := by
    rw [hshape, halone]
    rfl
  constructor
  · intro hresolves
    refine ⟨?_, hclient.mp hresolves.client⟩
    rintro ⟨hnohost, hnovar, hset⟩
    have hpromised := hresolves.cluster_iff.mpr (.inr ⟨hnohost, halone, hnovar, hset⟩)
    rw [hcluster] at hpromised
    cases hpromised
  · rintro ⟨hunasked, husable⟩
    refine ⟨?_, ?_, ?_, hdb, hcommon, fun _ => hhost, fun _ => ?_, hclient.mpr husable⟩
    · rw [hshape]
      refine ⟨.inl, ?_⟩
      rintro (hgiven | ⟨hnohost, -, hnovar, hset⟩)
      · exact hgiven
      · exact absurd ⟨hnohost, hnovar, hset⟩ hunasked
    · intro l hl
      rw [halone] at hl
      cases hl
    · intro hnohost _ hnovar s hs
      exact absurd ⟨hnohost, hnovar, by rw [hs]; rfl⟩ hunasked
    · rw [hsettings .port (by decide), assignCommon_untouched h env pre _ (by decide)
        (by decide) (by decide)]
      exact assignIntDef_self h env pre .port "PORT" 6379 _

/-- INTERNAL: without nodes, nobody asks for them unless the environment alone does. -/
theorem nodesGivenOrUnasked_iff {o : RedisConnectionOptions} (halone : o.nodes = none) :
    NodesGivenOrUnasked env pre o ↔
      ¬ (o.host = none ∧ env (pre ++ "HOST") = none ∧ (env (pre ++ "NODES")).isSome) := by
  unfold NodesGivenOrUnasked
  rw [halone]
  cases o.host with
  | some _ => simp
  | none =>
    cases env (pre ++ "HOST") with
    | some _ => simp
    | none => simp

/-- **The Redis configuration** has the shape that is asked for, its settings in their place,
and a client of its shape, exactly when nobody asks for nodes through the environment alone
and the host of a standalone configuration can be used.
SOURCE: get-redis-config.ts:11-58, utils.ts:6-16, redis-core.module.ts:107-138 -/
theorem redis_configuration_iff (newURL : String → Option Url) :
    ResolvesRedis h env pre newURL (options.getD .empty) (getRedisConfig h env options pre) ↔
      NodesGivenOrUnasked env pre (options.getD .empty) ∧
        HostUsable env pre newURL (options.getD .empty) := by
  by_cases hcluster : (options.getD .empty).nodes.isSome
  · have hresolves := resolvesRedis_of_nodes h env pre options newURL hcluster
    exact iff_of_true hresolves ⟨.inl hcluster, .inl hcluster⟩
  · have halone : (options.getD .empty).nodes = none := by
      rwa [Option.isSome_iff_ne_none, not_not] at hcluster
    unfold HostUsable
    rw [nodesGivenOrUnasked_iff env pre halone, or_iff_right hcluster]
    exact resolvesRedis_standalone_iff h env pre options newURL halone

end

/-- With `REDIS_NODES` set and nothing else, the configuration is a standalone one. -/
theorem nodes_variable_ignored :
    let h : RedisVarHelpers := ⟨⟨id, id, rfl, rfl⟩,
      fun v d => if v = .undefined then d else v, fun _ => rfl⟩
    let env : Env := fun name => if name = "REDIS_NODES" then some "a:1, b:2" else none
    (getRedisConfig h env none).host = some "localhost" ∧
      ¬ ResolvesRedis h env "REDIS_" (fun _ => none) .empty (getRedisConfig h env none) := by
  intro h env
  refine ⟨by decide, fun hresolves => ?_⟩
  have hnodes := hresolves.env_nodes rfl rfl rfl "a:1, b:2" rfl
  have hnone : (getRedisConfig h env none).nodes = none := rfl
  rw [hnone] at hnodes
  cases hnodes

end Xnestjs.Analysis
