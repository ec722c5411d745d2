import Xnestjs.Program.GetElasticsearchConfig

/-!
# The authentication of the Elasticsearch client

Without an option `auth` the variables ask for one of three schemes, the first one that is
configured, with all that is configured for it. Name and password and the bearer come out so. An
API key is selected by its documented variable, but taken from another one, and without the
identifier that goes with it.
-/

set_option autoImplicit false

namespace Xnestjs.Analysis

open Xnestjs.Model Xnestjs.Program.GetElasticsearchConfig
open Xnestjs.Program.GetKafkaConfig (SettingGroup orEmpty)

section

variable (h : VarHelpers) (env : Env) (pre : String)

/-- The API key that the variables ask for, with its identifier when there is one.
SOURCE: README.md:78-79 -/
def documentedApiKey : ApiKey :=
  match env (pre ++ "API_KEY_ID") with
  | some id => .pair (.str id) (env.get (pre ++ "AUTH_API_KEY"))
  | none => .key (env.get (pre ++ "AUTH_API_KEY"))

/-- `after` is the first configured scheme with all that is configured for it, or what was there
before when there is none. -/
def AuthOfVariables (before after : SettingGroup ElasticsearchAuth) : Prop :=
  if (env.get (pre ++ "AUTH_USERNAME")).truthy then
    ∃ password, after = .built (.basic (env.get (pre ++ "AUTH_USERNAME")) password) ∧
      ∀ p, env (pre ++ "AUTH_PASSWORD") = some p → password = .str p
  else if (env.get (pre ++ "AUTH_BEARER")).truthy then
    after = .built (.bearer (env.get (pre ++ "AUTH_BEARER")))
  else if (env.get (pre ++ "AUTH_API_KEY")).truthy then
    after = .built (.apiKey (documentedApiKey env pre))
  else after = before

/-- Another scheme comes first, or there is no API key, or it is the same in both variables and
has no identifier. -/
def ApiKeyHarmless : Prop :=
  (env.get (pre ++ "AUTH_USERNAME")).truthy = true ∨
    (env.get (pre ++ "AUTH_BEARER")).truthy = true ∨
    (env.get (pre ++ "AUTH_API_KEY")).truthy = false ∨
    (env (pre ++ "API_KEY_ID") = none ∧
      env.get (pre ++ "API_KEY") = env.get (pre ++ "AUTH_API_KEY"))

/-- INTERNAL: the second assignment of an API key is the one that stays.
SOURCE: get-elasticsearch-config.ts:57-68 -/
theorem assignApiKey_auth (o : ElasticsearchConnectionOptions) :
    (assignApiKey env pre o).auth = .built (.apiKey (.key (env.get (pre ++ "API_KEY")))) := rfl

/-- INTERNAL: and it is the documented key when there is no identifier and both variables hold
the same. -/
theorem apiKey_documented_iff :
    ApiKey.key (env.get (pre ++ "API_KEY")) = documentedApiKey env pre ↔
      env (pre ++ "API_KEY_ID") = none ∧
        env.get (pre ++ "API_KEY") = env.get (pre ++ "AUTH_API_KEY") := by
  unfold documentedApiKey
  cases env (pre ++ "API_KEY_ID") with
  | none => simp
  | some id => simp

/-- INTERNAL: the authentication is decided by its own part. -/
theorem getElasticsearchConfig_auth (o : ElasticsearchConnectionOptions) :
    ∃ o', o'.auth = o.auth ∧
      (getElasticsearchConfig h env o pre).auth = (assignAuth env pre o').auth := by
  let nodes := assignNodes env pre o
  let filled := { nodes with settings := runEnvLines h env pre settingLines nodes.settings }
  obtain ⟨tls, htls⟩ := assignTls_writes h env pre filled
  obtain ⟨node, rest, hnodes⟩ := assignNodes_writes env pre o
  refine ⟨assignTls h env pre filled, ?_, rfl⟩
  calc (assignTls h env pre filled).auth = nodes.auth := by rw [htls]
    _ = (assignNodes env pre o).auth := rfl
    _ = o.auth := by rw [hnodes]

/-- **The authentication** that the variables ask for comes out, when no option is given, exactly
when no API key is in play that has an identifier or differs between its two variables.
SOURCE: get-elasticsearch-config.ts:47-69, README.md:75-79 -/
theorem elasticsearch_auth_iff (o : ElasticsearchConnectionOptions)
    (hauth : truthyGroup o.auth = false) :
    AuthOfVariables env pre o.auth (getElasticsearchConfig h env o pre).auth ↔
      ApiKeyHarmless env pre := by
  obtain ⟨o', hkept, hresult⟩ := getElasticsearchConfig_auth h env pre o
  rw [hresult, ← hkept]
  rw [← hkept] at hauth
  unfold AuthOfVariables ApiKeyHarmless assignAuth
  simp only [hauth, Bool.false_eq_true, if_false]
  cases hname : (env.get (pre ++ "AUTH_USERNAME")).truthy with
  | true =>
    have hpassword : ∀ p, env (pre ++ "AUTH_PASSWORD") = some p →
        Value.str (orEmpty env pre "AUTH_PASSWORD") = .str p := by
      intro p hp
      rw [orEmpty, hp, Option.getD_some]
    simp only [if_true, true_or, iff_true]
    exact ⟨_, rfl, hpassword⟩
  | false =>
    cases hbearer : (env.get (pre ++ "AUTH_BEARER")).truthy with
    | true => simp
    | false =>
      cases hkey : (env.get (pre ++ "AUTH_API_KEY")).truthy with
      | true =>
        simp only [if_true, Bool.false_eq_true, if_false, assignApiKey_auth,
          SettingGroup.built.injEq, ElasticsearchAuth.apiKey.injEq, apiKey_documented_iff,
          Bool.true_eq_false, false_or]
      | false => simp

end

/-- With the documented variable alone, the key is absent; with an identifier it is, too. -/
theorem api_key_read_from_other_variable :
    let h : VarHelpers := ⟨id, id, rfl, rfl⟩
    let env : Env := fun name => if name = "ELASTIC_AUTH_API_KEY" then some "k" else none
    let paired : Env := fun name =>
      if name = "ELASTIC_AUTH_API_KEY" then some "k"
      else if name = "ELASTIC_API_KEY_ID" then some "i" else none
    (getElasticsearchConfig h env .empty).auth = .built (.apiKey (.key .undefined)) ∧
      documentedApiKey env "ELASTIC_" = .key (.str "k") ∧
      (getElasticsearchConfig h paired .empty).auth = .built (.apiKey (.key .undefined)) ∧
      documentedApiKey paired "ELASTIC_" = .pair (.str "i") (.str "k") ∧
      ¬ AuthOfVariables env "ELASTIC_" (.given .undefined)
        (getElasticsearchConfig h env .empty).auth := by
  intro h env paired
  refine ⟨rfl, rfl, rfl, rfl, ?_⟩
  intro hasked
  have hkey : (getElasticsearchConfig h env .empty).auth =
      .built (.apiKey (.key (.str "k"))) := hasked
  cases hkey

/-- A bearer beside a key: the bearer comes first. -/
theorem elasticsearch_auth_bearer :
    let h : VarHelpers := ⟨id, id, rfl, rfl⟩
    let env : Env := fun name =>
      if name = "ELASTIC_AUTH_BEARER" then some "b"
      else if name = "ELASTIC_AUTH_API_KEY" then some "k" else none
    AuthOfVariables env "ELASTIC_" (.given .undefined)
        (getElasticsearchConfig h env .empty).auth ↔
      ApiKeyHarmless env "ELASTIC_" := by
  intro h env
  exact elasticsearch_auth_iff h env "ELASTIC_" .empty rfl

end Xnestjs.Analysis
