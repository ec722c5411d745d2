import Xnestjs.Program.GetKafkaConfig

/-!
# `getElasticsearchConfig`

The function copies the options of the caller, decides where the addresses of the nodes come
from, and fills in what is missing from the environment. `tls` is built as the `ssl` of Kafka is,
from variables of other names; `auth` is one of three schemes. Options that the function neither
reads nor writes are left out.
-/

set_option autoImplicit false

namespace Xnestjs.Program.GetElasticsearchConfig

open Xnestjs.Model
open Xnestjs.Program.GetKafkaConfig (SettingGroup SslOptions checkServerIdentity orEmpty)

/-- The single settings, under the names of the options. -/
inductive ElasticsearchSetting where
  | maxRetries
  | requestTimeout
  | pingTimeout
  | name
  | caFingerprint
  | maxResponseSize
  | maxCompressedResponseSize
  deriving DecidableEq, Repr

inductive ApiKey where
  | key (apiKey : Value)
  | pair (id apiKey : Value)
  deriving DecidableEq

inductive ElasticsearchAuth where
  | basic (username password : Value)
  | bearer (token : Value)
  | apiKey (k : ApiKey)
  deriving DecidableEq

/-- `v` as a condition. -/
def truthyGroup {T : Type} : SettingGroup T → Bool
  | .given v => v.truthy
  | .built _ => true

/-- The argument and the result of `getElasticsearchConfig`. A node is a text, an array of texts
or an object. -/
structure ElasticsearchConnectionOptions where
  node : Value
  nodes : Value
  settings : ElasticsearchSetting → Value
  tls : SettingGroup SslOptions
  auth : SettingGroup ElasticsearchAuth

/-- `{}` -/
def ElasticsearchConnectionOptions.empty : ElasticsearchConnectionOptions :=
  ⟨.undefined, .undefined, fun _ => .undefined, .given .undefined, .given .undefined⟩

section

variable (h : VarHelpers) (env : Env) (pre : String)

/-- The nodes. A text with commas is split, but nothing takes the parts, so that it stays as it
is. SOURCE: get-elasticsearch-config.ts:12-23 -/
def assignNodes (options : ElasticsearchConnectionOptions) : ElasticsearchConnectionOptions :=
  let options := { options with node := options.node.orElse (env.get (pre ++ "NODE")) }
  let options :=
    if options.node.truthy then options
    else { options with nodes := options.nodes.orElse (env.get (pre ++ "NODES")) }
  if options.node.truthy ∨ options.nodes.truthy then options
  else { options with node := .str "http://localhost:9200" }

/-- SOURCE: get-elasticsearch-config.ts:24-28, 46, 70-76 -/
def settingLines : List (EnvLine ElasticsearchSetting) :=
  [⟨.maxRetries, .maxRetries, .int, "MAX_RETRIES"⟩,
    ⟨.requestTimeout, .requestTimeout, .int, "REQUEST_TIMEOUT"⟩,
    ⟨.pingTimeout, .pingTimeout, .int, "PING_TIMEOUT"⟩,
    ⟨.name, .name, .text, "NAME"⟩,
    ⟨.caFingerprint, .caFingerprint, .text, "CA_FINGERPRINT"⟩,
    ⟨.maxResponseSize, .maxResponseSize, .int, "MAX_RESPONSE_SIZE"⟩,
    ⟨.maxCompressedResponseSize, .maxCompressedResponseSize, .int,
      "MAX_COMPRESSED_RESPONSE_SIZE"⟩]

/-- SOURCE: get-elasticsearch-config.ts:30-45 -/
def assignTls (options : ElasticsearchConnectionOptions) : ElasticsearchConnectionOptions :=
  if options.tls.nullish ∧ (h.toBoolean (env.get (pre ++ "TLS"))).truthy then
    { options with
      tls := .built {
        ca := some [orEmpty env pre "TLS_CA_CERT"]
        cert := env.get (pre ++ "TLS_CERT_FILE")
        key := env.get (pre ++ "TLS_KEY_FILE")
        passphrase := env.get (pre ++ "TLS_KEY_PASSPHRASE")
        rejectUnauthorized := h.toBoolean (env.get (pre ++ "TLS_REJECT_UNAUTHORIZED"))
        checkServerIdentity := checkServerIdentity } }
  else options

/-- The two assignments of an API key, one after the other.
SOURCE: get-elasticsearch-config.ts:58-67 -/
def assignApiKey (options : ElasticsearchConnectionOptions) : ElasticsearchConnectionOptions :=
  let options :=
    if (env.get (pre ++ "API_KEY_ID")).truthy then
      { options with
        auth := .built (.apiKey
          (.pair (env.get (pre ++ "API_KEY_ID")) (env.get (pre ++ "API_KEY")))) }
    else options
  { options with auth := .built (.apiKey (.key (env.get (pre ++ "API_KEY")))) }

/-- SOURCE: get-elasticsearch-config.ts:47-69 -/
def assignAuth (options : ElasticsearchConnectionOptions) : ElasticsearchConnectionOptions :=
  if truthyGroup options.auth then options
  else if (env.get (pre ++ "AUTH_USERNAME")).truthy then
    { options with
      auth := .built (.basic (env.get (pre ++ "AUTH_USERNAME"))
        (.str (orEmpty env pre "AUTH_PASSWORD"))) }
  else if (env.get (pre ++ "AUTH_BEARER")).truthy then
    { options with auth := .built (.bearer (env.get (pre ++ "AUTH_BEARER"))) }
  else if (env.get (pre ++ "AUTH_API_KEY")).truthy then assignApiKey env pre options
  else options

/-- `getElasticsearchConfig(moduleOptions, prefix)`. The lines of the single settings are run
together, since no other line touches these.
SOURCE: get-elasticsearch-config.ts:6-78 -/
def getElasticsearchConfig (moduleOptions : ElasticsearchConnectionOptions)
    (pre : String := "ELASTIC_") : ElasticsearchConnectionOptions :=
  let options := assignNodes env pre moduleOptions
  let options := { options with settings := runEnvLines h env pre settingLines options.settings }
  let options := assignTls h env pre options
  assignAuth env pre options

end

/-! ## What each part writes -/

section

variable (h : VarHelpers) (env : Env) (pre : String) (o : ElasticsearchConnectionOptions)

/-- The assignments of the nodes write `node` and `nodes` only. -/
theorem assignNodes_writes :
    ∃ node nodes, assignNodes env pre o = { o with node := node, nodes := nodes } := by
  simp only [assignNodes]
  split_ifs <;> exact ⟨_, _, rfl⟩

/-- The one of `tls` writes `tls` only. -/
theorem assignTls_writes : ∃ tls, assignTls h env pre o = { o with tls := tls } := by
  unfold assignTls
  split_ifs <;> exact ⟨_, rfl⟩

/-- The one of `auth` writes `auth` only. -/
theorem assignAuth_writes : ∃ auth, assignAuth env pre o = { o with auth := auth } := by
  simp only [assignAuth, assignApiKey]
  split_ifs <;> exact ⟨_, rfl⟩

/-- The addresses are decided by the first part. -/
theorem getElasticsearchConfig_nodes :
    (getElasticsearchConfig h env o pre).node = (assignNodes env pre o).node ∧
      (getElasticsearchConfig h env o pre).nodes = (assignNodes env pre o).nodes := by
  let nodes := assignNodes env pre o
  let filled := { nodes with settings := runEnvLines h env pre settingLines nodes.settings }
  obtain ⟨tls, htls⟩ := assignTls_writes h env pre filled
  obtain ⟨auth, hauth⟩ := assignAuth_writes env pre { filled with tls := tls }
  have hresult : getElasticsearchConfig h env o pre =
      { filled with tls := tls, auth := auth } := by
    show assignAuth env pre (assignTls h env pre filled) = _
    rw [htls, hauth]
  rw [hresult]
  exact ⟨rfl, rfl⟩

section

variable {o o' : ElasticsearchConnectionOptions}

/-- The nodes depend on the nodes that are given. -/
theorem assignNodes_congr (hnode : o.node = o'.node) (hnodes : o.nodes = o'.nodes) :
    (assignNodes env pre o).node = (assignNodes env pre o').node ∧
      (assignNodes env pre o).nodes = (assignNodes env pre o').nodes := by
  simp only [assignNodes, hnode, hnodes]
  split_ifs <;> simp_all

/-- `tls` depends on the one that is given. -/
theorem assignTls_congr (htls : o.tls = o'.tls) :
    (assignTls h env pre o).tls = (assignTls h env pre o').tls := by
  simp only [assignTls, htls]
  split_ifs <;> simp_all

/-- `auth` depends on the one that is given. -/
theorem assignAuth_congr (hauth : o.auth = o'.auth) :
    (assignAuth env pre o).auth = (assignAuth env pre o').auth := by
  simp only [assignAuth, assignApiKey, hauth]
  split_ifs <;> simp_all

end

/-- INTERNAL: the parts of the function, each on its own part of the options.
SOURCE: get-elasticsearch-config.ts:6-78 -/
theorem getElasticsearchConfig_parts :
    getElasticsearchConfig h env o pre =
      { node := (assignNodes env pre o).node
        nodes := (assignNodes env pre o).nodes
        settings := runEnvLines h env pre settingLines o.settings
        tls := (assignTls h env pre o).tls
        auth := (assignAuth env pre o).auth } := by
  obtain ⟨node, nodes, hnodes⟩ := assignNodes_writes env pre o
  let filled : ElasticsearchConnectionOptions :=
    { o with
      node := node, nodes := nodes, settings := runEnvLines h env pre settingLines o.settings }
  obtain ⟨tls, htls⟩ := assignTls_writes h env pre filled
  obtain ⟨auth, hauth⟩ := assignAuth_writes env pre { filled with tls := tls }
  have hresult : getElasticsearchConfig h env o pre =
      { filled with tls := tls, auth := auth } := by
    calc getElasticsearchConfig h env o pre
        = assignAuth env pre (assignTls h env pre filled) := by
          unfold getElasticsearchConfig
          rw [hnodes]
      _ = { filled with tls := tls, auth := auth } := by rw [htls, hauth]
  have htls' : (assignTls h env pre o).tls = tls := by
    rw [assignTls_congr h env pre (show o.tls = filled.tls from rfl), htls]
  have hauth' : (assignAuth env pre o).auth = auth := by
    rw [assignAuth_congr env pre (show o.auth = { filled with tls := tls }.auth from rfl), hauth]
  rw [hresult, hnodes, htls', hauth']

end

end Xnestjs.Program.GetElasticsearchConfig
