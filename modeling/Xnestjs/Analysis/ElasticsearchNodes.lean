import Xnestjs.Program.GetElasticsearchConfig
import Xnestjs.Model.SeparatedText

/-!
# The addresses of the Elasticsearch nodes

Four sources can name the nodes: the options `node` and `nodes`, their variables, and a default.
The client should get the addresses of the first one that is given, a text with commas as the
list of its parts. It does not when the chosen source is such a text, since nothing takes the
parts, and when the variable of `node` comes before the option `nodes`.
-/

set_option autoImplicit false

namespace Xnestjs.Analysis

open Xnestjs.Model Xnestjs.Program.GetElasticsearchConfig

/-- One entry of the nodes: a URL, or what is no text, an object or an array of objects. -/
inductive NodeEntry where
  | url (s : String)
  | options (id : ℕ)
  deriving DecidableEq, Repr

/-- The entries as the client takes them, each text for one URL. -/
def clientEntries : Value → List NodeEntry
  | .str s => [.url s]
  | .strs l => l.map .url
  | .obj id => [.options id]
  | _ => []

/-- The addresses that a source names, where a text may name several. -/
def namedAddresses : Value → List NodeEntry
  | .str s => (splitCommas s).map .url
  | v => clientEntries v

/-- `typeof v === 'string' && v.includes(',')` -/
def HasComma : Value → Prop
  | .str s => ',' ∈ s.toList
  | _ => False

/-- Whether the client takes a node for set. Of the empty text it is left open. -/
def isSet (emptyIsSet : Bool) (v : Value) : Bool :=
  !v.nullish && (emptyIsSet || v != .str "")

/-- The client prefers `node` to `nodes`. -/
def clientNodes (emptyIsSet : Bool) (c : ElasticsearchConnectionOptions) : Value :=
  if isSet emptyIsSet c.node then c.node else c.nodes

/-- INTERNAL: what is truthy is set in either reading. -/
theorem isSet_of_truthy (emptyIsSet : Bool) {v : Value} (h : v.truthy = true) :
    isSet emptyIsSet v = true := by
  cases v with
  | undefined => cases h
  | null => cases h
  | str s =>
    have hne : s ≠ "" := by simpa using h
    simp [isSet, hne]
  | _ => simp [isSet, Value.nullish]

/-- INTERNAL: without a comma a source names the entries that the client takes. -/
theorem namedAddresses_of_no_comma {v : Value} (h : ¬ HasComma v) :
    namedAddresses v = clientEntries v := by
  cases v with
  | str s =>
    have hcomma : ',' ∉ s.toList := h
    rw [namedAddresses, splitCommas_of_no_comma hcomma]
    rfl
  | _ => rfl

section

variable (emptyIsSet : Bool) (h : VarHelpers) (env : Env) (pre : String)
variable (o : ElasticsearchConnectionOptions)

/-- The first source that is given. -/
def chosenSource : Value :=
  o.node.orElse (o.nodes.orElse ((env.get (pre ++ "NODE")).orElse
    ((env.get (pre ++ "NODES")).orElse (.str "http://localhost:9200"))))

/-- The client gets the addresses of the chosen source, and a text with commas as a list. -/
def AddressesOfSource (c : ElasticsearchConnectionOptions) : Prop :=
  (∀ a, a ∈ clientEntries (clientNodes emptyIsSet c) ↔
    a ∈ namedAddresses (chosenSource env pre o)) ∧
  ∀ s, chosenSource env pre o = .str s → ',' ∈ s.toList →
    clientNodes emptyIsSet c = .strs (splitCommas s)

/-- The variable of `node` comes before a source of `nodes`: a text before the option, and an
empty text, if the client takes it for set, before either. -/
def NodeVariableFirst (s : String) : Prop :=
  env (pre ++ "NODE") = some s ∧ o.node.truthy = false ∧
    (s ≠ "" ∧ o.nodes.truthy = true ∨
      s = "" ∧ emptyIsSet = true ∧ (o.nodes.orElse (env.get (pre ++ "NODES"))).truthy = true)

/-- The chosen source is no text with commas, and a variable of `node` that comes before it
names the same addresses. -/
structure PlainSource : Prop where
  no_comma : ¬ HasComma (chosenSource env pre o)
  same : ∀ s, NodeVariableFirst emptyIsSet env pre o s →
    ∀ a, a = .url s ↔ a ∈ clientEntries (chosenSource env pre o)

/-! ## What the client takes -/

/-- INTERNAL: a node wins. SOURCE: get-elasticsearch-config.ts:12-15 -/
theorem clientNodes_of_node (hnode : (o.node.orElse (env.get (pre ++ "NODE"))).truthy = true) :
    clientNodes emptyIsSet (assignNodes env pre o) = o.node.orElse (env.get (pre ++ "NODE")) := by
  have hset := isSet_of_truthy emptyIsSet hnode
  simp [clientNodes, assignNodes, hnode, hset]

/-- INTERNAL: otherwise the nodes are used, unless an empty node is taken for set.
SOURCE: get-elasticsearch-config.ts:16-22 -/
theorem clientNodes_of_nodes (hnode : (o.node.orElse (env.get (pre ++ "NODE"))).truthy = false)
    (hnodes : (o.nodes.orElse (env.get (pre ++ "NODES"))).truthy = true) :
    clientNodes emptyIsSet (assignNodes env pre o) =
      if isSet emptyIsSet (o.node.orElse (env.get (pre ++ "NODE")))
      then o.node.orElse (env.get (pre ++ "NODE"))
      else o.nodes.orElse (env.get (pre ++ "NODES")) := by
  simp [clientNodes, assignNodes, hnode, hnodes]

/-- INTERNAL: without nodes there is a default. SOURCE: get-elasticsearch-config.ts:23 -/
theorem clientNodes_of_none (hnode : (o.node.orElse (env.get (pre ++ "NODE"))).truthy = false)
    (hnodes : (o.nodes.orElse (env.get (pre ++ "NODES"))).truthy = false) :
    clientNodes emptyIsSet (assignNodes env pre o) = .str "http://localhost:9200" := by
  have hset := isSet_of_truthy emptyIsSet (v := .str "http://localhost:9200") (by decide)
  simp [clientNodes, assignNodes, hnode, hnodes, hset]

/-- INTERNAL: the variable of the node comes first. SOURCE: get-elasticsearch-config.ts:12-23 -/
theorem clientNodes_of_first {s : String} (hfirst : NodeVariableFirst emptyIsSet env pre o s) :
    clientNodes emptyIsSet (assignNodes env pre o) = .str s := by
  obtain ⟨hvar, hnode, hcase⟩ := hfirst
  have hget : o.node.orElse (env.get (pre ++ "NODE")) = .str s := by
    rw [Value.orElse_of_falsy _ hnode, Env.get, hvar]
  rcases hcase with ⟨hs, -⟩ | ⟨rfl, hset, hnodes⟩
  · rw [clientNodes_of_node, hget]
    rw [hget]
    simpa using hs
  · rw [clientNodes_of_nodes _ _ _ _ (by rw [hget]; rfl) hnodes, hget]
    simp [isSet, hset]

/-- INTERNAL: without an own node, and with the variable of `node` unset or empty, the chosen
source is one of the nodes, or the default. -/
theorem chosenSource_of_falsy (hnode : o.node.truthy = false)
    (hvar : (env.get (pre ++ "NODE")).truthy = false) :
    chosenSource env pre o =
      (o.nodes.orElse (env.get (pre ++ "NODES"))).orElse (.str "http://localhost:9200") := by
  unfold chosenSource
  rw [Value.orElse_of_falsy _ hnode, Value.orElse_of_falsy _ hvar]
  cases hnodes : o.nodes.truthy with
  | true =>
    rw [Value.orElse_of_truthy _ hnodes, Value.orElse_of_truthy _ hnodes,
      Value.orElse_of_truthy _ hnodes]
  | false => rw [Value.orElse_of_falsy _ hnodes, Value.orElse_of_falsy _ hnodes]

/-- INTERNAL: an empty or unset variable of `node` is passed over. -/
theorem not_isSet_of_not_first (hnode : o.node.truthy = false)
    (hvar : (env.get (pre ++ "NODE")).truthy = false)
    (hnodes : (o.nodes.orElse (env.get (pre ++ "NODES"))).truthy = true)
    (hnone : ∀ s, ¬ NodeVariableFirst emptyIsSet env pre o s) :
    isSet emptyIsSet (env.get (pre ++ "NODE")) = false := by
  cases henv : env (pre ++ "NODE") with
  | none => simp [Env.get, henv, isSet]
  | some s =>
    obtain rfl := (Env.get_falsy_iff env _).mp hvar s henv
    have hset : emptyIsSet = false := by
      cases hset : emptyIsSet with
      | false => rfl
      | true => exact absurd ⟨henv, hnode, Or.inr ⟨rfl, hset, hnodes⟩⟩ (hnone "")
    simp [Env.get, henv, isSet, hset]

/-- INTERNAL: **the chosen source** is what the client takes, when no variable of `node` comes
before it. SOURCE: get-elasticsearch-config.ts:12-23 -/
theorem clientNodes_of_not_first (hnone : ∀ s, ¬ NodeVariableFirst emptyIsSet env pre o s) :
    clientNodes emptyIsSet (assignNodes env pre o) = chosenSource env pre o := by
  cases hnode : o.node.truthy with
  | true =>
    have hown : ∀ v, o.node.orElse v = o.node := fun v => Value.orElse_of_truthy v hnode
    rw [clientNodes_of_node _ _ _ _ (by rw [hown, hnode]), chosenSource, hown, hown]
  | false =>
    have hother : ∀ v, o.node.orElse v = v := fun v => Value.orElse_of_falsy v hnode
    cases hvar : (env.get (pre ++ "NODE")).truthy with
    | true =>
      have hnodes : o.nodes.truthy = false := by
        obtain ⟨s, henv, hs⟩ := (Env.get_truthy_iff env _).mp hvar
        cases hnodes : o.nodes.truthy with
        | false => rfl
        | true => exact absurd ⟨henv, hnode, Or.inl ⟨hs, hnodes⟩⟩ (hnone s)
      rw [clientNodes_of_node _ _ _ _ (by rw [hother, hvar]), chosenSource, hother, hother,
        Value.orElse_of_falsy _ hnodes, Value.orElse_of_truthy _ hvar]
    | false =>
      rw [chosenSource_of_falsy env pre o hnode hvar]
      cases hnodes : (o.nodes.orElse (env.get (pre ++ "NODES"))).truthy with
      | true =>
        have hset := not_isSet_of_not_first emptyIsSet env pre o hnode hvar hnodes hnone
        rw [clientNodes_of_nodes _ _ _ _ (by rw [hother, hvar]) hnodes, hother, hset,
          Value.orElse_of_truthy _ hnodes]
        rfl
      | false =>
        rw [clientNodes_of_none _ _ _ _ (by rw [hother, hvar]) hnodes,
          Value.orElse_of_falsy _ hnodes]

/-! ## When the client gets the addresses of the source -/

/-- INTERNAL: a value that is a text when the source is one has the addresses of the source
exactly when the source has no comma and the entries are the same. -/
theorem addresses_iff {v source : Value} (htext : ∀ s, source = .str s → ∃ t, v = .str t) :
    ((∀ a, a ∈ clientEntries v ↔ a ∈ namedAddresses source) ∧
        ∀ s, source = .str s → ',' ∈ s.toList → v = .strs (splitCommas s)) ↔
      ¬ HasComma source ∧ ∀ a, a ∈ clientEntries v ↔ a ∈ clientEntries source := by
  constructor
  · rintro ⟨hentries, hlist⟩
    have hcomma : ¬ HasComma source := by
      intro hcomma
      cases source with
      | str s =>
        obtain ⟨t, ht⟩ := htext s rfl
        have hstrs := hlist s rfl hcomma
        rw [ht] at hstrs
        cases hstrs
      | _ => exact hcomma
    rw [namedAddresses_of_no_comma hcomma] at hentries
    exact ⟨hcomma, hentries⟩
  · rintro ⟨hcomma, hentries⟩
    rw [namedAddresses_of_no_comma hcomma]
    refine ⟨hentries, ?_⟩
    rintro s rfl hmem
    exact absurd hmem hcomma

/-- **The addresses of the nodes** are those of the chosen source, split at its commas, exactly
when the source has none and no variable of `node` that comes before it names other addresses.
SOURCE: get-elasticsearch-config.ts:10-23, README.md:67-68 -/
theorem elasticsearch_addresses_iff :
    AddressesOfSource emptyIsSet env pre o (getElasticsearchConfig h env o pre) ↔
      PlainSource emptyIsSet env pre o := by
  obtain ⟨hnode, hnodes⟩ := getElasticsearchConfig_nodes h env pre o
  have hclient : clientNodes emptyIsSet (getElasticsearchConfig h env o pre) =
      clientNodes emptyIsSet (assignNodes env pre o) := by
    unfold clientNodes
    rw [hnode, hnodes]
  unfold AddressesOfSource
  rw [hclient]
  by_cases hfirst : ∃ s, NodeVariableFirst emptyIsSet env pre o s
  · obtain ⟨s, hs⟩ := hfirst
    have hentries : ∀ a, a ∈ clientEntries (.str s) ↔ a = .url s := by simp [clientEntries]
    rw [clientNodes_of_first emptyIsSet env pre o hs, addresses_iff fun _ _ => ⟨s, rfl⟩]
    constructor
    · rintro ⟨hcomma, hsame⟩
      refine ⟨hcomma, fun t ht a => ?_⟩
      obtain rfl : s = t := Option.some.inj (hs.1.symm.trans ht.1)
      rw [← hentries]
      exact hsame a
    · rintro ⟨hcomma, hsame⟩
      refine ⟨hcomma, fun a => ?_⟩
      rw [hentries]
      exact hsame s hs a
  · have hnone : ∀ s, ¬ NodeVariableFirst emptyIsSet env pre o s := not_exists.mp hfirst
    rw [clientNodes_of_not_first emptyIsSet env pre o hnone, addresses_iff fun s hs => ⟨s, hs⟩]
    constructor
    · rintro ⟨hcomma, -⟩
      exact ⟨hcomma, fun s hs => absurd hs (hnone s)⟩
    · rintro ⟨hcomma, -⟩
      exact ⟨hcomma, fun _ => Iff.rfl⟩

end

/-- The option `nodes` beside the variable of `node`, and a text with a comma: in both cases the
client gets another address than the source names. -/
theorem explicit_nodes_displaced :
    let h : VarHelpers := ⟨id, id, rfl, rfl⟩
    let env : Env := fun name => if name = "ELASTIC_NODE" then some "http://other:9200" else none
    let explicit := { ElasticsearchConnectionOptions.empty with nodes := .strs ["http://a"] }
    let listed := { ElasticsearchConnectionOptions.empty with node := .str "http://a, http://b" }
    clientEntries (clientNodes false (getElasticsearchConfig h env explicit)) =
        [.url "http://other:9200"] ∧
      ¬ AddressesOfSource false env "ELASTIC_" explicit (getElasticsearchConfig h env explicit) ∧
      clientEntries (clientNodes false (getElasticsearchConfig h env listed)) =
        [.url "http://a, http://b"] ∧
      ¬ AddressesOfSource false env "ELASTIC_" listed (getElasticsearchConfig h env listed) := by
  intro h env explicit listed
  refine ⟨by decide, fun hasked => ?_, by decide, fun hasked => ?_⟩
  · have hmem := (hasked.1 (.url "http://a")).mpr (by decide)
    revert hmem
    decide
  · have hlist := hasked.2 "http://a, http://b" (by decide) (by decide)
    revert hlist
    decide

end Xnestjs.Analysis
