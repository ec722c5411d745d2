import Xnestjs.Program.ElasticsearchCoreModule

/-!
# How often the options factory of elasticsearch is called

The core module reads the connection options at bootstrap, and the client is built from the
connection options that are injected next to the service. There should be one value for both,
from one call of the user's factory. The definition is listed in two modules, so that the
factory is called twice, and the core module and the client get one result each.
-/

set_option autoImplicit false

namespace Xnestjs.Analysis

open Xnestjs.Model Xnestjs.Program.GetElasticsearchConfig Xnestjs.Program.ModuleRegistration
open Xnestjs.Program.ElasticsearchCoreModule

section

variable {U ι ε : Type} {nest : NestElasticsearch U} {r : Registration U} {o : ModuleOptions}
  {imports : List U} {inject : List Token}
variable {G : ι → ModuleFields ModuleClass Token ι} {place : U → ι}

/-- One value of the options is injected into both modules. -/
def SameOptions (G : ι → ModuleFields ModuleClass Token ι)
    (made : List (ι × Except ε ElasticsearchConnectionOptions)) (core service : ι) : Prop :=
  ∃ v, (∃ k, InjectedFrom G core (.options .elasticsearch) k ∧ (k, v) ∈ made) ∧
    ∃ k, InjectedFrom G service (.options .elasticsearch) k ∧ (k, v) ∈ made

/-- The factory is called once, and the core module and the client have the same options. -/
structure SingleOptions (G : ι → ModuleFields ModuleClass Token ι)
    (made : List (ι × Except ε ElasticsearchConnectionOptions)) (core service : ι) : Prop where
  once : made.length = 1
  same : SameOptions G made core service

/-! ## The two modules that list the options -/

/-- INTERNAL: the options are listed by the core module and by the module inside.
SOURCE: elasticsearch-core.module.ts:82-83 and 115-119 -/
theorem listsOptions_iff {x y n z : ι} (hxy : (G x).imports = [y]) (hyn : (G y).imports = [n])
    (hnz : (G n).imports = [z]) (m : ι) : ListsOptions nest r G x m ↔ m = y ∨ m = z := by
  have hparts := elasticsearch_partOf_iff nest r hxy hyn hnz
  constructor
  · rintro ⟨f, hpart, hlisted⟩
    obtain ⟨-, rfl⟩ | ⟨rfl, -⟩ | ⟨-, rfl⟩ | ⟨rfl, -⟩ := (hparts m f).mp hpart
    · cases hlisted
    · exact Or.inl rfl
    · exact absurd (optionsProvider_token r .elasticsearch) (nest.own_providers _ _ _ hlisted)
    · exact Or.inr rfl
  · rintro (rfl | rfl)
    · refine ⟨_, (hparts m _).mpr (Or.inr (Or.inl ⟨rfl, rfl⟩)), ?_⟩
      exact optionsProvider_mem nest r .elasticsearch
    · refine ⟨_, (hparts m _).mpr (Or.inr (Or.inr (Or.inr ⟨rfl, rfl⟩))), ?_⟩
      exact List.mem_singleton_self _

/-- INTERNAL: the core module has its own instance of the options.
SOURCE: elasticsearch-core.module.ts:82-83 -/
theorem core_injected_iff {y k : ι}
    (hy : Realizes G place y (.dynamic (coreModule nest r .elasticsearch))) :
    InjectedFrom G y (.options .elasticsearch) k ↔ k = y := by
  apply injectedFrom_iff_of_provides
  apply (hy.provides_iff _).mpr
  exact ⟨_, optionsProvider_mem nest r .elasticsearch, optionsProvider_token r .elasticsearch⟩

/-- INTERNAL: the module of the service has the instance of the module inside.
SOURCE: elasticsearch-core.module.ts:113-127 -/
theorem service_injected_iff {n z k : ι}
    (hn : Realizes G place n
      (.dynamic (aroundService nest (metadataWithoutGlobal .elasticsearch r))))
    (hnz : (G n).imports = [z])
    (hz : Realizes G place z
      (.dynamic (Elasticsearch.innerProviders (metadataWithoutGlobal .elasticsearch r)))) :
    InjectedFrom G n (.options .elasticsearch) k ↔ k = z := by
  have hexports : (G z).exports = [.token (.options .elasticsearch)] := by
    rw [hz.fields.2.2.2.2]
    simp [Elasticsearch.innerProviders, metadataWithoutGlobal, optionsProvider_token]
  apply injectedFrom_iff_of_import _ hnz
  · intro c hc
    simp [hexports] at hc
  · simp [hexports]
  · apply (hz.provides_iff _).mpr
    exact ⟨_, List.mem_singleton_self _, optionsProvider_token r .elasticsearch⟩
  · rw [hn.provides_iff]
    rintro ⟨p, hp, htoken⟩
    exact nest.own_providers _ _ p hp htoken

/-- INTERNAL: the class of a part tells which one it is.
SOURCE: elasticsearch-core.module.ts:105-128 -/
theorem part_of_class {x y n z w : ι} {g : Fields U} (hxy : (G x).imports = [y])
    (hyn : (G y).imports = [n]) (hnz : (G n).imports = [z])
    (hpart : PartOf G x (register nest .elasticsearch r) w g) :
    (g.moduleClass = .core .elasticsearch → w = y) ∧
      (g.moduleClass = .nestElasticsearch → w = n) := by
  obtain ⟨-, rfl⟩ | ⟨rfl, rfl⟩ | ⟨rfl, rfl⟩ | ⟨-, rfl⟩ :=
    (elasticsearch_partOf_iff nest r hxy hyn hnz w g).mp hpart
  · exact ⟨nofun, nofun⟩
  · exact ⟨fun _ => rfl, nofun⟩
  · rw [aroundService, nest.moduleClass]
    exact ⟨nofun, fun _ => rfl⟩
  · exact ⟨nofun, nofun⟩

/-- INTERNAL: the core module is the one that the wrapper imports.
SOURCE: elasticsearch-core.module.ts:107-109 -/
theorem isCore_iff {x y n z : ι} (hxy : (G x).imports = [y]) (hyn : (G y).imports = [n])
    (hnz : (G n).imports = [z]) (m : ι) : IsCore nest r G x m ↔ m = y := by
  constructor
  · intro hcore
    exact (part_of_class hxy hyn hnz hcore).1 rfl
  · rintro rfl
    apply (elasticsearch_partOf_iff nest r hxy hyn hnz _ _).mpr
    exact Or.inr (Or.inl ⟨rfl, rfl⟩)

/-- INTERNAL: the client is built in the module that the core module imports.
SOURCE: elasticsearch-core.module.ts:113-127 -/
theorem buildsClient_iff {x y n z : ι} (hxy : (G x).imports = [y]) (hyn : (G y).imports = [n])
    (hnz : (G n).imports = [z]) (m : ι) : BuildsClient nest r G x m ↔ m = n := by
  constructor
  · intro hservice
    exact (part_of_class hxy hyn hnz hservice).2 (nest.moduleClass _ _)
  · rintro rfl
    apply (elasticsearch_partOf_iff nest r hxy hyn hnz _ _).mpr
    exact Or.inr (Or.inr (Or.inl ⟨rfl, rfl⟩))

/-- INTERNAL: the nodes of a registration, and that they are different.
SOURCE: elasticsearch-core.module.ts:105-128 -/
theorem elasticsearch_nodes {x : ι} (hx : Realizes G place x (register nest .elasticsearch r)) :
    ∃ y n z, (G x).imports = [y] ∧ (G y).imports = [n] ∧ (G n).imports = [z] ∧ y ≠ z ∧
      Realizes G place y (.dynamic (coreModule nest r .elasticsearch)) ∧
      Realizes G place n
        (.dynamic (aroundService nest (metadataWithoutGlobal .elasticsearch r))) ∧
      Realizes G place z
        (.dynamic (Elasticsearch.innerProviders (metadataWithoutGlobal .elasticsearch r))) := by
  obtain ⟨y, hxy, hy⟩ := core_of_register nest _ _ hx
  obtain ⟨n, hyn, hn⟩ := hy.only_import rfl
  obtain ⟨z, hnz, hz⟩ := hn.only_import (aroundService_imports nest _)
  have hcore : (G y).moduleClass = .core .elasticsearch := hy.fields.1
  have hinner : (G z).moduleClass = .innerProviders := hz.fields.1
  refine ⟨y, n, z, hxy, hyn, hnz, ?_, hy, hn, hz⟩
  rintro rfl
  rw [hcore] at hinner
  cases hinner

section

variable {β : Type} {x : ι} (hx : Realizes G place x (register nest .elasticsearch r))
  (order : InstantiationOrder (ListsOptions nest r G x))

include hx

/-- INTERNAL: the options are made twice. SOURCE: elasticsearch-core.module.ts:82-83 and
115-119 -/
theorem length_instances_options (calls : ℕ → β) :
    (instances order.modules calls).length = 2 := by
  obtain ⟨y, n, z, hxy, hyn, hnz, hyz, -⟩ := elasticsearch_nodes hx
  rw [length_instances]
  rcases order.eq_pair hyz (listsOptions_iff hxy hyn hnz) with hmodules | hmodules
  · rw [hmodules]
    rfl
  · rw [hmodules]
    rfl

/-- INTERNAL: the core module and the client have one instance each.
SOURCE: elasticsearch-core.module.ts:53-131 -/
theorem sameOptions_iff {core service : ι} (hcore : IsCore nest r G x core)
    (hservice : BuildsClient nest r G x service)
    (calls : ℕ → Except ε ElasticsearchConnectionOptions) :
    SameOptions G (instances order.modules calls) core service ↔ calls 0 = calls 1 := by
  obtain ⟨y, n, z, hxy, hyn, hnz, hyz, hy, hn, hz⟩ := elasticsearch_nodes hx
  obtain rfl := (isCore_iff hxy hyn hnz core).mp hcore
  obtain rfl := (buildsClient_iff hxy hyn hnz service).mp hservice
  have horder := order.eq_pair hyz (listsOptions_iff hxy hyn hnz)
  rw [← same_instance_iff hyz horder]
  unfold SameOptions
  simp only [core_injected_iff hy, service_injected_iff hn hnz hz, exists_eq_left]

end

/-! ## The main result -/

/-- **The options factory is called twice**, for every registration and every factory: the core
module and the client never have the options of one single call, and they have equal options
exactly when the two calls come to the same. SOURCE: elasticsearch-core.module.ts:53-131 -/
theorem options_never_single {x core service : ι}
    (hx : Realizes G place x (register nest .elasticsearch (.forRootAsync o imports inject)))
    (hcore : IsCore nest (.forRootAsync o imports inject) G x core)
    (hservice : BuildsClient nest (.forRootAsync o imports inject) G x service)
    (order : InstantiationOrder (ListsOptions nest (.forRootAsync o imports inject) G x))
    (h : VarHelpers) (env : Env) (pre : String) (factory : UserFactory ε) :
    ¬ SingleOptions G (instances order.modules (useFactory h env pre factory)) core service ∧
      (instances order.modules (useFactory h env pre factory)).length = 2 ∧
      (SameOptions G (instances order.modules (useFactory h env pre factory)) core service ↔
        useFactory h env pre factory 0 = useFactory h env pre factory 1) := by
  have hlength := length_instances_options hx order (useFactory h env pre factory)
  refine ⟨fun hsingle => ?_, hlength, sameOptions_iff hx order hcore hservice _⟩
  have honce := hsingle.once
  rw [hlength] at honce
  cases honce

end

/-! ## An application with one registration -/

/-- The modules of the application. -/
inductive ElasticsearchApp where
  | app
  | wrapper
  | core
  | service
  | inner
  deriving DecidableEq

/-- `ElasticsearchModule.forRootAsync({ useFactory })` -/
def plainElasticsearch : Registration Empty := .forRootAsync ⟨none, none, none⟩ [] []

def elasticsearchApp : ElasticsearchApp → ModuleFields ModuleClass Token ElasticsearchApp
  | .app => ⟨.other "AppModule", false, [.wrapper], [], []⟩
  | .wrapper => ⟨.wrapper .elasticsearch, false, [.core], [], []⟩
  | .core =>
    let core := coreModule documentedElasticsearch plainElasticsearch .elasticsearch
    ⟨core.moduleClass, core.global, [.service], core.providers, core.exports⟩
  | .service =>
    let service := aroundService (documentedElasticsearch (U := Empty))
      (metadataWithoutGlobal .elasticsearch plainElasticsearch)
    ⟨service.moduleClass, service.global, [.inner], service.providers, service.exports⟩
  | .inner =>
    let inner := Elasticsearch.innerProviders (U := Empty)
      (metadataWithoutGlobal .elasticsearch plainElasticsearch)
    ⟨inner.moduleClass, inner.global, [], inner.providers, inner.exports⟩

/-- The application registers the module with plain options. -/
theorem elasticsearchApp_realizes : Realizes elasticsearchApp Empty.elim .wrapper
    (register documentedElasticsearch .elasticsearch plainElasticsearch) := by
  have hinner : Realizes elasticsearchApp Empty.elim .inner (.dynamic
      (Elasticsearch.innerProviders
        (metadataWithoutGlobal .elasticsearch plainElasticsearch))) :=
    .dynamic rfl rfl .nil rfl rfl
  have hservice : Realizes elasticsearchApp Empty.elim .service (.dynamic
      (aroundService documentedElasticsearch
        (metadataWithoutGlobal .elasticsearch plainElasticsearch))) :=
    .dynamic rfl rfl (.cons hinner .nil) rfl rfl
  have hcore : Realizes elasticsearchApp Empty.elim .core
      (.dynamic (coreModule documentedElasticsearch plainElasticsearch .elasticsearch)) :=
    .dynamic rfl rfl (.cons hservice .nil) rfl rfl
  exact .dynamic rfl rfl (.cons hcore .nil) rfl rfl

/-- The core module is instantiated first. -/
def elasticsearchOrder : InstantiationOrder
    (ListsOptions documentedElasticsearch plainElasticsearch elasticsearchApp .wrapper) where
  modules := [.core, .inner]
  nodup := by decide
  mem_iff m := by
    rw [listsOptions_iff (y := .core) (n := .service) (z := .inner) rfl rfl rfl]
    simp

/-- It has the core module. -/
theorem elasticsearchApp_core :
    IsCore documentedElasticsearch plainElasticsearch elasticsearchApp .wrapper .core :=
  (isCore_iff (n := .service) (z := .inner) rfl rfl rfl _).mpr rfl

/-- And the module that builds the client, apart from it. -/
theorem elasticsearchApp_service :
    BuildsClient documentedElasticsearch plainElasticsearch elasticsearchApp .wrapper .service :=
  (buildsClient_iff (y := .core) (z := .inner) rfl rfl rfl _).mpr rfl

/-- A factory that names another node at each call. -/
def alternatingFactory : UserFactory Empty := fun call =>
  .ok { ElasticsearchConnectionOptions.empty with
    node := .str (if call = 0 then "http://a:9200" else "http://b:9200") }

/-- A factory of options that gives others every time: the client is built from other options than
the core module reads. -/
theorem options_never_single_plain :
    let calls := useFactory ⟨id, id, rfl, rfl⟩ (fun _ => none) "ELASTIC_" alternatingFactory
    ¬ SingleOptions elasticsearchApp (instances elasticsearchOrder.modules calls) .core
        .service ∧
      (instances elasticsearchOrder.modules calls).length = 2 ∧
      (SameOptions elasticsearchApp (instances elasticsearchOrder.modules calls) .core .service ↔
        calls 0 = calls 1) :=
  options_never_single elasticsearchApp_realizes elasticsearchApp_core elasticsearchApp_service
    elasticsearchOrder _ _ _ _

/-- The factory is called twice here, and the client is built from other options than the core
module has. -/
theorem client_built_from_other_options :
    let calls := useFactory ⟨id, id, rfl, rfl⟩ (fun _ => none) "ELASTIC_" alternatingFactory
    (instances elasticsearchOrder.modules calls).length = 2 ∧
      ¬ SameOptions elasticsearchApp (instances elasticsearchOrder.modules calls) .core
        .service := by
  intro calls
  refine ⟨rfl, fun hsame => ?_⟩
  have hequal := (sameOptions_iff elasticsearchApp_realizes elasticsearchOrder
    elasticsearchApp_core elasticsearchApp_service calls).mp hsame
  have hnode := congrArg (Except.map ElasticsearchConnectionOptions.node) hequal
  revert hnode
  decide

end Xnestjs.Analysis
