import Xnestjs.Program.ModuleRegistration

/-!
# What the factory of `forRootAsync` can be given

The factory of the connection options is given the tokens of `inject`, which the application
expects to come from `imports`. Four core modules import these; those of mongodb and redisess
drop them, and that of elasticsearch drops them and declares the factory a second time, in a
module inside that imports nothing at all. What remains visible there is what the declaring
module has itself, and what is global.
-/

set_option autoImplicit false

namespace Xnestjs.Analysis

open Xnestjs.Model Xnestjs.Program.ModuleRegistration

/-- The tokens that every module with the factory has itself, where `opts.imports` is dropped.
SOURCE: mongodb/mongodb-core.module.ts:72-117, redisess/redisess-core.module.ts:67-96,
elasticsearch/elasticsearch-core.module.ts:115-119 -/
def ownTokens (p : Package) (o : ModuleOptions) : List Token :=
  match p with
  | .mongodb =>
    [.options .mongodb, o.token.getD (.client .mongodb), o.dbToken.getD .db,
      .clientToken .mongodb, .logger, .moduleId .mongodb]
  | .redisess =>
    [.options .redisess, o.token.getD (.client .redisess), .clientToken .redisess, .logger,
      .moduleId .redisess]
  | .elasticsearch => [.options .elasticsearch]
  | _ => []

section

variable {U ι : Type} (nest : NestElasticsearch U) (p : Package) (o : ModuleOptions)
  (imports : List U) (inject : List Token)
variable (G : ι → ModuleFields ModuleClass Token ι) (place : U → ι)

/-- The token is exported by one of the given imports. -/
def GivenByImports (t : Token) : Prop := ∃ u ∈ imports, Exports G (place u) t

/-- Below the node `x`, every module with the factory sees what the factory is given by the
imports. -/
def FactoryResolves (x : ι) : Prop :=
  ∀ (y : ι) (f : Fields U),
    PartOf G x (register nest p (.forRootAsync o imports inject)) y f →
    ⟨.options p, inject⟩ ∈ f.providers →
    ∀ t ∈ inject, GivenByImports imports G place t → Visible G y t

variable {nest p o imports inject G place}

/-! ## The modules that declare the factory -/

/-- INTERNAL: outside elasticsearch, only the core module declares the factory.
SOURCE: `_createDynamicModule` of the other six packages -/
theorem factoryResolves_iff_core {x y : ι} (hp : p ≠ .elasticsearch)
    (hxy : (G x).imports = [y]) :
    FactoryResolves nest p o imports inject G place x ↔
      ∀ t ∈ inject, GivenByImports imports G place t → Visible G y t := by
  have hcore : ∀ z g, PartOf G y
      (.dynamic (coreModule nest (.forRootAsync o imports inject) p)) z g ↔
        z = y ∧ g = coreModule nest (.forRootAsync o imports inject) p :=
    fun z g => partOf_iff_of_named (coreModule_imports_named nest _ p hp)
  constructor
  · intro h
    apply h y (coreModule nest (.forRootAsync o imports inject) p)
    · apply (partOf_iff_of_only_import hxy rfl).mpr
      exact .inr ((hcore _ _).mpr ⟨rfl, rfl⟩)
    · exact optionsProvider_mem nest (.forRootAsync o imports inject) p
  · rintro h z g hpart hdeclared t ht hgiven
    obtain ⟨rfl, rfl⟩ | hpart := (partOf_iff_of_only_import hxy rfl).mp hpart
    · cases hdeclared
    · obtain ⟨rfl, rfl⟩ := (hcore _ _).mp hpart
      exact h t ht hgiven

/-- INTERNAL: elasticsearch declares the factory in the core module and in the module inside.
SOURCE: elasticsearch/elasticsearch-core.module.ts:82-83 and 115-119 -/
theorem factoryResolves_iff_inner {x y n z : ι} (hxy : (G x).imports = [y])
    (hyn : (G y).imports = [n]) (hnz : (G n).imports = [z]) :
    FactoryResolves nest .elasticsearch o imports inject G place x ↔
      ∀ t ∈ inject, GivenByImports imports G place t → Visible G y t ∧ Visible G z t := by
  let r : Registration U := .forRootAsync o imports inject
  let metadata := metadataWithoutGlobal .elasticsearch r
  have hparts := elasticsearch_partOf_iff nest r hxy hyn hnz
  constructor
  · intro h t ht hgiven
    constructor
    · apply h y (coreModule nest r .elasticsearch) _ _ t ht hgiven
      · exact (hparts _ _).mpr (.inr (.inl ⟨rfl, rfl⟩))
      · exact optionsProvider_mem nest r .elasticsearch
    · apply h z (Elasticsearch.innerProviders metadata) _ _ t ht hgiven
      · exact (hparts _ _).mpr (.inr (.inr (.inr ⟨rfl, rfl⟩)))
      · exact List.mem_singleton_self _
  · intro h w g hpart hdeclared t ht hgiven
    obtain ⟨rfl, rfl⟩ | ⟨rfl, rfl⟩ | ⟨rfl, rfl⟩ | ⟨rfl, rfl⟩ := (hparts w g).mp hpart
    · cases hdeclared
    · exact (h t ht hgiven).1
    · exact absurd rfl (nest.own_providers _ _ _ hdeclared)
    · exact (h t ht hgiven).2

/-! ## What is visible there -/

/-- INTERNAL: a core module that keeps the imports sees what they export.
SOURCE: `imports` in `_createDynamicModule` of the four packages -/
theorem visible_of_keeps {y : ι} {r : Registration U} (hp : keepsImports p = true)
    (hy : Realizes G place y (.dynamic (coreModule nest r p))) {t : Token}
    (hgiven : GivenByImports r.imports G place t) : Visible G y t := by
  obtain ⟨u, hu, hexports⟩ := hgiven
  have himports := hy.named_imports (coreModule_imports_of_keeps nest r p hp)
  refine .inr (.inl ⟨place u, ?_, hexports⟩)
  rw [himports]
  exact List.mem_map_of_mem hu

/-- INTERNAL: in the two core modules without imports.
SOURCE: mongodb/mongodb-core.module.ts:118-128, redisess/redisess-core.module.ts:97-103 -/
theorem visible_dropped_iff {y : ι} (hp : p = .mongodb ∨ p = .redisess)
    (hy : Realizes G place y (.dynamic (coreModule nest (.forRootAsync o imports inject) p)))
    (t : Token) : Visible G y t ↔ t ∈ ownTokens p o ∨ GloballyVisible G t := by
  obtain rfl | rfl := hp
  · exact hy.visible_iff_of_no_imports rfl t
  · exact hy.visible_iff_of_no_imports rfl t

/-- INTERNAL: what the module inside the elasticsearch core module sees, the core module sees.
SOURCE: elasticsearch/elasticsearch-core.module.ts:82-83 -/
theorem visible_core_of_inner {y : ι} {t : Token}
    (hy : Realizes G place y
      (.dynamic (coreModule nest (.forRootAsync o imports inject) .elasticsearch)))
    (h : t ∈ ownTokens .elasticsearch o ∨ GloballyVisible G t) : Visible G y t := by
  obtain hown | hglobal := h
  · rw [List.mem_singleton.mp hown]
    left
    apply (hy.provides_iff _).mpr
    exact ⟨_, optionsProvider_mem nest (.forRootAsync o imports inject) .elasticsearch, rfl⟩
  · exact .inr (.inr hglobal)

/-! ## The main result -/

/-- **The factory is given what the imports export exactly when the core module keeps the
imports, or each such token is one that the declaring modules have anyway, or a global one.**
Kept are the imports of ioredis, kafka, rabbitmq and storage.
SOURCE: `forRootAsync` and `_createDynamicModule` of the seven packages -/
theorem factory_resolves_iff {x : ι}
    (hx : Realizes G place x (register nest p (.forRootAsync o imports inject))) :
    FactoryResolves nest p o imports inject G place x ↔
      keepsImports p = true ∨ ∀ t ∈ inject, GivenByImports imports G place t →
        t ∈ ownTokens p o ∨ GloballyVisible G t := by
  obtain ⟨y, hxy, hy⟩ := core_of_register nest _ p hx
  by_cases hes : p = .elasticsearch
  · subst hes
    obtain ⟨n, hyn, hn⟩ := hy.only_import rfl
    obtain ⟨z, hnz, hz⟩ := hn.only_import (aroundService_imports nest _)
    have hinner : ∀ t, Visible G z t ↔ t ∈ ownTokens .elasticsearch o ∨ GloballyVisible G t :=
      hz.visible_iff_of_no_imports rfl
    rw [factoryResolves_iff_inner hxy hyn hnz]
    constructor
    · intro h
      exact .inr fun t ht hgiven => (hinner t).mp (h t ht hgiven).2
    · rintro (hkeeps | h) t ht hgiven
      · cases hkeeps
      · have hvisible := h t ht hgiven
        exact ⟨visible_core_of_inner hy hvisible, (hinner t).mpr hvisible⟩
  · rw [factoryResolves_iff_core hes hxy]
    by_cases hkeeps : keepsImports p = true
    · constructor
      · exact fun _ => .inl hkeeps
      · exact fun _ t _ hgiven => visible_of_keeps hkeeps hy hgiven
    · have hp : p = .mongodb ∨ p = .redisess := by
        cases p with
        | mongodb => exact .inl rfl
        | redisess => exact .inr rfl
        | elasticsearch => exact absurd rfl hes
        | _ => exact absurd rfl hkeeps
      have hcore := visible_dropped_iff hp hy
      rw [or_iff_right hkeeps]
      constructor
      · exact fun h t ht hgiven => (hcore t).mp (h t ht hgiven)
      · exact fun h t ht hgiven => (hcore t).mpr (h t ht hgiven)

end

/-! ## A configuration module that is given to mongodb -/

/-- The modules of the application. -/
inductive MongodbApp where
  | app
  | config
  | wrapper
  | core

def configService : Token := .other "ConfigService"

/-- `MongodbModule.forRootAsync({ imports: [ConfigModule], inject: [ConfigService], … })` -/
def mongodbWithConfig : Registration Unit :=
  .forRootAsync ⟨none, none, none⟩ [()] [configService]

def mongodbApp : MongodbApp → ModuleFields ModuleClass Token MongodbApp
  | .app => ⟨.other "AppModule", false, [.wrapper], [], []⟩
  | .config =>
    ⟨.other "ConfigModule", false, [], [⟨configService, []⟩], [.token configService]⟩
  | .wrapper => ⟨.wrapper .mongodb, false, [.core], [], []⟩
  | .core =>
    let core := coreModule documentedElasticsearch mongodbWithConfig .mongodb
    ⟨core.moduleClass, core.global, [], core.providers, core.exports⟩

/-- The application registers the module that asks for a configuration. -/
theorem mongodbApp_realizes : Realizes mongodbApp (fun _ => .config) .wrapper
    (register documentedElasticsearch .mongodb mongodbWithConfig) := by
  have hcore : Realizes mongodbApp (fun _ => .config) .core
      (.dynamic (coreModule documentedElasticsearch mongodbWithConfig .mongodb)) :=
    .dynamic rfl rfl .nil rfl rfl
  exact .dynamic rfl rfl (.cons hcore .nil) rfl rfl

/-- Its import gives the token of the configuration. -/
theorem mongodbApp_given : GivenByImports [()] mongodbApp (fun _ => .config) configService := by
  refine ⟨(), List.mem_singleton_self (), ?_⟩
  apply Exports.own
  · exact List.mem_singleton_self _
  · exact ⟨⟨configService, []⟩, List.mem_singleton_self _, rfl⟩

/-- Nothing in it is global. -/
theorem mongodbApp_not_global (t : Token) : ¬ GloballyVisible mongodbApp t := by
  rintro ⟨g, hg, -⟩
  cases g with
  | app => cases hg
  | config => cases hg
  | wrapper => cases hg
  | core => cases hg

/-- With `imports` dropped, the factory of MongoDB resolves exactly when what it needs is its own or
global. -/
theorem factory_resolves_iff_mongodbApp :
    FactoryResolves documentedElasticsearch .mongodb ⟨none, none, none⟩ [()] [configService]
        mongodbApp (fun _ => .config) .wrapper ↔
      keepsImports .mongodb = true ∨ ∀ t ∈ [configService],
        GivenByImports [()] mongodbApp (fun _ => .config) t →
          t ∈ ownTokens .mongodb ⟨none, none, none⟩ ∨ GloballyVisible mongodbApp t :=
  factory_resolves_iff mongodbApp_realizes

/-- The factory of mongodb asks for the configuration service that its imports export, and does
not see it. SOURCE: mongodb/mongodb-core.module.ts:118-128 -/
theorem mongodb_factory_unresolved :
    Realizes mongodbApp (fun _ => .config) .wrapper
        (register documentedElasticsearch .mongodb mongodbWithConfig) ∧
      ¬ FactoryResolves documentedElasticsearch .mongodb ⟨none, none, none⟩ [()] [configService]
        mongodbApp (fun _ => .config) .wrapper := by
  refine ⟨mongodbApp_realizes, ?_⟩
  intro h
  obtain ⟨y, hxy, hy⟩ := core_of_register _ _ _ mongodbApp_realizes
  have hresolves := (factoryResolves_iff_core (by decide) hxy).mp h
  have hvisible := hresolves _ (List.mem_singleton_self _) mongodbApp_given
  obtain hown | hglobal := (visible_dropped_iff (.inl rfl) hy _).mp hvisible
  · exact absurd hown (by decide)
  · exact mongodbApp_not_global _ hglobal

end Xnestjs.Analysis
