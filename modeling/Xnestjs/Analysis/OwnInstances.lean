import Xnestjs.Analysis.ClientVisibility
import Xnestjs.Analysis.OptionsFactory

/-!
# What is behind the hooks of a core module

A graph may hold several registrations, of one package too, whose clients have the same token and
are visible everywhere. The hooks of each core module are to work on the client of their own
registration. Every provider of a registration is made from what the registration provides itself,
so that no other module comes into it, except through the tokens that the application gives to the
factory of `forRootAsync`.
-/

set_option autoImplicit false

namespace Xnestjs.Analysis

open Xnestjs.Model Xnestjs.Program.ModuleRegistration

section

variable {U ι : Type} {nest : NestElasticsearch U} {p : Package} {r : Registration U}
variable {G : ι → ModuleFields ModuleClass Token ι} {place : U → ι}

/-- The providers of the service are made from what the module is given and from each other, as
they are documented. -/
def MadeOfOwn (nest : NestElasticsearch U) : Prop :=
  ∀ imports inject, ∀ q ∈ (nest.registerAsync imports inject).providers, ∀ t ∈ q.inject,
    t ∈ inject ∨ ∃ q' ∈ (nest.registerAsync imports inject).providers, q'.token = t

/-- INTERNAL: a provider of a core module is that of the options, or is made from the options and
the client. SOURCE: `_createDynamicModule` of the six packages other than elasticsearch -/
theorem core_injects (hp : p ≠ .elasticsearch) :
    ∀ q ∈ (coreModule nest r p).providers, q = r.optionsProvider p ∨
      ∀ t ∈ q.inject, t = .options p ∨ t = r.token p := by
  cases p with
  | elasticsearch => exact absurd rfl hp
  | _ =>
    simp [coreModule, Ioredis.createDynamicModule, Kafka.createDynamicModule,
      Mongodb.createDynamicModule, Rabbitmq.createDynamicModule, Redisess.createDynamicModule,
      Storage.createDynamicModule, metadataWithGlobal, metadataWithoutGlobal]

/-- INTERNAL: and in elasticsearch from the service.
SOURCE: elasticsearch/elasticsearch-core.module.ts:82-103 -/
theorem elasticsearch_injects :
    ∀ q ∈ (coreModule nest r .elasticsearch).providers, q = r.optionsProvider .elasticsearch ∨
      ∀ t ∈ q.inject, t = .client .elasticsearch := by
  show ∀ q ∈ (Elasticsearch.createDynamicModule nest r _).providers, _
  rw [elasticsearch_providers]
  by_cases htoken : r.token .elasticsearch = .client .elasticsearch
  · simp [htoken, metadataWithoutGlobal]
  · simp [htoken, metadataWithoutGlobal]

/-- INTERNAL: outside elasticsearch, the core module provides all that its providers are made from,
and the tokens of its constructor. -/
theorem core_provides (hp : p ≠ .elasticsearch) {y : ι}
    (hy : Realizes G place y (.dynamic (coreModule nest r p))) {t : Token}
    (ht : t = .options p ∨ t = r.token p) : Provides G y t := by
  apply (hy.provides_iff t).mpr
  rcases ht with rfl | rfl
  · exact ⟨_, optionsProvider_mem nest r p, optionsProvider_token r p⟩
  · exact ⟨_, clientProvider_mem nest r p hp, rfl⟩

/-- INTERNAL: a core module provides what its constructor is given.
SOURCE: `constructor` and `_createDynamicModule` of the seven packages -/
theorem constructorTokens_subset :
    constructorTokens p ⊆ (coreModule nest r p).providers.map (·.token) := by
  have htoken : (r.optionsProvider p).token = .options p := optionsProvider_token r p
  cases p with
  | elasticsearch =>
    show _ ⊆ (Elasticsearch.createDynamicModule nest r _).providers.map _
    rw [elasticsearch_providers]
    simp [constructorTokens, metadataWithoutGlobal, htoken]
  | _ =>
    simp [constructorTokens, coreModule, Ioredis.createDynamicModule, Kafka.createDynamicModule,
      Mongodb.createDynamicModule, Rabbitmq.createDynamicModule, Redisess.createDynamicModule,
      metadataWithGlobal, metadataWithoutGlobal, htoken]

/-! ## Each module of a registration keeps to them -/

/-- A token that the application gives to its factory. -/
def GivenToFactory (p : Package) (r : Registration U) (_ : ι) (t : Token) : Prop :=
  t ∈ (r.optionsProvider p).inject

/-- What is injected into the providers of the module comes from the registration, or is given. -/
def KeepsToOwn (nest : NestElasticsearch U) (p : Package) (r : Registration U)
    (G : ι → ModuleFields ModuleClass Token ι) (x m : ι) : Prop :=
  ∀ q ∈ (G m).providers, ∀ t ∈ q.inject,
    GivenToFactory p r m t ∨ ∀ k, InjectedFrom G m t k → BelongsTo nest p r G x k

/-- INTERNAL: a core module is made of its own.
SOURCE: `_createDynamicModule` of the six packages other than elasticsearch -/
theorem core_keepsToOwn (hp : p ≠ .elasticsearch) {x y : ι}
    (hy : Realizes G place y (.dynamic (coreModule nest r p)))
    (hown : BelongsTo nest p r G x y) : KeepsToOwn nest p r G x y := by
  intro q hq t ht
  rw [hy.fields.2.2.2.1] at hq
  rcases core_injects hp q hq with rfl | hinjects
  · exact Or.inl ht
  · refine Or.inr fun k hk => ?_
    have hprovides := core_provides hp hy (hinjects t ht)
    rw [(injectedFrom_iff_of_provides hprovides).mp hk]
    exact hown

section

variable {x y n z : ι}

/-- INTERNAL: the service comes from the module around it, or from the module inside.
SOURCE: elasticsearch/elasticsearch-core.module.ts:111-127 -/
theorem service_injected {k : ι} (hyn : (G y).imports = [n]) (hnz : (G n).imports = [z])
    (hn : Realizes G place n
      (.dynamic (aroundService nest (metadataWithoutGlobal .elasticsearch r))))
    (hz : Realizes G place z
      (.dynamic (Elasticsearch.innerProviders (metadataWithoutGlobal .elasticsearch r))))
    (h : InjectedFrom G y (.client .elasticsearch) k) : k = y ∨ k = n ∨ k = z := by
  have htokens : ∀ c, Export.moduleOf c ∉ (G z).exports := by
    intro c hc
    rw [hz.fields.2.2.2.2] at hc
    simp [Elasticsearch.innerProviders, metadataWithoutGlobal] at hc
  cases h with
  | own => exact Or.inl rfl
  | imported _ hmem hexported =>
    rw [hyn] at hmem
    obtain rfl := List.mem_singleton.mp hmem
    cases hexported with
    | own => exact Or.inr (Or.inl rfl)
    | reexport _ hmem _ hinner =>
      rw [hnz] at hmem
      obtain rfl := List.mem_singleton.mp hmem
      exact Or.inr (Or.inr (exportedFrom_own htokens hinner))
  | global _ hnone =>
    have hmem : n ∈ (G y).imports := by simp [hyn]
    have hexported := hn.exportedFrom_own (nest.exports_service _ _) (nest.provides_service _ _)
    exact absurd ((exports_iff_exportedFrom n _).mpr ⟨n, hexported⟩) (hnone n hmem)

/-- INTERNAL: so is each module of elasticsearch.
SOURCE: elasticsearch/elasticsearch-core.module.ts:71-131 -/
theorem elasticsearch_keepsToOwn (hnest : MadeOfOwn nest) (hxy : (G x).imports = [y])
    (hyn : (G y).imports = [n]) (hnz : (G n).imports = [z])
    (hx : Realizes G place x (register nest .elasticsearch r))
    (hy : Realizes G place y (.dynamic (coreModule nest r .elasticsearch)))
    (hn : Realizes G place n
      (.dynamic (aroundService nest (metadataWithoutGlobal .elasticsearch r))))
    (hz : Realizes G place z
      (.dynamic (Elasticsearch.innerProviders (metadataWithoutGlobal .elasticsearch r))))
    (m : ι) (hm : BelongsTo nest .elasticsearch r G x m) :
    KeepsToOwn nest .elasticsearch r G x m := by
  have hparts := elasticsearch_partOf_iff nest r hxy hyn hnz
  have howny : BelongsTo nest .elasticsearch r G x y := core_belongs hxy
  have hownn : BelongsTo nest .elasticsearch r G x n := aroundService_belongs hxy hyn
  have hownz : BelongsTo nest .elasticsearch r G x z :=
    ⟨_, (hparts z _).mpr (Or.inr (Or.inr (Or.inr ⟨rfl, rfl⟩)))⟩
  obtain ⟨f, hpart⟩ := hm
  intro q hq t ht
  obtain ⟨rfl, -⟩ | ⟨rfl, -⟩ | ⟨rfl, -⟩ | ⟨rfl, -⟩ := (hparts m f).mp hpart
  · rw [hx.fields.2.2.2.1] at hq
    cases hq
  · rw [hy.fields.2.2.2.1] at hq
    rcases elasticsearch_injects q hq with rfl | hservice
    · exact Or.inl ht
    · rw [hservice t ht]
      refine Or.inr fun k hk => ?_
      obtain rfl | rfl | rfl := service_injected hyn hnz hn hz hk
      · exact howny
      · exact hownn
      · exact hownz
  · rw [hn.fields.2.2.2.1] at hq
    refine Or.inr fun k hk => ?_
    rcases hnest _ _ q hq t ht with hgiven | hprovided
    · rw [List.mem_singleton.mp hgiven] at hk
      rw [(service_injected_iff hn hnz hz).mp hk]
      exact hownz
    · rw [(injectedFrom_iff_of_provides ((hn.provides_iff t).mpr hprovided)).mp hk]
      exact hownn
  · rw [hz.fields.2.2.2.1] at hq
    rw [List.mem_singleton.mp hq] at ht
    exact Or.inl ht

end

/-- INTERNAL: **every module of a registration** keeps to it. -/
theorem belongsTo_keepsToOwn (hnest : MadeOfOwn nest) {x : ι}
    (hx : Realizes G place x (register nest p r)) (m : ι) (hm : BelongsTo nest p r G x m) :
    KeepsToOwn nest p r G x m := by
  by_cases hp : p = .elasticsearch
  · subst hp
    obtain ⟨y, n, z, hxy, hyn, hnz, -, hy, hn, hz⟩ := elasticsearch_nodes hx
    exact elasticsearch_keepsToOwn hnest hxy hyn hnz hx hy hn hz m hm
  · obtain ⟨y, hxy, hy⟩ := core_of_register nest r p hx
    obtain ⟨f, hpart⟩ := hm
    have hm : BelongsTo nest p r G x m := ⟨f, hpart⟩
    obtain ⟨rfl, -⟩ | hpart := (partOf_iff_of_only_import hxy rfl).mp hpart
    · intro q hq
      rw [hx.fields.2.2.2.1] at hq
      cases hq
    · obtain ⟨rfl, -⟩ := (partOf_iff_of_named (coreModule_imports_named nest r p hp)).mp hpart
      exact core_keepsToOwn hp hy hm

/-- **Behind the hooks.** In every graph, whatever its other modules provide and export, what is
injected into the constructor of the core module of a registration is the module's own, and all
that it is made from, and what this is made from, and so on, belongs to the registration, up to
what is injected for the tokens that the application gives to the factory of `forRootAsync`. With
`forRoot` there are none of these.
SOURCE: `constructor` and `_createDynamicModule` of the seven packages -/
theorem hooks_use_own_registration (hnest : MadeOfOwn nest) {x : ι}
    (hx : Realizes G place x (register nest p r)) :
    ∃ core, PartOf G x (register nest p r) core (coreModule nest r p) ∧
      (∀ t ∈ constructorTokens p, ∀ k, InjectedFrom G core t k ↔ k = core) ∧
      (∀ t b, DependsOn G (core, t) b → BelongsTo nest p r G x b.1 ∨
        ∃ m c, BelongsTo nest p r G x m ∧ c.2 ∈ (r.optionsProvider p).inject ∧
          InjectedFrom G m c.2 c.1 ∧ DependsOn G c b) ∧
      ∀ o, r = .forRoot o → ∀ t b, DependsOn G (core, t) b → BelongsTo nest p r G x b.1 := by
  obtain ⟨y, hxy, hy⟩ := core_of_register nest r p hx
  have hpart : PartOf G x (register nest p r) y (coreModule nest r p) :=
    (partOf_iff_of_only_import hxy rfl).mpr (Or.inr (.here y _))
  have hclosed := fun t b (h : DependsOn G (y, t) b) =>
    dependsOn_of_closed (BelongsTo nest p r G x) (GivenToFactory p r)
      (belongsTo_keepsToOwn hnest hx) ⟨_, hpart⟩ h
  refine ⟨y, hpart, fun t ht k => ?_, hclosed, ?_⟩
  · apply injectedFrom_iff_of_provides
    apply (hy.provides_iff t).mpr
    exact List.mem_map.mp (constructorTokens_subset ht)
  · rintro o rfl t b hdepends
    rcases hclosed t b hdepends with hown | ⟨m, c, -, hgiven, -⟩
    · exact hown
    · cases hgiven

end

/-! ## Two registrations of one client -/

/-- The documented module of elasticsearch is made of its own. -/
theorem documentedElasticsearch_madeOfOwn {U : Type} :
    MadeOfOwn (documentedElasticsearch : NestElasticsearch U) := by
  intro imports inject q hq t ht
  simp only [documentedElasticsearch, List.mem_cons, List.not_mem_nil, or_false] at hq
  rcases hq with rfl | rfl
  · rw [List.mem_singleton.mp ht]
    exact Or.inr ⟨_, List.mem_cons_of_mem _ List.mem_cons_self, rfl⟩
  · exact Or.inl ht

/-- The modules of an application with two caches. -/
inductive TwoCaches where
  | app
  | wrapper (second : Bool)
  | core (second : Bool)

/-- `RedisModule.forRoot({ global: true })` -/
def cacheModule : Registration Empty := .forRoot ⟨none, none, some true⟩

def twoCaches : TwoCaches → ModuleFields ModuleClass Token TwoCaches
  | .app => ⟨.other "AppModule", false, [.wrapper false, .wrapper true], [], []⟩
  | .wrapper second => ⟨.wrapper .ioredis, false, [.core second], [], []⟩
  | .core _ =>
    let core := coreModule documentedElasticsearch cacheModule .ioredis
    ⟨core.moduleClass, core.global, [], core.providers, core.exports⟩

/-- The application registers the same module twice. -/
theorem twoCaches_realizes (second : Bool) : Realizes twoCaches Empty.elim (.wrapper second)
    (register documentedElasticsearch .ioredis cacheModule) := by
  have hcore : Realizes twoCaches Empty.elim (.core second)
      (.dynamic (coreModule documentedElasticsearch cacheModule .ioredis)) :=
    .dynamic rfl rfl .nil rfl rfl
  exact .dynamic rfl rfl (.cons hcore .nil) rfl rfl

/-- Both core modules export the client under one token to every module, and the hooks of each use
the client of their own. -/
theorem hooks_of_two_caches :
    (∀ second, GloballyVisible twoCaches (cacheModule.token .ioredis) ∧
      Exports twoCaches (.core second) (cacheModule.token .ioredis)) ∧
    ∀ second, ∃ core, PartOf twoCaches (.wrapper second)
        (register documentedElasticsearch .ioredis cacheModule) core
        (coreModule documentedElasticsearch cacheModule .ioredis) ∧
      ∀ t b, DependsOn twoCaches (core, t) b →
        BelongsTo documentedElasticsearch .ioredis cacheModule twoCaches (.wrapper second) b.1 := by
  constructor
  · intro second
    have hexports : ∀ second, Exports twoCaches (.core second) (cacheModule.token .ioredis) := by
      intro second
      apply Exports.own
      · exact token_mem_exports documentedElasticsearch cacheModule .ioredis (by decide) (by decide)
      · exact ⟨_, clientProvider_mem documentedElasticsearch cacheModule .ioredis (by decide), rfl⟩
    exact ⟨⟨.core second, rfl, hexports second⟩, hexports second⟩
  · intro second
    obtain ⟨core, hpart, -, -, hown⟩ :=
      hooks_use_own_registration documentedElasticsearch_madeOfOwn (twoCaches_realizes second)
    exact ⟨core, hpart, hown _ rfl⟩

end Xnestjs.Analysis
