import Xnestjs.Analysis.ConnectionTokens
import Xnestjs.Model.ProviderInstances

/-!
# Which modules see the client of a registration

An application imports `XModule.forRoot(o)` or `XModule.forRootAsync(o)`, a wrapper around the
core module. The wrapper exports nothing, so what the core module exports ends there: a module
of the application sees the client only when the core module is global. The core module of
kafka does not even export its client. What is seen has to be the client, too: the token that the
application chooses may be one that the core module binds to something else.
-/

set_option autoImplicit false

namespace Xnestjs.Analysis

open Xnestjs.Model Xnestjs.Program.ModuleRegistration

section

variable {U : Type} (nest : NestElasticsearch U) (p : Package) (r : Registration U)

/-- The module belongs to the registration below the node `x`. -/
def BelongsTo {U ι : Type} (nest : NestElasticsearch U) (p : Package) (r : Registration U)
    (G : ι → ModuleFields ModuleClass Token ι) (x m : ι) : Prop :=
  ∃ f : Fields U, PartOf G x (register nest p r) m f

/-- The module `m` sees the token as the registration below the node `x` provides it. -/
def SeesOwn {ι : Type} (G : ι → ModuleFields ModuleClass Token ι) (x m : ι) (t : Token) : Prop :=
  ∃ k, BelongsTo nest p r G x k ∧ VisibleFrom G m t k

/-- The module `m` sees the token of the client and that of the connection options, as the
registration below the node `x` provides them, and they give the client and the options. -/
def SeesConnection {ι : Type} (G : ι → ModuleFields ModuleClass Token ι) (x m : ι) : Prop :=
  SeesOwn nest p r G x m (r.token p) ∧ SeesOwn nest p r G x m (.options p) ∧ GivesConnection p r

/-- In every graph, a module that imports what is registered sees the connection, and with
`global` every module does. -/
def ReachesImporters : Prop :=
  ∀ (ι : Type) (G : ι → ModuleFields ModuleClass Token ι) (place : U → ι) (m x : ι),
    x ∈ (G m).imports → Realizes G place x (register nest p r) →
    SeesConnection nest p r G x m ∧
      (r.options.global = some true → ∀ n, SeesConnection nest p r G x n)

/-! ## What the core module exports -/

variable {nest p r} {ι : Type} {G : ι → ModuleFields ModuleClass Token ι} {place : U → ι}

/-- INTERNAL: what is seen of a registration is visible. -/
theorem SeesOwn.visible {x m : ι} {t : Token} (h : SeesOwn nest p r G x m t) :
    Visible G m t := by
  obtain ⟨k, -, hk⟩ := h
  exact (visible_iff_visibleFrom m t).mpr ⟨k, hk⟩

/-- INTERNAL: the core module belongs to the registration. SOURCE: redis.module.ts:7-19, and its
like in each package -/
theorem core_belongs {x y : ι} (hxy : (G x).imports = [y]) : BelongsTo nest p r G x y :=
  ⟨_, (partOf_iff_of_only_import hxy rfl).mpr (.inr (.here y (coreModule nest r p)))⟩

/-- INTERNAL: and so does the module around the service that the core module of elasticsearch
imports. SOURCE: elasticsearch/elasticsearch-core.module.ts:111-128 -/
theorem aroundService_belongs {x y n : ι} (hxy : (G x).imports = [y])
    (hyn : (G y).imports = [n]) : BelongsTo nest .elasticsearch r G x n := by
  refine ⟨aroundService nest (metadataWithoutGlobal .elasticsearch r), ?_⟩
  refine (partOf_iff_of_only_import hxy rfl).mpr (.inr ?_)
  exact (partOf_iff_of_only_import hyn rfl).mpr (.inr (.here n _))

/-- INTERNAL: every core module exports the connection options.
SOURCE: `exports` in `_createDynamicModule` of the seven packages -/
theorem core_exports_options {y : ι}
    (hy : Realizes G place y (.dynamic (coreModule nest r p))) :
    ExportedFrom G y (.options p) y := by
  apply hy.exportedFrom_own
  · cases p with
    | elasticsearch =>
      show _ ∈ (Elasticsearch.createDynamicModule nest r _).exports
      rw [elasticsearch_exports]
      exact List.mem_cons_self
    | _ => exact List.mem_cons_self
  · exact ⟨_, optionsProvider_mem nest r p, optionsProvider_token r p⟩

/-- INTERNAL: the module of `@nestjs/elasticsearch` below the core module exports the service.
SOURCE: elasticsearch/elasticsearch-core.module.ts:111-128 -/
theorem nestElasticsearch_exports_service {y : ι}
    (hy : Realizes G place y (.dynamic (coreModule nest r .elasticsearch))) :
    ∃ n, (G y).imports = [n] ∧ (G n).moduleClass = .nestElasticsearch ∧
      ExportedFrom G n (.client .elasticsearch) n := by
  obtain ⟨n, himports, hn⟩ := hy.only_import rfl
  refine ⟨n, himports, ?_, ?_⟩
  · rw [hn.fields.1]
    exact nest.moduleClass _ _
  · exact hn.exportedFrom_own (nest.exports_service _ _) (nest.provides_service _ _)

/-- INTERNAL: the elasticsearch core module exports the client under its token: its own alias
of the service, or the module that exports the service.
SOURCE: elasticsearch/elasticsearch-core.module.ts:97-103 -/
theorem elasticsearch_exports_token {x y : ι} (hxy : (G x).imports = [y])
    (hy : Realizes G place y (.dynamic (coreModule nest r .elasticsearch))) :
    ∃ k, BelongsTo nest .elasticsearch r G x k ∧ ExportedFrom G y (r.token .elasticsearch) k := by
  have hexports := elasticsearch_exports nest r (metadataWithoutGlobal .elasticsearch r)
  have hproviders := elasticsearch_providers nest r (metadataWithoutGlobal .elasticsearch r)
  by_cases htoken : r.token .elasticsearch = .client .elasticsearch
  · obtain ⟨n, hyn, hclass, hservice⟩ := nestElasticsearch_exports_service hy
    refine ⟨n, aroundService_belongs hxy hyn, ?_⟩
    have hmem : n ∈ (G y).imports := by rw [hyn]; exact List.mem_singleton_self n
    rw [htoken]
    apply ExportedFrom.reexport _ hmem hclass hservice
    rw [hy.fields.2.2.2.2]
    show _ ∈ (Elasticsearch.createDynamicModule nest r _).exports
    rw [hexports, if_neg (not_not_intro htoken)]
    exact List.mem_cons_of_mem _ List.mem_cons_self
  · refine ⟨y, core_belongs hxy, hy.exportedFrom_own ?_ ?_⟩
    · show _ ∈ (Elasticsearch.createDynamicModule nest r _).exports
      rw [hexports, if_pos htoken]
      exact List.mem_cons_of_mem _ List.mem_cons_self
    · refine ⟨⟨r.token .elasticsearch, [.client .elasticsearch]⟩, ?_, rfl⟩
      show _ ∈ (Elasticsearch.createDynamicModule nest r _).providers
      rw [hproviders, if_pos htoken]
      exact List.mem_append_right _ List.mem_cons_self

/-- INTERNAL: every core module exports the client under its token, except that of kafka.
SOURCE: `exports` in `_createDynamicModule` of the other six packages -/
theorem core_exports_token (hp : p ≠ .kafka) {x y : ι} (hxy : (G x).imports = [y])
    (hy : Realizes G place y (.dynamic (coreModule nest r p))) :
    ∃ k, BelongsTo nest p r G x k ∧ ExportedFrom G y (r.token p) k := by
  by_cases hes : p = .elasticsearch
  · subst hes
    exact elasticsearch_exports_token hxy hy
  · refine ⟨y, core_belongs hxy, hy.exportedFrom_own ?_ ?_⟩
    · exact token_mem_exports nest r p hes hp
    · exact ⟨_, clientProvider_mem nest r p hes, rfl⟩

/-- INTERNAL: with `global`, every module of the graph sees what the core module exports. -/
theorem seesOwn_of_core_exports {x y k n : ι} {t : Token} (hglobal : r.options.global = some true)
    (hy : Realizes G place y (.dynamic (coreModule nest r p)))
    (hk : BelongsTo nest p r G x k) (hexported : ExportedFrom G y t k) :
    SeesOwn nest p r G x n t := by
  have hcore : (G y).global = true := by
    rw [hy.fields.2.1, coreModule_global, hglobal]
    rfl
  exact ⟨k, hk, .inr (.inr ⟨y, hcore, hexported⟩)⟩

/-! ## The graph of what is registered by itself -/

/-- INTERNAL: with `global`, the core module of kafka hides a client that is not the options.
SOURCE: kafka/kafka-core.module.ts:104 -/
theorem kafka_hides_token (h : r.token .kafka ≠ .options .kafka) :
    hides (r.token .kafka) (coreModule nest r .kafka).exports = true := by
  have hne : (Token.options .kafka != r.token .kafka) = true := by
    rw [bne_iff_ne]
    exact h.symm
  show ((Token.options .kafka != r.token .kafka) && true) = true
  rw [hne]
  rfl

variable (nest) in
/-- INTERNAL: the module around the elasticsearch service realizes itself in every graph of one
registration: neither it nor the module inside is global.
SOURCE: elasticsearch/elasticsearch-core.module.ts:113-127 -/
theorem aroundService_realizes_self (c : ModuleClass) (keepsGlobal : Fields U → Bool)
    (root : Dynamic U) (metadata : Metadata) :
    Realizes (selfGraph c keepsGlobal root) (fun u => some (.named u))
      (some (.dynamic (aroundService nest metadata))) (.dynamic (aroundService nest metadata)) := by
  apply realizes_self
  · intro h
    unfold aroundService at h
    rw [nest.global] at h
    cases h
  · intro d hd
    rw [aroundService_imports] at hd
    rw [List.mem_singleton.mp hd]
    apply realizes_self
    · intro h
      cases h
    · intro d' hd'
      cases hd'

variable (nest) in
/-- INTERNAL: what is registered realizes itself in its own graph, when the core module is as
global there as the options say. -/
theorem register_realizes_self (c : ModuleClass) (keepsGlobal : Fields U → Bool)
    (hglobal : r.options.global = some true → keepsGlobal (coreModule nest r p) = true) :
    Realizes (selfGraph c keepsGlobal (register nest p r)) (fun u => some (.named u))
      (some (register nest p r)) (register nest p r) := by
  have hcore : Realizes (selfGraph c keepsGlobal (register nest p r)) (fun u => some (.named u))
      (some (.dynamic (coreModule nest r p))) (.dynamic (coreModule nest r p)) := by
    apply realizes_self
    · intro h
      apply hglobal
      rw [coreModule_global] at h
      cases hg : r.options.global with
      | none => rw [hg] at h; cases h
      | some b => rw [hg] at h; exact congrArg some h
    · intro d hd
      by_cases hp : p = .elasticsearch
      · subst hp
        rw [List.mem_singleton.mp hd]
        exact aroundService_realizes_self nest c _ _ _
      · obtain ⟨u, rfl⟩ := coreModule_imports_named nest r p hp d hd
        exact realizes_self_named _ _ _ u
  apply realizes_self
  · intro h
    cases h
  · intro d hd
    rw [List.mem_singleton.mp hd]
    exact hcore

/-- INTERNAL: there is a graph in which the module that imports what is registered does not see
the token, when the core module is not global or hides the token. -/
theorem exists_blind_importer (nest : NestElasticsearch U) (t : Token)
    (hglobal : r.options.global = some true → hides t (coreModule nest r p).exports = true) :
    ∃ (ι : Type) (G : ι → ModuleFields ModuleClass Token ι) (place : U → ι) (m x : ι),
      x ∈ (G m).imports ∧ Realizes G place x (register nest p r) ∧ ¬ Visible G m t := by
  refine ⟨_, selfGraph (.other "AppModule") (fun f => hides t f.exports) (register nest p r),
    fun u => some (.named u), none, some (register nest p r), List.mem_singleton_self _, ?_, ?_⟩
  · exact register_realizes_self nest _ _ hglobal
  · exact not_visible_selfGraph _ t rfl

/-! ## The main result -/

/-- INTERNAL: what reaches the importing modules gives the client and the options: some graph has
what is registered in it. -/
theorem ReachesImporters.givesConnection (h : ReachesImporters nest p r) :
    GivesConnection p r := by
  have hrealizes := register_realizes_self (p := p) (r := r) nest (.other "AppModule")
    (fun _ => true) fun _ => rfl
  have himports : some (register nest p r) ∈
      (selfGraph (.other "AppModule") (fun _ => true) (register nest p r) none).imports :=
    List.mem_singleton_self _
  exact (h _ _ _ none _ himports hrealizes).1.2.2

/-- **The connection of a registration is seen by the module that imports it, and by every
module with `global`, exactly when `global` is true, the package is not kafka, and the tokens of
the application are apart from those of the registration.** Nothing else of the options matters,
nor the way of registration. SOURCE: `_createDynamicModule` and `XModule` of the seven packages -/
theorem reachesImporters_iff (nest : NestElasticsearch U) (p : Package) (r : Registration U) :
    ReachesImporters nest p r ↔
      r.options.global = some true ∧ p ≠ .kafka ∧ TokensApart p r := by
  constructor
  · intro h
    have hapart := (givesConnection_iff p r).mp h.givesConnection
    -- a graph where the importer is blind to a token refutes what is promised
    have hsees : ∀ t, t = r.token p ∨ t = .options p →
        ¬ (r.options.global = some true → hides t (coreModule nest r p).exports = true) := by
      intro t ht hglobal
      obtain ⟨ι, G, place, m, x, hx, hrealizes, hblind⟩ := exists_blind_importer nest t hglobal
      obtain ⟨hclient, hoptions, -⟩ := (h ι G place m x hx hrealizes).1
      obtain rfl | rfl := ht
      · exact hblind hclient.visible
      · exact hblind hoptions.visible
    have hglobal : r.options.global = some true := by
      by_contra hg
      exact hsees _ (.inr rfl) fun h => absurd h hg
    refine ⟨hglobal, ?_, hapart⟩
    rintro rfl
    exact hsees _ (.inl rfl) fun _ => kafka_hides_token (token_ne_options hapart.token)
  · rintro ⟨hglobal, hkafka, hapart⟩ ι G place m x - hx
    obtain ⟨y, hxy, hy⟩ := core_of_register nest r p hx
    obtain ⟨k, hk, htoken⟩ := core_exports_token hkafka hxy hy
    have hsees : ∀ n, SeesConnection nest p r G x n := by
      intro n
      refine ⟨?_, ?_, (givesConnection_iff p r).mpr hapart⟩
      · exact seesOwn_of_core_exports hglobal hy hk htoken
      · exact seesOwn_of_core_exports hglobal hy (core_belongs hxy) (core_exports_options hy)
    exact ⟨hsees m, fun _ => hsees⟩

/-- A client of Redis registered without options is not seen by the module that imports it.
SOURCE: redis.module.ts:7-12, README.md:21-34 -/
theorem redis_client_unseen :
    ¬ ReachesImporters documentedElasticsearch .ioredis
      (.forRoot ⟨none, none, none⟩ : Registration Unit) := by
  intro h
  obtain ⟨ι, G, place, m, x, hx, hrealizes, hblind⟩ :=
    exists_blind_importer (p := .ioredis) (r := .forRoot ⟨none, none, none⟩)
      (documentedElasticsearch : NestElasticsearch Unit) (.client .ioredis) (fun h => by cases h)
  exact hblind (h ι G place m x hx hrealizes).1.1.visible

end

end Xnestjs.Analysis
