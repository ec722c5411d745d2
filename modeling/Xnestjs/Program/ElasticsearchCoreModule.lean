import Xnestjs.Program.GetElasticsearchConfig
import Xnestjs.Program.ModuleRegistration
import Xnestjs.Model.ProviderInstances

/-!
# The options of `ElasticsearchCoreModule`

`forRootAsync` makes one definition of the provider of the connection options. The core module
has it among its providers, and a second module inside has it for the module of the service,
which builds the client from the options that are injected there. The factory of the user may
give something else at each call.
-/

set_option autoImplicit false

namespace Xnestjs.Program.ElasticsearchCoreModule

open Xnestjs.Model Xnestjs.Program.GetElasticsearchConfig Xnestjs.Program.ModuleRegistration

/-- What `useFactory` of the user gives at each of its calls: options, or what it rejects
with. -/
abbrev UserFactory (ε : Type) := ℕ → Except ε ElasticsearchConnectionOptions

/-- The `useFactory` of the provider of the options: the call of the user's factory, and the
configuration from its result. SOURCE: elasticsearch-core.module.ts:62-65 -/
def useFactory {ε : Type} (h : VarHelpers) (env : Env) (envPrefix : String)
    (factory : UserFactory ε) (call : ℕ) : Except ε ElasticsearchConnectionOptions := do
  let opts ← factory call
  return getElasticsearchConfig h env opts envPrefix

section

variable {U ι : Type} (nest : NestElasticsearch U) (r : Registration U)
variable (G : ι → ModuleFields ModuleClass Token ι)

/-- Below the node `x`, the module lists the provider of the options.
SOURCE: elasticsearch-core.module.ts:82-83 and 115-119 -/
def ListsOptions (x m : ι) : Prop :=
  ∃ f : Fields U, PartOf G x (register nest .elasticsearch r) m f ∧
    r.optionsProvider .elasticsearch ∈ f.providers

/-- Below the node `x`, the module is the core module. -/
def IsCore (x m : ι) : Prop :=
  PartOf G x (register nest .elasticsearch r) m (coreModule nest r .elasticsearch)

/-- Below the node `x`, the module is the one that builds the client, from the options that are
injected into it. SOURCE: elasticsearch-core.module.ts:113-127 -/
def BuildsClient (x m : ι) : Prop :=
  PartOf G x (register nest .elasticsearch r) m
    (aroundService nest (metadataWithoutGlobal .elasticsearch r))

end

end Xnestjs.Program.ElasticsearchCoreModule
