import Xnestjs.Program.RegistrationBindings

/-!
# Which tokens give a connection

A core module binds the token that the application chooses beside tokens of its own. When the two
coincide the later binding is kept: the client or something else is lost, or a factory waits for
itself. This is about the bindings of one registration alone; what is seen of them elsewhere is
another matter.
-/

set_option autoImplicit false

namespace Xnestjs.Analysis

open Xnestjs.Model Xnestjs.Program.ModuleRegistration

section

variable {U : Type} (p : Package) (r : Registration U)

/-- The client is given under its token, and the connection options under theirs. -/
def GivesConnection : Prop :=
  Gives (bindings p r) (r.token p) .client ∧ Gives (bindings p r) (.options p) .options

/-- The tokens under which the client would be lost, or the connection options: those that are
bound after the client, and that of the options.
SOURCE: `_createDynamicModule` of the seven packages -/
def takenTokens : List Token :=
  match p with
  | .ioredis | .redisess | .storage => [.options p, .clientToken p, .logger, .moduleId p]
  | .mongodb => [.options p, .clientToken p, .logger, .moduleId p, r.dbToken]
  | .kafka | .rabbitmq | .elasticsearch => [.options p]

/-- The tokens that are made from the connection options, which are among them.
SOURCE: `_createDynamicModule` of the seven packages -/
def madeFromOptions : List Token :=
  match p with
  | .mongodb =>
    [.options p, r.token p, .clientToken p] ++
      if r.dbToken = .logger ∨ r.dbToken = .moduleId p then [] else [r.dbToken]
  | .elasticsearch => [.options p, .client p, r.token p, .clientToken p]
  | _ => [.options p, r.token p, .clientToken p]

/-- The tokens of the application are apart from those of the registration: that of the client (and
in mongodb that of the database) does not take or lose a place in the core module, and the factory
is called with nothing that is made from its own result. -/
structure TokensApart : Prop where
  token : r.token p ∉ takenTokens p r
  dbToken : p = .mongodb → r.dbToken ≠ .options p
  inject : ∀ t ∈ r.inject, t ∉ madeFromOptions p r

variable {p r}

/-- INTERNAL: the binding of the connection options is kept.
SOURCE: `_createDynamicModule` of the seven packages -/
theorem kept_options (htoken : r.token p ≠ .options p)
    (hdb : p = .mongodb → r.dbToken ≠ .options p) :
    kept (bindings p r) (.options p) = some (r.optionsBinding p).recipe := by
  have hoptions : (r.optionsBinding p).token = .options p := by cases r <;> rfl
  cases p with
  | mongodb =>
    simp [bindings, coreBindings, kept, hoptions, clientBinding, clientTokenBinding, loggerBinding,
      moduleIdBinding, htoken, hdb rfl]
  | elasticsearch =>
    by_cases h : r.token .elasticsearch = .client .elasticsearch
    · simp [bindings, coreBindings, kept, hoptions, loggerBinding, moduleIdBinding, h]
    · simp [bindings, coreBindings, kept, hoptions, loggerBinding, moduleIdBinding, h, htoken]
  | _ =>
    simp [bindings, coreBindings, kept, hoptions, clientBinding, clientTokenBinding, loggerBinding,
      moduleIdBinding, htoken]

/-- INTERNAL: the connection options are given when what the factory is called with is.
SOURCE: `forRoot` and `forRootAsync` of the seven packages -/
theorem gives_options_iff (htoken : r.token p ≠ .options p)
    (hdb : p = .mongodb → r.dbToken ≠ .options p) (v : Given) :
    Gives (bindings p r) (.options p) v ↔ v = .options ∧ ∀ t ∈ r.inject,
      (kept (bindings p r) t).isSome → ∃ u, Gives (bindings p r) t u := by
  have hkept := kept_options htoken hdb
  cases r with
  | forRoot o =>
    rw [gives_iff_of_value hkept]
    simp [Registration.inject]
  | forRootAsync o imports inject => exact gives_iff_of_factory hkept

/-- INTERNAL: the service of elasticsearch is built from the connection options.
SOURCE: elasticsearch-core.module.ts:111-128 -/
theorem kept_service : kept (bindings .elasticsearch r) (.client .elasticsearch) =
    some (.useFactory .client [.options .elasticsearch]) := by
  have hoptions : (r.optionsBinding .elasticsearch).token = .options .elasticsearch := by
    cases r <;> rfl
  by_cases h : r.token .elasticsearch = .client .elasticsearch
  · simp [bindings, coreBindings, kept, hoptions, loggerBinding, moduleIdBinding, h]
  · simp [bindings, coreBindings, kept, hoptions, loggerBinding, moduleIdBinding, h]

/-- INTERNAL: in the other packages the client is, under a token that is not taken.
SOURCE: `_createDynamicModule` of the other six packages -/
theorem kept_token (htoken : r.token p ∉ takenTokens p r) (hp : p ≠ .elasticsearch) :
    kept (bindings p r) (r.token p) = some (.useFactory .client [.options p]) := by
  have hne : ∀ t ∈ takenTokens p r, t ≠ r.token p := fun t ht h => htoken (h ▸ ht)
  cases p with
  | elasticsearch => exact absurd rfl hp
  | kafka => simp [bindings, coreBindings, kept, clientBinding]
  | rabbitmq => simp [bindings, coreBindings, kept, clientBinding]
  | _ =>
    simp only [takenTokens, List.forall_mem_cons] at hne
    simp [bindings, coreBindings, kept, clientBinding, clientTokenBinding, loggerBinding,
      moduleIdBinding, hne]

/-- INTERNAL: in elasticsearch a token of its own is another name for the service.
SOURCE: elasticsearch-core.module.ts:97-102 -/
theorem kept_alias (h : r.token .elasticsearch ≠ .client .elasticsearch) :
    kept (bindings .elasticsearch r) (r.token .elasticsearch) =
      some (.useExisting (.client .elasticsearch)) := by
  simp [bindings, coreBindings, kept, h]

/-- INTERNAL: a token that is not taken is not the symbol of the options. -/
theorem token_ne_options (htoken : r.token p ∉ takenTokens p r) : r.token p ≠ .options p := by
  intro h
  rw [h] at htoken
  cases p <;> simp [takenTokens] at htoken

/-- INTERNAL: under a token that is not taken the client is given when the connection options are.
SOURCE: `_createDynamicModule` of the seven packages -/
theorem gives_token_iff (htoken : r.token p ∉ takenTokens p r)
    (hdb : p = .mongodb → r.dbToken ≠ .options p) (v : Given) :
    Gives (bindings p r) (r.token p) v ↔
      v = .client ∧ ∃ u, Gives (bindings p r) (.options p) u := by
  have hbound := kept_options (token_ne_options htoken) hdb
  by_cases hp : p = .elasticsearch
  · subst hp
    have hservice : Gives (bindings .elasticsearch r) (.client .elasticsearch) v ↔
        v = .client ∧ ∃ u, Gives (bindings .elasticsearch r) (.options .elasticsearch) u := by
      rw [gives_iff_of_factory kept_service]
      simp [hbound]
    rw [← hservice]
    by_cases h : r.token .elasticsearch = .client .elasticsearch
    · rw [h]
    · exact gives_iff_of_existing (kept_alias h)
  · rw [gives_iff_of_factory (kept_token htoken hp)]
    simp [hbound]

/-! ## What is lost -/

/-- INTERNAL: under the symbol of the options there is one binding for both, and it is that of the
client. SOURCE: `_createDynamicModule` of the seven packages -/
theorem options_lost (htoken : r.token p = .options p) : ¬ GivesConnection p r := by
  have hoptions : (r.optionsBinding p).token = .options p := by cases r <;> rfl
  rintro ⟨hclient, hgiven⟩
  by_cases hp : p = .elasticsearch
  · subst hp
    have hkept : kept (bindings .elasticsearch r) (.options .elasticsearch) =
        some (.useExisting (.client .elasticsearch)) := by
      simp [bindings, coreBindings, kept, hoptions, loggerBinding, moduleIdBinding, htoken]
    have hmade := (gives_iff_of_factory kept_service).mp ((gives_iff_of_existing hkept).mp hgiven)
    cases hmade.1
  by_cases hdb : p = .mongodb ∧ r.dbToken = .options p
  · obtain ⟨rfl, hdb⟩ := hdb
    have hkept : kept (bindings .mongodb r) (.options .mongodb) =
        some (.useFactory .database [r.token .mongodb, .options .mongodb]) := by
      simp [bindings, coreBindings, kept, clientTokenBinding, loggerBinding, moduleIdBinding, hdb]
    cases ((gives_iff_of_factory hkept).mp hgiven).1
  · have hkept : kept (bindings p r) (.options p) = some (.useFactory .client [.options p]) := by
      cases p with
      | elasticsearch => exact absurd rfl hp
      | mongodb =>
        have hne : r.dbToken ≠ .options .mongodb := fun h => hdb ⟨rfl, h⟩
        simp [bindings, coreBindings, kept, clientBinding, clientTokenBinding, loggerBinding,
          moduleIdBinding, htoken, hne]
      | _ =>
        simp [bindings, coreBindings, kept, clientBinding, clientTokenBinding, loggerBinding,
          moduleIdBinding, htoken]
    cases ((gives_iff_of_factory hkept).mp hgiven).1

/-- INTERNAL: the database of mongodb under the symbol of the options.
SOURCE: mongodb-core.module.ts:92-103 -/
theorem options_lost_to_database {r : Registration U} (hdb : r.dbToken = .options .mongodb) :
    ¬ GivesConnection .mongodb r := by
  rintro ⟨-, hgiven⟩
  have hkept : kept (bindings .mongodb r) (.options .mongodb) =
      some (.useFactory .database [r.token .mongodb, .options .mongodb]) := by
    simp [bindings, coreBindings, kept, clientTokenBinding, loggerBinding, moduleIdBinding, hdb]
  cases ((gives_iff_of_factory hkept).mp hgiven).1

/-- INTERNAL: what is bound under such a token after the client.
SOURCE: redis-core.module.ts:67-102, mongodb-core.module.ts:72-117, redisess-core.module.ts:67-96,
storage-core.module.ts:62-95 -/
theorem kept_taken (htaken : r.token p ∈ takenTokens p r) (hoptions : r.token p ≠ .options p) :
    kept (bindings p r) (r.token p) = some (.useValue .logger) ∨
    kept (bindings p r) (r.token p) = some (.useValue .moduleId) ∨
    kept (bindings p r) (r.token p) = some (.useExisting (r.token p)) ∨
    ∃ inject, kept (bindings p r) (r.token p) = some (.useFactory .database inject) := by
  cases p with
  | kafka => exact absurd (List.mem_singleton.mp htaken) hoptions
  | rabbitmq => exact absurd (List.mem_singleton.mp htaken) hoptions
  | elasticsearch => exact absurd (List.mem_singleton.mp htaken) hoptions
  | mongodb =>
    simp only [takenTokens, List.mem_cons, List.not_mem_nil, or_false, hoptions, false_or] at htaken
    rcases htaken with h | h | h | h
    · simp [bindings, coreBindings, kept, clientTokenBinding, loggerBinding, moduleIdBinding, h]
    · simp [bindings, coreBindings, kept, loggerBinding, moduleIdBinding, h]
    · simp [bindings, coreBindings, kept, moduleIdBinding, h]
    · by_cases hlogger : r.dbToken = .logger
      · simp [bindings, coreBindings, kept, loggerBinding, moduleIdBinding, h, hlogger]
      by_cases hid : r.dbToken = .moduleId .mongodb
      · simp [bindings, coreBindings, kept, moduleIdBinding, h, hid]
      by_cases hclient : r.dbToken = .clientToken .mongodb
      · simp [bindings, coreBindings, kept, clientTokenBinding, loggerBinding, moduleIdBinding, h,
          hclient]
      · simp [bindings, coreBindings, kept, clientTokenBinding, loggerBinding, moduleIdBinding, h,
          Ne.symm hlogger, Ne.symm hid, Ne.symm hclient]
  | _ =>
    simp only [takenTokens, List.mem_cons, List.not_mem_nil, or_false, hoptions, false_or] at htaken
    rcases htaken with h | h | h
    · simp [bindings, coreBindings, kept, clientTokenBinding, loggerBinding, moduleIdBinding, h]
    · simp [bindings, coreBindings, kept, loggerBinding, moduleIdBinding, h]
    · simp [bindings, coreBindings, kept, moduleIdBinding, h]

/-- INTERNAL: under a token that is bound again after the client, the client is lost.
SOURCE: `_createDynamicModule` of the seven packages -/
theorem client_lost (htaken : r.token p ∈ takenTokens p r) : ¬ GivesConnection p r := by
  by_cases hoptions : r.token p = .options p
  · exact options_lost hoptions
  rintro ⟨hclient, -⟩
  rcases kept_taken htaken hoptions with hkept | hkept | hkept | ⟨inject, hkept⟩
  · cases (gives_iff_of_value hkept).mp hclient
  · cases (gives_iff_of_value hkept).mp hclient
  · refine not_gives_of_waiting (· = r.token p) ?_ rfl hclient
    rintro _ rfl
    exact ⟨_, hkept, r.token p, List.mem_singleton_self _, rfl⟩
  · cases ((gives_iff_of_factory hkept).mp hclient).1

/-! ## What the factory of the application is called with -/

/-- INTERNAL: the token that the core module itself asks for, when the client does not have it.
SOURCE: `_createDynamicModule` of the seven packages -/
theorem kept_clientToken (h : r.token p ≠ .clientToken p) :
    kept (bindings p r) (.clientToken p) =
      some (.useExisting (if p = .elasticsearch then .client p else r.token p)) := by
  have hoptions : (r.optionsBinding p).token = .options p := by cases r <;> rfl
  cases p with
  | elasticsearch =>
    by_cases hservice : r.token .elasticsearch = .client .elasticsearch
    · simp [bindings, coreBindings, kept, moduleIdBinding, hservice]
    · simp [bindings, coreBindings, kept, moduleIdBinding, hservice, h]
  | _ =>
    simp [bindings, coreBindings, kept, clientBinding, clientTokenBinding, loggerBinding,
      moduleIdBinding, h]

/-- INTERNAL: the database of mongodb, under a token that nothing else has.
SOURCE: mongodb-core.module.ts:92-117 -/
theorem kept_database {r : Registration U} (hclient : r.dbToken ≠ .clientToken .mongodb)
    (hlogger : r.dbToken ≠ .logger) (hid : r.dbToken ≠ .moduleId .mongodb) :
    kept (bindings .mongodb r) r.dbToken =
      some (.useFactory .database [r.token .mongodb, .options .mongodb]) := by
  simp [bindings, coreBindings, kept, clientTokenBinding, loggerBinding, moduleIdBinding,
    hclient.symm, hlogger.symm, hid.symm]

/-- INTERNAL: what is made from the options waits for them, or for something that is.
SOURCE: `_createDynamicModule` of the seven packages -/
theorem waits_of_made (hapart : r.token p ∉ takenTokens p r) {t : Token}
    (ht : t ∈ madeFromOptions p r) (hne : t ≠ .options p) :
    ∃ recipe, kept (bindings p r) t = some recipe ∧
      ∃ t' ∈ recipe.inject, t' ∈ madeFromOptions p r := by
  have hoptions : .options p ∈ madeFromOptions p r := by
    cases p <;> simp [madeFromOptions]
  have htoken : r.token p ∈ madeFromOptions p r := by
    cases p <;> simp [madeFromOptions]
  by_cases hes : p = .elasticsearch
  · subst hes
    have hservice : Token.client .elasticsearch ∈ madeFromOptions .elasticsearch r := by
      simp [madeFromOptions]
    by_cases hclient : t = .client .elasticsearch
    · subst hclient
      exact ⟨_, kept_service, _, List.mem_singleton_self _, hoptions⟩
    by_cases heq : t = r.token .elasticsearch
    · subst heq
      exact ⟨_, kept_alias hclient, _, List.mem_singleton_self _, hservice⟩
    · have hlast : t = .clientToken .elasticsearch := by
        simpa [madeFromOptions, hne, hclient, heq] using ht
      subst hlast
      exact ⟨_, kept_clientToken (Ne.symm heq), _, List.mem_singleton_self _, hservice⟩
  by_cases heq : t = r.token p
  · subst heq
    exact ⟨_, kept_token hapart hes, _, List.mem_singleton_self _, hoptions⟩
  by_cases hclient : t = .clientToken p
  · subst hclient
    refine ⟨_, kept_clientToken (Ne.symm heq), r.token p, ?_, htoken⟩
    rw [if_neg hes]
    exact List.mem_singleton_self _
  · -- what is left is the database of mongodb
    cases p with
    | mongodb =>
      by_cases hvalue : r.dbToken = .logger ∨ r.dbToken = .moduleId .mongodb
      · simp [madeFromOptions, hvalue, hne, heq, hclient] at ht
      · have hdb : t = r.dbToken := by simpa [madeFromOptions, hvalue, hne, heq, hclient] using ht
        subst hdb
        obtain ⟨hlogger, hid⟩ := not_or.mp hvalue
        exact ⟨_, kept_database hclient hlogger hid, _, List.mem_cons_self, htoken⟩
    | elasticsearch => exact absurd rfl hes
    | _ => simp [madeFromOptions, hne, heq, hclient] at ht

/-- INTERNAL: the logger and the id of the module, when the client does not take their place.
SOURCE: `_createDynamicModule` of the seven packages -/
theorem kept_value {t : Token} (ht : t = .logger ∨ t = .moduleId p) (hne : r.token p ≠ t) :
    ∃ v, kept (bindings p r) t = some (.useValue v) := by
  rcases ht with rfl | rfl
  · refine ⟨.logger, ?_⟩
    cases p with
    | elasticsearch =>
      by_cases hservice : r.token .elasticsearch = .client .elasticsearch
      · simp [bindings, coreBindings, kept, loggerBinding, moduleIdBinding, hservice]
      · simp [bindings, coreBindings, kept, loggerBinding, moduleIdBinding, hservice, hne]
    | _ =>
      simp [bindings, coreBindings, kept, clientBinding, clientTokenBinding, loggerBinding,
        moduleIdBinding, hne]
  · refine ⟨.moduleId, ?_⟩
    cases p with
    | elasticsearch =>
      by_cases hservice : r.token .elasticsearch = .client .elasticsearch
      · simp [bindings, coreBindings, kept, moduleIdBinding, hservice]
      · simp [bindings, coreBindings, kept, moduleIdBinding, hservice, hne]
    | _ => simp [bindings, coreBindings, kept, clientBinding, moduleIdBinding, hne]

/-- INTERNAL: a token that the registration binds is made from the options, or it is that of the
logger or of the id. SOURCE: `_createDynamicModule` of the seven packages -/
theorem made_or_value {t : Token} (hbound : (kept (bindings p r) t).isSome) :
    t ∈ madeFromOptions p r ∨ t = .logger ∨ t = .moduleId p := by
  have hoptions : (r.optionsBinding p).token = .options p := by cases r <;> rfl
  obtain ⟨recipe, hrecipe⟩ := Option.isSome_iff_exists.mp hbound
  have hmem : t ∈ (bindings p r).map (·.token) :=
    List.mem_map_of_mem (f := (·.token)) (mem_of_kept hrecipe)
  cases p with
  | elasticsearch =>
    simp only [bindings, coreBindings, loggerBinding, moduleIdBinding, List.map_cons,
      List.map_append, List.mem_cons, List.mem_append, hoptions] at hmem
    simp only [madeFromOptions, List.mem_cons]
    split_ifs at hmem <;> grind
  | mongodb =>
    simp only [bindings, coreBindings, clientBinding, clientTokenBinding, loggerBinding,
      moduleIdBinding, List.map_cons, List.map_nil, List.mem_cons, hoptions] at hmem
    simp only [madeFromOptions, List.mem_append, List.mem_cons]
    split_ifs <;> grind
  | _ =>
    simp only [bindings, coreBindings, clientBinding, clientTokenBinding, loggerBinding,
      moduleIdBinding, List.map_cons, List.map_nil, List.mem_cons, hoptions] at hmem
    simp only [madeFromOptions, List.mem_cons]
    grind

/-- INTERNAL: what the registration binds and does not make from the options is a value.
SOURCE: `_createDynamicModule` of the seven packages -/
theorem value_of_not_made {t : Token} (ht : t ∉ madeFromOptions p r)
    (hbound : (kept (bindings p r) t).isSome) :
    ∃ v, kept (bindings p r) t = some (.useValue v) := by
  have htoken : r.token p ≠ t := by
    rintro rfl
    cases p <;> simp [madeFromOptions] at ht
  exact kept_value ((made_or_value hbound).resolve_left ht) htoken

/-- INTERNAL: the options are not given when their factory is called with something that is made
from them. -/
theorem options_wait (hapart : r.token p ∉ takenTokens p r)
    (hdb : p = .mongodb → r.dbToken ≠ .options p) {t : Token} (hinject : t ∈ r.inject)
    (ht : t ∈ madeFromOptions p r) (v : Given) : ¬ Gives (bindings p r) (.options p) v := by
  have hkept := kept_options (token_ne_options hapart) hdb
  have hoptions : .options p ∈ madeFromOptions p r := by
    cases p <;> simp [madeFromOptions]
  refine not_gives_of_waiting (· ∈ madeFromOptions p r) (fun t' ht' => ?_) hoptions
  by_cases hne : t' = .options p
  · subst hne
    refine ⟨_, hkept, t, ?_, ht⟩
    cases r with
    | forRoot o => cases hinject
    | forRootAsync o imports inject => exact hinject
  · exact waits_of_made hapart ht' hne

/-- **A registration gives its connection** exactly when its tokens are apart.
SOURCE: `_createDynamicModule` of the seven packages -/
theorem givesConnection_iff (p : Package) (r : Registration U) :
    GivesConnection p r ↔ TokensApart p r := by
  constructor
  · intro hgives
    have hapart : r.token p ∉ takenTokens p r := fun h => client_lost h hgives
    have hdb : p = .mongodb → r.dbToken ≠ .options p := by
      rintro rfl h
      exact options_lost_to_database h hgives
    refine ⟨hapart, hdb, fun t ht hmade => ?_⟩
    exact options_wait hapart hdb ht hmade _ hgives.2
  · rintro ⟨hapart, hdb, hinject⟩
    have hne : r.token p ≠ .options p := by
      intro h
      rw [h] at hapart
      cases p <;> simp [takenTokens] at hapart
    have hoptions : Gives (bindings p r) (.options p) .options := by
      refine (gives_options_iff hne hdb _).mpr ⟨rfl, fun t ht hbound => ?_⟩
      obtain ⟨v, hv⟩ := value_of_not_made (hinject t ht) hbound
      exact ⟨v, .value hv⟩
    exact ⟨(gives_token_iff hapart hdb _).mpr ⟨rfl, _, hoptions⟩, hoptions⟩

end

end Xnestjs.Analysis
