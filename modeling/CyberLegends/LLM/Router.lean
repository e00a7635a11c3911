import CyberLegends.Lib.Fallthrough

/-! The router that asks one provider after another for a structured completion, until one answers within
the limit on its cost. -/

namespace CyberLegends.LLM

open CyberLegends.Lib

/-! ### Providers -/

inductive ProviderName
  | mock
  | openai
  | gemini
  | anthropic
  deriving DecidableEq, Repr

def ProviderName.value : ProviderName → String
  | mock => "mock"
  | openai => "openai"
  | gemini => "gemini"
  | anthropic => "anthropic"

inductive ProviderError
  | llmProviderUnavailable (message : String)
  | llmRateLimit (message : String)
  | llmTimeout (message : String)
  | providerCapability (message : String)
  /-- Any other exception, by its name. -/
  | other (name message : String)
  deriving DecidableEq, Repr

/-- Whether the error leaves the turn to the next provider. -/
def ProviderError.isFallback : ProviderError → Bool
  | llmProviderUnavailable _ | llmRateLimit _ | llmTimeout _ => true
  | _ => false

structure ModelCapabilities where
  structuredOutput : Bool
  toolCalling : Bool
  imageInput : Bool
  imageGeneration : Bool
  deriving DecidableEq, Repr

def defaultCapabilities : ProviderName → ModelCapabilities
  | .mock => ⟨true, true, true, true⟩
  | .openai => ⟨true, true, true, true⟩
  | .gemini => ⟨true, true, true, false⟩
  | .anthropic => ⟨true, true, true, false⟩

/-- A completion; `payload` is what it carries besides. -/
structure NormalizedCompletion (κ ρ : Type*) where
  provider : ProviderName
  estimatedCost : κ
  payload : ρ
  fallbackFrom : Option ProviderName := none
  deriving DecidableEq

section
variable {κ ρ σ : Type*}

/-- What a provider answers to a request. -/
abbrev CompletionClient (σ κ ρ : Type*) := σ → Except ProviderError (NormalizedCompletion κ ρ)

structure ProviderRegistry (σ κ ρ : Type*) where
  clients : ProviderName → Option (CompletionClient σ κ ρ)

namespace ProviderRegistry
variable (registry : ProviderRegistry σ κ ρ)

def get (provider : ProviderName) : Except ProviderError (CompletionClient σ κ ρ) :=
  match registry.clients provider with
  | none => .error (.providerCapability ("Provider " ++ provider.value ++ " is not configured"))
  | some client => .ok client

/-- The requirements with the capabilities that they ask for, in order. -/
def requirements (required capabilities : ModelCapabilities) : List (String × Bool × Bool) :=
  [("structured_output", required.structuredOutput, capabilities.structuredOutput),
    ("tool_calling", required.toolCalling, capabilities.toolCalling),
    ("image_input", required.imageInput, capabilities.imageInput),
    ("image_generation", required.imageGeneration, capabilities.imageGeneration)]

def validate (provider : ProviderName) (required : ModelCapabilities) :
    Except ProviderError ModelCapabilities :=
  let capabilities := defaultCapabilities provider
  match (requirements required capabilities).find? fun (_, required, has) => required && !has with
  | some (name, _) =>
    .error (.providerCapability ("Provider " ++ provider.value ++ " does not support " ++ name))
  | none => (registry.get provider).map fun _ => capabilities

def structuredOutput : ModelCapabilities := ⟨true, false, false, false⟩

/-- Every provider supports structured output. -/
theorem validate_structuredOutput (candidate : ProviderName) :
    registry.validate candidate structuredOutput
      = (registry.get candidate).map fun _ => defaultCapabilities candidate := by
  cases candidate <;> rfl

end ProviderRegistry

/-! ### The router -/

structure ProviderRouter (σ κ ρ : Type*) where
  registry : ProviderRegistry σ κ ρ
  fallbackChain : List ProviderName := []
  maxEstimatedCost : κ

/-- What a request has come to, and the providers that were called, in order. -/
structure Routed (κ ρ : Type*) where
  calls : List ProviderName
  answer : Except ProviderError (NormalizedCompletion κ ρ)
  deriving DecidableEq

namespace ProviderRouter
variable [LT κ] [DecidableLT κ] (router : ProviderRouter σ κ ρ) (request : σ)

def chain (provider : ProviderName) : List ProviderName :=
  let chain := provider :: router.fallbackChain.filter (· ≠ provider)
  if chain.length > 4 then chain.take 4 else chain

/-- The call of a provider whose client is there, with the check of its cost. -/
def call (client : CompletionClient σ κ ρ) : Except ProviderError (NormalizedCompletion κ ρ) :=
  match client request with
  | .error error => .error error
  | .ok result =>
    if router.maxEstimatedCost < result.estimatedCost then
      .error (.llmRateLimit "Provider response exceeded the configured cost limit")
    else .ok result

/-- The loop over the rest of the chain. The validation is not among what is tried. -/
def attempts (original : ProviderName) (index : ℕ) (lastError : Option ProviderError)
    (calls : List ProviderName) : List ProviderName → Routed κ ρ
  | [] =>
    match lastError with
    | some error => ⟨calls, .error error⟩
    | none => ⟨calls, .error (.llmProviderUnavailable "No provider was available")⟩
  | candidate :: chain =>
    match router.registry.validate candidate ProviderRegistry.structuredOutput,
      router.registry.get candidate with
    | .error error, _ => ⟨calls, .error error⟩
    | .ok _, .error error => ⟨calls, .error error⟩
    | .ok _, .ok client =>
      let calls := calls ++ [candidate]
      match router.call request client with
      | .ok result =>
        if index ≠ 0 then ⟨calls, .ok { result with fallbackFrom := some original }⟩
        else ⟨calls, .ok result⟩
      | .error error =>
        if error.isFallback then attempts original (index + 1) (some error) calls chain
        else ⟨calls, .error error⟩

def completeStructured (provider : ProviderName) : Routed κ ρ :=
  router.attempts request provider 0 none [] (router.chain provider)

/-! ### What a candidate comes to -/

/-- The result of a provider that is configured. -/
def outcome (candidate : ProviderName) : Option (Except ProviderError (NormalizedCompletion κ ρ)) :=
  (router.registry.clients candidate).map (router.call request)

/-- The provider is configured and completes the request within the cost limit. -/
def succeeds (candidate : ProviderName) : Bool :=
  match router.outcome request candidate with
  | some (.ok _) => true
  | _ => false

/-- The provider is configured and fails in a way that leaves the turn to the next. -/
def fallsBack (candidate : ProviderName) : Bool :=
  match router.outcome request candidate with
  | some (.error error) => error.isFallback
  | _ => false

/-- The distinct configured candidates, in the order of the chain, as many as may be tried. -/
def candidates (provider : ProviderName) : List ProviderName :=
  ((provider :: router.fallbackChain).eraseDups.take 4).filter
    fun candidate => (router.registry.clients candidate).isSome

/-- The completion of the first candidate that succeeds; it says when it is not that of the provider
asked for. -/
def marked (provider candidate : ProviderName) (result : NormalizedCompletion κ ρ) :
    NormalizedCompletion κ ρ :=
  if candidate = provider then result else { result with fallbackFrom := some provider }

/-- The first success is the completion, an error means that there is none or that an error came
that is not fallen back from, and nothing is called twice. -/
structure FirstSuccess (provider : ProviderName) : Prop where
  completion : ∀ completion, (router.completeStructured request provider).answer = .ok completion →
    ∃ before candidate after result,
      router.candidates provider = before ++ candidate :: after ∧
      (∀ earlier ∈ before, ¬ router.succeeds request earlier) ∧
      router.outcome request candidate = some (.ok result) ∧
      completion = marked provider candidate result
  error : ∀ error, (router.completeStructured request provider).answer = .error error →
    (∀ candidate ∈ router.candidates provider, ¬ router.succeeds request candidate) ∨
      error.isFallback = false
  once : (router.completeStructured request provider).calls.Nodup

/-- The same, where the error that is not fallen back from is one of a provider that was called. -/
structure FirstConfigured (provider : ProviderName) : Prop
    extends router.FirstSuccess request provider where
  called : ∀ error, (router.completeStructured request provider).answer = .error error →
    (∀ candidate ∈ router.candidates provider, ¬ router.succeeds request candidate) ∨
      error.isFallback = false ∧
        ∃ candidate ∈ (router.completeStructured request provider).calls,
          router.outcome request candidate = some (.error error)

/-- No provider comes again after candidates that all fall back. -/
def Unrepeated (provider : ProviderName) : Prop :=
  ∀ before candidate after, router.chain provider = before ++ candidate :: after →
    (∀ earlier ∈ before, router.fallsBack request earlier) → candidate ∉ before

/-- Where a provider that is not configured comes after candidates that all fall back, no candidate
succeeds. -/
def Unmissed (provider : ProviderName) : Prop :=
  ∀ before candidate after, router.chain provider = before ++ candidate :: after →
    (∀ earlier ∈ before, router.fallsBack request earlier) →
    router.registry.clients candidate = none →
    ∀ candidate ∈ router.candidates provider, ¬ router.succeeds request candidate

/-! ### How a request ends -/

variable {router request} {provider original candidate : ProviderName} {chain before : List ProviderName}
  {index : ℕ} {lastError : Option ProviderError} {calls : List ProviderName}
  {result : NormalizedCompletion κ ρ} {error : ProviderError}

theorem fallsBack_iff : router.fallsBack request candidate = true ↔
    ∃ error, router.outcome request candidate = some (.error error) ∧ error.isFallback = true := by
  unfold fallsBack
  split
  next error failed =>
    rw [failed]
    constructor
    · exact fun fallback => ⟨error, rfl, fallback⟩
    · rintro ⟨_, same, fallback⟩
      cases same
      exact fallback
  next other =>
    constructor
    · intro no
      cases no
    · rintro ⟨error, failed, -⟩
      exact absurd failed (other error)

theorem succeeds_of_outcome (answered : router.outcome request candidate = some (.ok result)) :
    router.succeeds request candidate = true := by
  unfold succeeds
  rw [answered]

theorem not_succeeds (falls : router.fallsBack request candidate = true) :
    ¬ router.succeeds request candidate = true := by
  obtain ⟨error, failed, -⟩ := fallsBack_iff.mp falls
  unfold succeeds
  rw [failed]
  exact Bool.false_ne_true

theorem attempts_unconfigured (missing : router.registry.clients candidate = none) :
    router.attempts request original index lastError calls (candidate :: chain)
      = ⟨calls, .error
          (.providerCapability ("Provider " ++ candidate.value ++ " is not configured"))⟩ := by
  simp only [attempts, ProviderRegistry.validate_structuredOutput, ProviderRegistry.get, missing, Except.map]

theorem attempts_ok (answered : router.outcome request candidate = some (.ok result)) :
    router.attempts request original index lastError calls (candidate :: chain)
      = ⟨calls ++ [candidate],
          .ok (if index ≠ 0 then { result with fallbackFrom := some original } else result)⟩ := by
  obtain ⟨client, there, called⟩ := Option.map_eq_some_iff.mp answered
  simp only [attempts, ProviderRegistry.validate_structuredOutput, ProviderRegistry.get, there, Except.map, called]
  split
  · rfl
  · rfl

theorem attempts_error (failed : router.outcome request candidate = some (.error error)) :
    router.attempts request original index lastError calls (candidate :: chain)
      = if error.isFallback then
          router.attempts request original (index + 1) (some error) (calls ++ [candidate]) chain
        else ⟨calls ++ [candidate], .error error⟩ := by
  obtain ⟨client, there, called⟩ := Option.map_eq_some_iff.mp failed
  simp only [attempts, ProviderRegistry.validate_structuredOutput, ProviderRegistry.get, there, Except.map, called]

/-- The loop goes on behind candidates that all fall back. -/
theorem attempts_through (original : ProviderName) (index : ℕ) (lastError : Option ProviderError)
    (calls chain : List ProviderName)
    (through : ∀ earlier ∈ before, router.fallsBack request earlier) :
    ∃ lastError', router.attempts request original index lastError calls (before ++ chain)
      = router.attempts request original (index + before.length) lastError' (calls ++ before)
          chain := by
  induction before generalizing index lastError calls with
  | nil => exact ⟨lastError, by simp⟩
  | cons candidate before ih =>
    obtain ⟨here, later⟩ := List.forall_mem_cons.mp through
    obtain ⟨error, failed, fallback⟩ := fallsBack_iff.mp here
    obtain ⟨last, same⟩ := ih (index + 1) (some error) (calls ++ [candidate]) later
    refine ⟨last, ?_⟩
    rw [List.cons_append, attempts_error failed, if_pos fallback, same, List.append_assoc,
      List.singleton_append, List.length_cons, Nat.add_right_comm, Nat.add_assoc]

/-- The ways in which a request ends. -/
inductive Ends (router : ProviderRouter σ κ ρ) (request : σ) (provider : ProviderName) :
    Routed κ ρ → Prop
  | exhausted (error : ProviderError)
    (through : ∀ candidate ∈ router.chain provider, router.fallsBack request candidate) :
    Ends router request provider ⟨router.chain provider, .error error⟩
  | unconfigured (before : List ProviderName) (candidate : ProviderName)
    (after : List ProviderName) (error : ProviderError)
    (chain : router.chain provider = before ++ candidate :: after)
    (through : ∀ earlier ∈ before, router.fallsBack request earlier)
    (missing : router.registry.clients candidate = none) (refused : error.isFallback = false) :
    Ends router request provider ⟨before, .error error⟩
  | failed (before : List ProviderName) (candidate : ProviderName) (after : List ProviderName)
    (error : ProviderError) (chain : router.chain provider = before ++ candidate :: after)
    (through : ∀ earlier ∈ before, router.fallsBack request earlier)
    (failed : router.outcome request candidate = some (.error error))
    (refused : error.isFallback = false) :
    Ends router request provider ⟨before ++ [candidate], .error error⟩
  | completed (before : List ProviderName) (candidate : ProviderName) (after : List ProviderName)
    (result : NormalizedCompletion κ ρ)
    (chain : router.chain provider = before ++ candidate :: after)
    (through : ∀ earlier ∈ before, router.fallsBack request earlier)
    (answered : router.outcome request candidate = some (.ok result)) :
    Ends router request provider ⟨before ++ [candidate], .ok (marked provider candidate result)⟩

theorem attempts_nil (router : ProviderRouter σ κ ρ) (request : σ) (original : ProviderName)
    (index : ℕ) (lastError : Option ProviderError) (calls : List ProviderName) : ∃ error, router.attempts request original index lastError calls []
    = ⟨calls, .error error⟩ := by
  unfold attempts
  split
  · exact ⟨_, rfl⟩
  · exact ⟨_, rfl⟩

omit [LT κ] [DecidableLT κ] in
/-- The chain is the provider asked for and the others of the fallback chain, as far as the fourth. -/
theorem chain_eq (router : ProviderRouter σ κ ρ) (provider : ProviderName) :
    router.chain provider
      = (provider :: router.fallbackChain.filter (· ≠ provider)).take 4 := by
  unfold ProviderRouter.chain
  dsimp only
  split
  · rfl
  · rw [List.take_of_length_le (by omega)]

omit [LT κ] [DecidableLT κ] in
/-- Only the first of the chain is the provider asked for. -/
theorem marked_eq {after : List ProviderName}
    (chain : router.chain provider = before ++ candidate :: after) :
    (if 0 + before.length ≠ 0 then { result with fallbackFrom := some provider } else result)
      = marked provider candidate result := by
  rw [chain_eq, List.take_succ_cons] at chain
  cases before with
  | nil =>
    obtain ⟨same, -⟩ := List.cons.inj chain
    rw [if_neg (by simp), marked, if_pos same.symm]
  | cons first before =>
    obtain ⟨-, rest⟩ := List.cons.inj chain
    have inside : candidate ∈ router.fallbackChain.filter (· ≠ provider) := by
      refine List.mem_of_mem_take (i := 3) ?_
      rw [rest]
      exact List.mem_append_right _ List.mem_cons_self
    have other : candidate ≠ provider := by simpa using (List.mem_filter.mp inside).2
    rw [if_pos (by simp), marked, if_neg other]

theorem completeStructured_ends (router : ProviderRouter σ κ ρ) (request : σ)
    (provider : ProviderName) :
    Ends router request provider (router.completeStructured request provider) := by
  unfold completeStructured
  rcases falls_cases (fun candidate => router.fallsBack request candidate = true)
    (router.chain provider) with through | ⟨before, candidate, after, chain, through, stays⟩
  · obtain ⟨last, same⟩ := attempts_through provider 0 none [] [] through
    obtain ⟨error, ended⟩ := attempts_nil router request provider
      (0 + (router.chain provider).length) last (router.chain provider)
    rw [List.append_nil, List.nil_append] at same
    rw [same, ended]
    exact .exhausted error through
  · obtain ⟨last, same⟩ := attempts_through provider 0 none [] (candidate :: after) through
    rw [List.nil_append] at same
    rw [chain, same]
    cases outcome : router.outcome request candidate with
    | none =>
      have missing := Option.map_eq_none_iff.mp outcome
      rw [attempts_unconfigured missing]
      exact .unconfigured before candidate after _ chain through missing rfl
    | some answer =>
      cases answer with
      | ok result =>
        rw [attempts_ok outcome, marked_eq chain]
        exact .completed before candidate after result chain through outcome
      | error error =>
        have refused : error.isFallback = false := by
          by_contra fallback
          exact stays (fallsBack_iff.mpr ⟨error, outcome, by simpa using fallback⟩)
        rw [attempts_error outcome, if_neg (by simp [refused])]
        exact .failed before candidate after error chain through outcome refused

/-! ### What a request costs -/

/-- An answer is one that its provider gave within the limit. -/
theorem outcome_ok (answered : router.outcome request candidate = some (.ok result)) :
    ∃ client, router.registry.clients candidate = some client ∧ client request = .ok result ∧
      ¬ router.maxEstimatedCost < result.estimatedCost := by
  obtain ⟨client, there, called⟩ := Option.map_eq_some_iff.mp answered
  refine ⟨client, there, ?_⟩
  unfold call at called
  split at called
  · cases called
  · rename_i answer given
    split at called
    · cases called
    · rename_i within
      obtain rfl := Except.ok.inj called
      exact ⟨given, within⟩

omit [LT κ] [DecidableLT κ] in
theorem calls_behind {after : List ProviderName}
    (chain : router.chain provider = before ++ candidate :: after) :
    before ++ [candidate] <+: router.chain provider := ⟨after, by rw [chain]; simp⟩

/-- At most four providers are called, in the order of the chain, each but the last of them in vain;
an answer is the one that the last of them gave, within the limit on its cost, and the turn has gone
through the whole chain when the error is one that leaves the turn to another. -/
theorem routed_laws (router : ProviderRouter σ κ ρ) (request : σ) (provider : ProviderName) :
    let routed := router.completeStructured request provider
    routed.calls <+: router.chain provider ∧ routed.calls.length ≤ 4 ∧
      (∀ earlier ∈ routed.calls.dropLast, router.fallsBack request earlier = true) ∧
      (∀ completion, routed.answer = .ok completion → ∃ candidate client result,
        routed.calls.getLast? = some candidate ∧ router.registry.clients candidate = some client ∧
        client request = .ok result ∧ ¬ router.maxEstimatedCost < result.estimatedCost ∧
        completion = marked provider candidate result) ∧
      ∀ error, routed.answer = .error error → error.isFallback = true →
        routed.calls = router.chain provider := by
  intro routed
  have ends : Ends router request provider routed := completeStructured_ends router request provider
  have few : (router.chain provider).length ≤ 4 := by
    rw [chain_eq]
    exact List.length_take_le 4 _
  have short : ∀ {calls : List ProviderName}, calls <+: router.chain provider → calls.length ≤ 4 :=
    fun front => Nat.le_trans front.length_le few
  generalize routed = routed at ends
  cases ends with
  | exhausted error through =>
    refine ⟨List.prefix_rfl, few, fun earlier member => through earlier ?_, ?_, fun _ _ _ => rfl⟩
    · exact List.dropLast_subset _ member
    · intro completion answer
      cases answer
  | unconfigured before candidate after error chain through missing refused =>
    have front : before <+: router.chain provider := ⟨candidate :: after, chain.symm⟩
    refine ⟨front, short front, fun earlier member => through earlier ?_, ?_, ?_⟩
    · exact List.dropLast_subset _ member
    · intro completion answer
      cases answer
    · intro error' answer fallback
      cases answer
      simp [refused] at fallback
  | failed before candidate after error chain through failed refused =>
    refine ⟨calls_behind chain, short (calls_behind chain), fun earlier member => ?_, ?_, ?_⟩
    · exact through earlier (by simpa using member)
    · intro completion answer
      cases answer
    · intro error' answer fallback
      cases answer
      simp [refused] at fallback
  | completed before candidate after result chain through answered =>
    obtain ⟨client, there, given, within⟩ := outcome_ok answered
    refine ⟨calls_behind chain, short (calls_behind chain), fun earlier member => ?_, ?_, ?_⟩
    · exact through earlier (by simpa using member)
    · intro completion answer
      cases answer
      exact ⟨candidate, client, result, by simp, there, given, within, rfl⟩
    · intro error' answer fallback
      cases answer

/-! ### The first success -/

theorem configured_of_outcome {answer : Except ProviderError (NormalizedCompletion κ ρ)}
    (outcome : router.outcome request candidate = some answer) :
    (router.registry.clients candidate).isSome = true := by
  obtain ⟨client, there, -⟩ := Option.map_eq_some_iff.mp outcome
  rw [there]
  rfl

theorem configured_of_fallsBack (falls : router.fallsBack request candidate = true) :
    (router.registry.clients candidate).isSome = true := by
  obtain ⟨error, failed, -⟩ := fallsBack_iff.mp falls
  exact configured_of_outcome failed

omit [LT κ] [DecidableLT κ] in
/-- Where the first of the chain are distinct, they are the first of the distinct providers. -/
theorem take_distinct (router : ProviderRouter σ κ ρ) (provider : ProviderName) {n : ℕ}
    (most : n ≤ 4) (distinct : ((router.chain provider).take n).Nodup) :
    (provider :: router.fallbackChain).eraseDups.take n = (router.chain provider).take n := by
  have once : (provider :: router.fallbackChain).eraseDups
      = (provider :: router.fallbackChain.filter (· ≠ provider)).eraseDups := by
    rw [List.eraseDups_cons, List.eraseDups_cons, List.filter_filter]
    congr 2
    refine List.filter_congr fun other _ => ?_
    by_cases same : other = provider <;> simp [same]
  rw [chain_eq, List.take_take, Nat.min_eq_left most] at distinct ⊢
  rw [once, take_eraseDups distinct]

/-- What is called are the candidates whose turn comes, but for one that is not configured. -/
theorem Ends.calls_nodup_iff {routed : Routed κ ρ} (ends : Ends router request provider routed) :
    routed.calls.Nodup ↔
      (reached (fun candidate => router.fallsBack request candidate = true)
        (router.chain provider)).Nodup := by
  cases ends with
  | exhausted error through => rw [reached_all through]
  | unconfigured before candidate after error chain through missing =>
    have apart : ∀ earlier ∈ before, earlier ≠ candidate := by
      rintro earlier member rfl
      have configured := configured_of_fallsBack (through earlier member)
      simp [missing] at configured
    have stays : ¬ router.fallsBack request candidate = true := fun falls => by
      simpa [missing] using configured_of_fallsBack falls
    rw [chain, reached_first through stays, List.nodup_append]
    constructor
    · intro distinct
      refine ⟨distinct, List.nodup_singleton candidate, fun earlier member last single => ?_⟩
      rw [List.mem_singleton.mp single]
      exact apart earlier member
    · exact fun distinct => distinct.1
  | failed before candidate after error chain through failed refused =>
    have stays : ¬ router.fallsBack request candidate = true := fun falls => by
      obtain ⟨error', failed', fallback⟩ := fallsBack_iff.mp falls
      rw [failed] at failed'
      cases failed'
      simp [refused] at fallback
    rw [chain, reached_first through stays]
  | completed before candidate after result chain through answered =>
    have stays : ¬ router.fallsBack request candidate = true := fun falls =>
      not_succeeds falls (succeeds_of_outcome answered)
    rw [chain, reached_first through stays]

/-- Something is called twice exactly when it comes again after candidates that all fall back. -/
theorem calls_nodup_iff : (router.completeStructured request provider).calls.Nodup ↔
    router.Unrepeated request provider :=
  (completeStructured_ends router request provider).calls_nodup_iff.trans reached_nodup_iff

/-- The candidates up to one that is reached are those of the chain. -/
theorem candidates_eq {after : List ProviderName}
    (unrepeated : router.Unrepeated request provider)
    (chain : router.chain provider = before ++ candidate :: after)
    (through : ∀ earlier ∈ before, router.fallsBack request earlier)
    (configured : (router.registry.clients candidate).isSome = true) :
    ∃ after', router.candidates provider = before ++ candidate :: after' := by
  have length : (router.chain provider).length ≤ 4 := by
    rw [chain_eq]
    exact List.length_take_le 4 _
  have short : before.length + 1 ≤ 4 := by
    rw [chain, List.length_append, List.length_cons] at length
    omega
  have front : (router.chain provider).take (before.length + 1) = before ++ [candidate] := by
    rw [chain, ← List.singleton_append, ← List.append_assoc]
    exact List.take_left' (by simp)
  have distinct : (before ++ [candidate]).Nodup := by
    have turns := reached_nodup_iff.mpr unrepeated
    rw [chain, reached_append through, reached] at turns
    refine turns.sublist ?_
    refine List.Sublist.append_left ?_ before
    split
    · exact List.singleton_sublist.mpr List.mem_cons_self
    · exact List.Sublist.refl _
  have first := take_distinct router provider short (front ▸ distinct)
  rw [front] at first
  obtain ⟨rest, whole⟩ : before ++ [candidate] <+:
      (provider :: router.fallbackChain).eraseDups.take 4 := by
    rw [← first]
    exact List.take_prefix_take_left short
  have kept : (before ++ [candidate]).filter (fun c => (router.registry.clients c).isSome)
      = before ++ [candidate] := by
    refine List.filter_eq_self.mpr fun other member => ?_
    rcases List.mem_append.mp member with earlier | last
    · exact configured_of_fallsBack (through other earlier)
    · rwa [List.mem_singleton.mp last]
  refine ⟨rest.filter fun c => (router.registry.clients c).isSome, ?_⟩
  unfold candidates
  rw [← whole, List.filter_append, kept, List.append_assoc, List.singleton_append]

/-- When the whole chain falls back, the candidates are among it. -/
theorem candidates_exhausted (unrepeated : router.Unrepeated request provider)
    (through : ∀ candidate ∈ router.chain provider, router.fallsBack request candidate)
    (member : candidate ∈ router.candidates provider) : candidate ∈ router.chain provider := by
  have length : (router.chain provider).length ≤ 4 := by
    rw [chain_eq]
    exact List.length_take_le 4 _
  have turns := reached_nodup_iff.mpr unrepeated
  rw [reached_all through] at turns
  have whole := List.take_of_length_le length
  have first := take_distinct router provider (Nat.le_refl 4) (whole.symm ▸ turns)
  rw [whole] at first
  rw [← first]
  exact (List.mem_filter.mp member).1

theorem firstSuccess_of_unrepeated (unrepeated : router.Unrepeated request provider) :
    router.FirstSuccess request provider := by
  have ends := completeStructured_ends router request provider
  refine ⟨fun completion answer => ?_, fun error answer => ?_, calls_nodup_iff.mpr unrepeated⟩
  · generalize router.completeStructured request provider = routed at ends answer
    cases ends with
    | exhausted | unconfigured | failed => cases answer
    | completed before candidate after result chain through answered =>
      obtain ⟨after', listed⟩ := candidates_eq unrepeated chain through
        (configured_of_outcome answered)
      cases answer
      exact ⟨before, candidate, after', result, listed,
        fun earlier member => not_succeeds (through earlier member), answered, rfl⟩
  · generalize router.completeStructured request provider = routed at ends answer
    cases ends with
    | exhausted error' through =>
      exact .inl fun candidate member =>
        not_succeeds (through candidate (candidates_exhausted unrepeated through member))
    | unconfigured before candidate after error' chain through missing refused =>
      cases answer
      exact .inr refused
    | failed before candidate after error' chain through failed refused =>
      cases answer
      exact .inr refused
    | completed => cases answer

theorem firstConfigured_of_unmissed (unrepeated : router.Unrepeated request provider)
    (unmissed : router.Unmissed request provider) : router.FirstConfigured request provider := by
  refine { firstSuccess_of_unrepeated unrepeated with called := fun error answer => ?_ }
  have ends := completeStructured_ends router request provider
  generalize router.completeStructured request provider = routed at ends answer
  cases ends with
  | exhausted error' through =>
    exact .inl fun candidate member =>
      not_succeeds (through candidate (candidates_exhausted unrepeated through member))
  | unconfigured before candidate after error' chain through missing refused =>
    exact .inl (unmissed before candidate after chain through missing)
  | failed before candidate after error' chain through failed refused =>
    cases answer
    exact .inr ⟨refused, candidate, List.mem_append_right _ List.mem_cons_self, failed⟩
  | completed => cases answer

theorem unmissed_of_firstConfigured (first : router.FirstConfigured request provider) :
    router.Unmissed request provider := by
  intro before candidate after chain through missing
  obtain ⟨last, same⟩ := attempts_through provider 0 none [] (candidate :: after) through
  rw [← chain, attempts_unconfigured missing, List.nil_append] at same
  have routed : router.completeStructured request provider = _ := same
  have called := first.called
  rw [routed] at called
  rcases called _ rfl with none | ⟨refused, other, member, failed⟩
  · exact none
  · obtain ⟨error, failed', fallback⟩ := fallsBack_iff.mp (through other member)
    rw [failed] at failed'
    cases failed'
    simp [ProviderError.isFallback] at fallback

end ProviderRouter
end

/-- For every registry, fallback chain, limit and request: the completion is that of the first
distinct configured candidate that succeeds and nothing is called twice exactly when no provider
comes again in the chain, of at most four, after candidates that all fall back. A provider that is
not configured ends the request, though a later candidate may succeed. -/
theorem first_success_iff {κ ρ σ : Type*} [LT κ] [DecidableLT κ] (router : ProviderRouter σ κ ρ)
    (request : σ) (provider : ProviderName) :
    (router.FirstSuccess request provider ↔ router.Unrepeated request provider) ∧
      (router.FirstConfigured request provider ↔
        router.Unrepeated request provider ∧ router.Unmissed request provider) := by
  refine ⟨⟨fun first => ?_, fun unrepeated => ?_⟩, ⟨fun first => ⟨?_, ?_⟩, fun ⟨once, unmissed⟩ => ?_⟩⟩
  · exact ProviderRouter.calls_nodup_iff.mp first.once
  · exact ProviderRouter.firstSuccess_of_unrepeated unrepeated
  · exact ProviderRouter.calls_nodup_iff.mp first.once
  · exact ProviderRouter.unmissed_of_firstConfigured first
  · exact ProviderRouter.firstConfigured_of_unmissed once unmissed

/-- A provider that is down and listed three times takes the turn of the one that would answer. -/
theorem repeated_provider_called :
    let completion : NormalizedCompletion ℕ String := ⟨.anthropic, 1, "answer", none⟩
    let client (provider : ProviderName) : CompletionClient String ℕ String := fun _ =>
      if provider = .anthropic then .ok completion
      else .error (.llmProviderUnavailable "unavailable")
    let router : ProviderRouter String ℕ String :=
      ⟨⟨fun provider => some (client provider)⟩, [.openai, .openai, .openai, .anthropic], 5⟩
    router.completeStructured "prompt" .mock
        = ⟨[.mock, .openai, .openai, .openai], .error (.llmProviderUnavailable "unavailable")⟩ ∧
      ¬ router.FirstSuccess "prompt" .mock := by
  intro completion client router
  have routed : router.completeStructured "prompt" .mock
      = ⟨[.mock, .openai, .openai, .openai], .error (.llmProviderUnavailable "unavailable")⟩ := by
    decide +kernel
  refine ⟨routed, fun first => ?_⟩
  have once := first.once
  rw [routed] at once
  exact absurd once (by decide)

end CyberLegends.LLM
