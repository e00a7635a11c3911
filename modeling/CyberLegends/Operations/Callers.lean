import CyberLegends.Actions.Repository
import CyberLegends.Operations.RateLimit

/-! Requests to the rate-limited paths: the limiter's key of a request, the actor that it is
authenticated as, and how many requests of an actor are accepted. -/

namespace CyberLegends.Operations

open CyberLegends.Core Lib Actions

/-! ### Requests -/

/-- What the two dependencies read of a request. -/
structure Request where
  method : String
  path : String
  clientHost : Option String := none
  /-- The token of the authorization header. -/
  credentials : Option String := none
  xActorId : Option String := none
  xActorRole : Option String := none
  deriving DecidableEq

inductive RequestError
  | rateLimitExceeded (message : String)
  | authentication (message : String)
  /-- The role header names no role. -/
  | valueError
  deriving DecidableEq

namespace Request

variable (request : Request)

/-- The caller as the limiter sees it: the header that names the actor, or else the client. -/
def identity : String :=
  let client := request.clientHost.getD "unknown"
  match request.xActorId with
  | some actor => if actor = "" then client else actor
  | none => client

def rateLimitKey : String := request.method ++ ":" ++ request.path ++ ":" ++ request.identity

/-- The actor of a request. `decode` is the check of bearer tokens. -/
def getCurrentActor (production : Bool) (decode : String → Except RequestError AuthenticatedActor) :
    Except RequestError AuthenticatedActor :=
  match request.credentials with
  | some token => decode token
  | none =>
    match request.xActorId, request.xActorRole with
    | some actorId, some role =>
      if production = false ∧ actorId ≠ "" ∧ role ≠ "" then
        match UserRole.ofValue role with
        | some role => .ok { actorId, role }
        | none => .error .valueError
      else .error (.authentication "Authentication is required")
    | _, _ => .error (.authentication "Authentication is required")

end Request

/-- The settings that the two dependencies read. -/
structure CallerSettings (α : Type*) where
  rateLimitRequests : Nat := 20
  rateLimitWindowSeconds : α
  production : Bool := true

structure Arrival (α : Type*) where
  now : α
  request : Request

section

variable {α : Type*} [Sub α] [LinearOrder α] (settings : CallerSettings α)
  (decode : String → Except RequestError AuthenticatedActor)

def enforceSensitiveRateLimit (limiter : InMemoryRateLimiter α) (arrival : Arrival α) :
    Except RequestError Unit × InMemoryRateLimiter α :=
  let (allowed, limiter) := limiter.allow arrival.now arrival.request.rateLimitKey
    settings.rateLimitRequests settings.rateLimitWindowSeconds
  (if allowed then .ok ()
    else .error (.rateLimitExceeded "Too many requests for this operation"), limiter)

/-- The requests, each with the actor that it is accepted for. The limiter is asked before the actor
is. -/
def handled (limiter : InMemoryRateLimiter α) :
    List (Arrival α) → List (Arrival α × Except RequestError AuthenticatedActor)
  | [] => []
  | arrival :: arrivals =>
    let (checked, limiter) := enforceSensitiveRateLimit settings limiter arrival
    let result := checked.bind fun _ =>
      arrival.request.getCurrentActor settings.production decode
    (arrival, result) :: handled limiter arrivals

/-- The request is to the path and carries a bearer token of the actor. -/
def Request.FromActor (method path actorId : String) (request : Request) : Prop :=
  request.method = method ∧ request.path = path ∧
    ∃ token ∈ request.credentials, ∃ actor, decode token = .ok actor ∧ actor.actorId = actorId

/-- A request to the path is accepted for a bearer token of the actor. -/
def acceptedFor (method path actorId : String) :
    Arrival α × Except RequestError AuthenticatedActor → Bool
  | (arrival, .ok actor) =>
    arrival.request.method = method ∧ arrival.request.path = path ∧
      arrival.request.credentials.isSome ∧ actor.actorId = actorId
  | (_, .error _) => false

/-- When requests of the actor to the path were accepted. -/
def acceptedTimes (method path actorId : String)
    (results : List (Arrival α × Except RequestError AuthenticatedActor)) : List α :=
  (results.filter (acceptedFor method path actorId)).map fun (arrival, _) => arrival.now

/-- The call of the limiter that a request makes. -/
def Arrival.call (arrival : Arrival α) : Call α where
  now := arrival.now
  key := arrival.request.rateLimitKey
  limit := settings.rateLimitRequests
  windowSeconds := settings.rateLimitWindowSeconds

end

/-! ### Keys -/

/-- Requests to one path have one key exactly if the limiter sees one caller. -/
theorem rateLimitKey_inj {request request' : Request} (method : request.method = request'.method)
    (path : request.path = request'.path) :
    request.rateLimitKey = request'.rateLimitKey ↔ request.identity = request'.identity := by
  unfold Request.rateLimitKey
  rw [method, path]
  simp [String.ext_iff]

section

variable {α : Type*} [Sub α] [LinearOrder α] {settings : CallerSettings α}
  {decode : String → Except RequestError AuthenticatedActor} {method path actorId : String}

omit [Sub α] [LinearOrder α] in
theorem acceptedFor_iff {arrival : Arrival α} {result : Except RequestError AuthenticatedActor} :
    acceptedFor method path actorId (arrival, result) = true ↔
      ∃ actor, result = .ok actor ∧ arrival.request.method = method ∧
        arrival.request.path = path ∧ arrival.request.credentials.isSome ∧
        actor.actorId = actorId := by
  cases result <;> simp [acceptedFor]

omit [Sub α] [LinearOrder α] in
/-- A request that is accepted for a bearer token of the actor is from the actor. -/
theorem fromActor_of_accepted {arrival : Arrival α} {production : Bool}
    {checked : Except RequestError Unit}
    (accepted : acceptedFor method path actorId (arrival, checked.bind fun _ =>
      arrival.request.getCurrentActor production decode) = true) :
    checked = .ok () ∧ arrival.request.FromActor decode method path actorId := by
  obtain ⟨actor, result, sameMethod, samePath, bearer, sameId⟩ := acceptedFor_iff.mp accepted
  cases checked with
  | error error => cases result
  | ok =>
    obtain ⟨token, carried⟩ := Option.isSome_iff_exists.mp bearer
    have decoded : decode token = .ok actor := by
      simpa only [Except.bind, Request.getCurrentActor, carried] using result
    exact ⟨rfl, sameMethod, samePath, token, by simp [carried], actor, decoded, sameId⟩

omit [Sub α] [LinearOrder α] in
theorem allowedTimes_cons_sublist (key : String) (answered : Call α × Bool)
    (later : List (Call α × Bool)) :
    (allowedTimes key later).Sublist (allowedTimes key (answered :: later)) :=
  ((List.sublist_cons_self answered later).filter _).map _

/-- When the requests of an actor to a path have one key, those that are accepted are among those
that the limiter allows for it. -/
theorem acceptedTimes_sublist {key : String} {arrivals : List (Arrival α)}
    (keyed : ∀ arrival ∈ arrivals, arrival.request.FromActor decode method path actorId →
      arrival.request.rateLimitKey = key) (limiter : InMemoryRateLimiter α) :
    (acceptedTimes method path actorId (handled settings decode limiter arrivals)).Sublist
      (allowedTimes key (answers limiter (arrivals.map (Arrival.call settings)))) := by
  induction arrivals generalizing limiter with
  | nil => exact List.Sublist.refl _
  | cons arrival arrivals ih =>
    have rest := ih (fun later member => keyed later (List.mem_cons_of_mem _ member))
      (enforceSensitiveRateLimit settings limiter arrival).2
    rw [handled, List.map_cons, answers]
    dsimp only
    cases accepted : acceptedFor method path actorId
        (arrival, (enforceSensitiveRateLimit settings limiter arrival).1.bind fun _ =>
          arrival.request.getCurrentActor settings.production decode) with
    | false =>
      rw [acceptedTimes, List.filter_cons_of_neg (by simp [accepted])]
      exact rest.trans (allowedTimes_cons_sublist ..)
    | true =>
      obtain ⟨passed, own⟩ := fromActor_of_accepted accepted
      have allowed : (limiter.allow arrival.now arrival.request.rateLimitKey
          settings.rateLimitRequests settings.rateLimitWindowSeconds).1 = true := by
        simp only [enforceSensitiveRateLimit] at passed
        by_contra denied
        simp [denied] at passed
      have here := keyed arrival List.mem_cons_self own
      rw [acceptedTimes, List.filter_cons_of_pos (by simp [accepted]), allowedTimes,
        List.filter_cons_of_pos (by simpa [Arrival.call, here] using allowed)]
      exact rest.cons_cons arrival.now

/-- Requests of the actor that the limiter allows are accepted. -/
theorem acceptedTimes_of_allowed {arrivals : List (Arrival α)}
    (own : ∀ arrival ∈ arrivals, arrival.request.FromActor decode method path actorId)
    {limiter : InMemoryRateLimiter α}
    (allowed : ∀ answered ∈ answers limiter (arrivals.map (Arrival.call settings)),
      answered.2 = true) :
    acceptedTimes method path actorId (handled settings decode limiter arrivals) =
      arrivals.map Arrival.now := by
  induction arrivals generalizing limiter with
  | nil => rfl
  | cons arrival arrivals ih =>
    rw [List.map_cons, answers] at allowed
    have passes : (limiter.allow arrival.now arrival.request.rateLimitKey
        settings.rateLimitRequests settings.rateLimitWindowSeconds).1 = true :=
      allowed _ List.mem_cons_self
    have rest := ih (fun later member => own later (List.mem_cons_of_mem _ member))
      (fun answered member => allowed answered (List.mem_cons_of_mem _ member))
    obtain ⟨sameMethod, samePath, token, carried, actor, decoded, sameId⟩ :=
      own arrival List.mem_cons_self
    have accepted : acceptedFor method path actorId
        (arrival, (enforceSensitiveRateLimit settings limiter arrival).1.bind fun _ =>
          arrival.request.getCurrentActor settings.production decode) = true := by
      refine acceptedFor_iff.mpr ⟨actor, ?_, sameMethod, samePath, by simp_all, sameId⟩
      rw [Option.mem_def] at carried
      simp [enforceSensitiveRateLimit, passes, Except.bind, Request.getCurrentActor, carried,
        decoded]
    rw [handled, acceptedTimes]
    dsimp only
    rw [List.filter_cons_of_pos accepted, List.map_cons, List.map_cons]
    exact congrArg _ rest

end

/-! ### The bound -/

section

variable {α : Type*} [AddCommGroup α] [LinearOrder α] [IsOrderedAddMonoid α]

/-- Whatever the requests are, those of the actor to the path that are among `own` are accepted no
more often in a window than the settings say. -/
def Bounded (settings : CallerSettings α) (decode : String → Except RequestError AuthenticatedActor)
    (method path actorId : String) (own : Request → Prop) : Prop :=
  ∀ arrivals : List (Arrival α), arrivals.Pairwise (fun first second => first.now ≤ second.now) →
    (∀ arrival ∈ arrivals, arrival.request.FromActor decode method path actorId →
      own arrival.request) →
    ∀ t, (within settings.rateLimitWindowSeconds t
      (acceptedTimes method path actorId (handled settings decode {} arrivals))).length ≤
        settings.rateLimitRequests

variable {settings : CallerSettings α} {decode : String → Except RequestError AuthenticatedActor}
  {method path actorId : String} {own : Request → Prop}

theorem bounded_of_one_identity
    (one : ∀ request request', own request → own request' →
      request.identity = request'.identity) : Bounded settings decode method path actorId own := by
  intro arrivals ordered among t
  have one_key : ∃ key, ∀ arrival ∈ arrivals,
      arrival.request.FromActor decode method path actorId →
        arrival.request.rateLimitKey = key := by
    by_cases some_own : ∃ arrival ∈ arrivals, arrival.request.FromActor decode method path actorId
    · obtain ⟨first, member, fromActor⟩ := some_own
      refine ⟨first.request.rateLimitKey, fun arrival member' fromActor' => ?_⟩
      refine (rateLimitKey_inj (fromActor'.1.trans fromActor.1.symm)
        (fromActor'.2.1.trans fromActor.2.1.symm)).mpr ?_
      exact one _ _ (among arrival member' fromActor') (among first member fromActor)
    · exact ⟨"", fun arrival member fromActor => absurd ⟨arrival, member, fromActor⟩ some_own⟩
  obtain ⟨key, keyed⟩ := one_key
  have slides : (within settings.rateLimitWindowSeconds t
      (allowedTimes key (answers {} (arrivals.map (Arrival.call settings))))).length ≤
        settings.rateLimitRequests :=
    (allow_slides (List.pairwise_map.mpr ordered) (by simp [Arrival.call])).1 t
  exact ((acceptedTimes_sublist keyed {}).filter _).length_le.trans slides

/-- A queue with room allows a burst that fills it at most. -/
theorem answers_burst (limiter : InMemoryRateLimiter α) (call : Call α) (n m : Nat)
    (window : 0 < call.windowSeconds)
    (queued : limiter.events call.key = List.replicate m call.now)
    (room : m + n ≤ call.limit) (later : List (Call α)) :
    ∃ limiter' : InMemoryRateLimiter α,
      limiter'.events call.key = List.replicate (m + n) call.now ∧
      (∀ key, key ≠ call.key → limiter'.events key = limiter.events key) ∧
      answers limiter (List.replicate n call ++ later) =
        List.replicate n (call, true) ++ answers limiter' later := by
  induction n generalizing limiter m with
  | zero => exact ⟨limiter, by simpa using queued, fun _ _ => rfl, rfl⟩
  | succ n ih =>
    have kept : (List.replicate m call.now).dropWhile (· ≤ call.now - call.windowSeconds) =
        List.replicate m call.now := by
      cases m with
      | zero => rfl
      | succ m =>
        refine List.dropWhile_cons_of_neg ?_
        simpa using window
    have short : ¬ call.limit ≤ m := by omega
    have result : limiter.allow call.now call.key call.limit call.windowSeconds =
        (true, limiter.setEvents call.key (List.replicate m call.now ++ [call.now])) := by
      simp [InMemoryRateLimiter.allow, queued, kept, short]
    obtain ⟨limiter', full, others, rest⟩ := ih
      (limiter.setEvents call.key (List.replicate m call.now ++ [call.now])) (m + 1)
      (by rw [setEvents_events, List.replicate_succ']) (by omega)
    refine ⟨limiter', by rw [full]; congr 1; omega, fun key other => ?_, ?_⟩
    · rw [others key other, setEvents_events_ne _ other]
    · rw [List.replicate_succ, List.cons_append, answers, result]
      simp only [rest]
      rfl

/-- Requests of two identities are accepted once more than the settings say: a burst of the one, and
one of the other. -/
theorem one_identity_of_bounded (limited : 0 < settings.rateLimitRequests)
    (window : 0 < settings.rateLimitWindowSeconds)
    (toPath : ∀ request, own request → request.FromActor decode method path actorId)
    (bounded : Bounded settings decode method path actorId own) {request request' : Request}
    (first : own request) (second : own request') : request.identity = request'.identity := by
  by_contra other
  obtain ⟨fromActor, fromActor'⟩ := And.intro (toPath request first) (toPath request' second)
  have keys : request'.rateLimitKey ≠ request.rateLimitKey := fun same => other <| Eq.symm <|
    (rateLimitKey_inj (fromActor'.1.trans fromActor.1.symm)
      (fromActor'.2.1.trans fromActor.2.1.symm)).mp same
  let arrivals : List (Arrival α) :=
    List.replicate settings.rateLimitRequests ⟨0, request⟩ ++ [⟨0, request'⟩]
  have member : ∀ arrival ∈ arrivals, arrival.now = 0 ∧
      (arrival.request = request ∨ arrival.request = request') := by
    intro arrival member
    rcases List.mem_append.mp member with member | member
    · rw [List.eq_of_mem_replicate member]
      exact ⟨rfl, .inl rfl⟩
    · rw [List.mem_singleton.mp member]
      exact ⟨rfl, .inr rfl⟩
  have isOwn : ∀ arrival ∈ arrivals, own arrival.request := by
    intro arrival here
    rcases (member arrival here).2 with same | same
    · exact same ▸ first
    · exact same ▸ second
  have ordered : arrivals.Pairwise fun first second => first.now ≤ second.now :=
    List.pairwise_of_forall_mem_list fun first here second here' => by
      rw [(member first here).1, (member second here').1]
  have allowed : ∀ answered ∈ answers {} (arrivals.map (Arrival.call settings)),
      answered.2 = true := by
    obtain ⟨limiter, -, others, burst⟩ := answers_burst {} (Arrival.call settings ⟨0, request⟩)
      settings.rateLimitRequests 0 window (by simp) (by simp [Arrival.call])
      [Arrival.call settings ⟨0, request'⟩]
    have untouched : limiter.events request'.rateLimitKey = [] :=
      (others _ keys).trans (empty_events _)
    have room : 0 + 1 ≤ (Arrival.call settings ⟨0, request'⟩).limit := by
      rw [zero_add]
      exact limited
    obtain ⟨_, -, -, last⟩ := answers_burst limiter (Arrival.call settings ⟨0, request'⟩) 1 0 window
      untouched room []
    rw [List.replicate_one, List.replicate_one, List.append_nil] at last
    have whole : arrivals.map (Arrival.call settings) =
        List.replicate settings.rateLimitRequests (Arrival.call settings ⟨0, request⟩) ++
          [Arrival.call settings ⟨0, request'⟩] := by
      simp [arrivals]
    rw [whole, burst, last]
    intro answered here
    rcases List.mem_append.mp here with here | here
    · rw [List.eq_of_mem_replicate here]
    · simp [answers] at here
      rw [here]
  have accepted := acceptedTimes_of_allowed (fun arrival here => toPath _ (isOwn arrival here))
    allowed
  have most := bounded arrivals ordered (fun arrival here _ => isOwn arrival here) 0
  rw [accepted] at most
  have all : within settings.rateLimitWindowSeconds 0 (arrivals.map Arrival.now) =
      arrivals.map Arrival.now := by
    refine List.filter_eq_self.mpr fun s here => ?_
    obtain ⟨arrival, listed, rfl⟩ := List.mem_map.mp here
    simpa [(member arrival listed).1] using window
  rw [all, List.length_map, List.length_append, List.length_replicate, List.length_singleton] at most
  omega

/-- The requests that an actor may make to a path are accepted no more often in a window than the
settings say, in whatever order they come and whatever other requests there are, exactly if the
limiter sees one caller in all of them. -/
theorem bounded_iff_one_identity (limited : 0 < settings.rateLimitRequests)
    (window : 0 < settings.rateLimitWindowSeconds)
    (toPath : ∀ request, own request → request.FromActor decode method path actorId) :
    Bounded settings decode method path actorId own ↔
      ∀ request request', own request → own request' → request.identity = request'.identity :=
  ⟨fun bounded _ _ first second => one_identity_of_bounded limited window toPath bounded first second,
    bounded_of_one_identity⟩

end

/-- The tokens of one manager. -/
def decodeManager (token : String) : Except RequestError AuthenticatedActor :=
  if token = "token" then .ok { actorId := "manager", role := .manager }
  else .error (.authentication "Invalid authentication token")

def headed (xActorId : String) : Request where
  method := "POST"
  path := "/jobs"
  credentials := some "token"
  xActorId := some xActorId

theorem bounded_iff_one_identity_headed :
    Bounded ({ rateLimitWindowSeconds := 60 } : CallerSettings ℤ) decodeManager "POST" "/jobs"
        "manager" (fun request => request = headed "a" ∨ request = headed "b") ↔
      ∀ request request', request = headed "a" ∨ request = headed "b" →
        request' = headed "a" ∨ request' = headed "b" → request.identity = request'.identity :=
  bounded_iff_one_identity (by decide) (by decide) (by
    rintro request (rfl | rfl) <;> exact ⟨rfl, rfl, "token", rfl, _, rfl, rfl⟩)

/-- With one request allowed, two requests of one actor with different headers are both accepted. -/
theorem headers_accepted_twice :
    ¬ ∀ (settings : CallerSettings ℤ) (decode : String → Except RequestError AuthenticatedActor)
      (method path actorId : String), 0 < settings.rateLimitRequests →
        0 < settings.rateLimitWindowSeconds →
          Bounded settings decode method path actorId fun request =>
            request.FromActor decode method path actorId := by
  intro law
  have bounded := law { rateLimitRequests := 1, rateLimitWindowSeconds := 60 } decodeManager "POST"
    "/jobs" "manager" (by decide) (by decide) [⟨0, headed "a"⟩, ⟨0, headed "b"⟩] (by decide)
    (fun _ _ fromActor => fromActor) 0
  revert bounded
  decide +kernel

end CyberLegends.Operations
