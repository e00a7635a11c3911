import CyberLegends.Lib.Url
import Mathlib.Algebra.Group.Nat.Defs

/-! The route of the frontend that forwards requests to the backend, and when the identity of the
caller stays with the backend. -/

namespace CyberLegends.Frontend

open CyberLegends.Lib

/-! ### The route -/

inductive UpstreamIdentity
  | demo (actorId role : String)
  | oidc (accessToken : String)
  deriving DecidableEq

structure NextRequest where
  /-- The query with its question mark, or nothing. -/
  search : List Char := []
  contentLength : Option (List Char) := none
  contentType : Option (List Char) := none
  /-- Who the session or the access token says that the caller is. -/
  identity : Option UpstreamIdentity := none

structure BodyLimits where
  json : Nat := 1048576
  upload : Nat := 5242880

/-- The parts of the runtime that are not code here: the parsing of hosts, and the ports that a fetch
refuses. -/
structure Runtime where
  hostParse : Bool → List Char → Option (List Char)
  badPort : Nat → Bool

inductive Outcome
  /-- The route raises. -/
  | raised
  | errorResponse (status : Nat)
  /-- A request with the identity goes out. -/
  | sent (target : Url) (identity : UpstreamIdentity)
  deriving DecidableEq

/-- A declared length; a body limit error for what is no safe integer. -/
def parseContentLength : Option (List Char) → Option (Option Nat)
  | none => some none
  | some value =>
    if value ≠ [] ∧ value.all Char.isDigit ∧ Url.readNat value ≤ 2 ^ 53 - 1 then
      some (some (Url.readNat value))
    else none

def NextRequest.isUpload (request : NextRequest) : Bool :=
  match request.contentType with
  | none => false
  | some contentType => "multipart/form-data".toList.isPrefixOf (contentType.map Char.toLower)

def BodyLimits.bodyLimit (limits : BodyLimits) (request : NextRequest) : Nat :=
  if request.isUpload then limits.upload else limits.json

/-- A fetch sends no request that is not of the web, that carries credentials in its URL or that goes
to a bad port. -/
def Runtime.refuses (runtime : Runtime) (target : Url) : Bool :=
  target.scheme ∉ ["http", "https"] || target.username ≠ [] || target.password ≠ [] ||
    target.port.any runtime.badPort

/-- The path after its first slash. -/
def joinedPath (path : List (List Char)) : List Char := ['/'].intercalate path

/-- What comes of a request for the path, whose segments are decoded. -/
def forward (runtime : Runtime) (limits : BodyLimits) (backendApiUrl : Url) (request : NextRequest)
    (path : List (List Char)) : Outcome :=
  match Url.resolve runtime.hostParse backendApiUrl (joinedPath path) with
  | none => .raised
  | some target =>
    match request.identity with
    | none => .errorResponse 401
    | some identity =>
      match parseContentLength request.contentLength with
      | none => .errorResponse 413
      | some declaredLength =>
        if declaredLength.any (limits.bodyLimit request < ·) then .errorResponse 413
        else if runtime.refuses (target.setSearch request.search) then .errorResponse 503
        else .sent (target.setSearch request.search) identity

/-! ### Where the identity goes -/

def origin (url : Url) : String × Option (List Char) × Option Nat := (url.scheme, url.host, url.port)

/-- A request that goes out goes to the origin of the backend. -/
def StaysOnOrigin (backendApiUrl : Url) (outcome : Outcome) : Prop :=
  ∀ target identity, outcome = .sent target identity → origin target = origin backendApiUrl

/-- The caller is known, and the declared body is within the limit. -/
def Admitted (limits : BodyLimits) (request : NextRequest) : Prop :=
  request.identity.isSome ∧ ∃ declaredLength,
    parseContentLength request.contentLength = some declaredLength ∧
      declaredLength.any (limits.bodyLimit request < ·) = false

/-- The backend is one of the web, and the path begins with slashes after which it names another host
or port, without credentials and not a bad port. -/
def NamesOther (runtime : Runtime) (backendApiUrl : Url) (path : List (List Char)) : Prop :=
  backendApiUrl.scheme ∈ ["http", "https"] ∧ backendApiUrl.opaquePath = false ∧
    ∃ authority rest,
      Url.namedAuthority runtime.hostParse backendApiUrl.scheme (Url.clean (joinedPath path)) =
        some (some (authority, rest)) ∧
      authority.username = [] ∧ authority.password = [] ∧
      authority.port.any runtime.badPort = false ∧
      ¬ (some authority.host = backendApiUrl.host ∧ authority.port = backendApiUrl.port)

section

variable {runtime : Runtime} {limits : BodyLimits} {backendApiUrl : Url} {request : NextRequest}
  {path : List (List Char)}

theorem refuses_beforePath {url url' : Url} (same : url.beforePath = url'.beforePath) :
    runtime.refuses url = runtime.refuses url' := by
  simp only [Url.beforePath, Prod.mk.injEq] at same
  obtain ⟨scheme, username, password, -, port⟩ := same
  simp only [Runtime.refuses, scheme, username, password, port]

theorem origin_beforePath {url url' : Url} (same : url.beforePath = url'.beforePath) :
    origin url = origin url' := by
  simp only [Url.beforePath, Prod.mk.injEq] at same
  obtain ⟨scheme, -, -, host, port⟩ := same
  simp only [origin, scheme, host, port]

/-- What goes out when a request is admitted and the fetch does not refuse its URL. -/
theorem forward_sent_iff {target : Url} {identity : UpstreamIdentity} :
    forward runtime limits backendApiUrl request path = .sent target identity ↔
      Admitted limits request ∧ request.identity = some identity ∧
        ∃ url, Url.resolve runtime.hostParse backendApiUrl (joinedPath path) = some url ∧
          runtime.refuses url = false ∧ target = url.setSearch request.search := by
  have refuses (url : Url) : runtime.refuses (url.setSearch request.search) = runtime.refuses url :=
    refuses_beforePath (Url.setSearch_beforePath ..)
  unfold forward Admitted
  cases Url.resolve runtime.hostParse backendApiUrl (joinedPath path) with
  | none => simp
  | some url =>
    cases request.identity with
    | none => simp
    | some caller =>
      cases parseContentLength request.contentLength with
      | none => simp
      | some declaredLength =>
        dsimp only
        rw [refuses]
        by_cases tooLong : declaredLength.any (limits.bodyLimit request < ·) = true
        · simp [tooLong]
        · by_cases refused : runtime.refuses url = true
          · simp [tooLong, refused]
          · have swap : url.setSearch request.search = target ∧ caller = identity ↔
                caller = identity ∧ target = url.setSearch request.search := by
              rw [and_comm, eq_comm (a := target)]
            simpa [tooLong, refused] using swap

/-- The identity of the caller stays with the backend exactly if the request is not admitted or its
path names no other host or port. -/
theorem forward_stays_iff (runtime : Runtime) (limits : BodyLimits) (backendApiUrl : Url)
    (request : NextRequest) (path : List (List Char)) :
    StaysOnOrigin backendApiUrl (forward runtime limits backendApiUrl request path) ↔
      ¬ (Admitted limits request ∧ NamesOther runtime backendApiUrl path) := by
  constructor
  · rintro stays ⟨admitted, web, hierarchical, authority, rest, named, username, password, port,
      other⟩
    obtain ⟨identity, caller⟩ := Option.isSome_iff_exists.mp admitted.1
    have noFile : backendApiUrl.scheme ≠ "file" := by
      rintro file
      rw [file] at web
      exact absurd web (by decide)
    have before := Url.resolve_beforePath runtime.hostParse (joinedPath path) noFile hierarchical
    rw [named] at before
    obtain ⟨url, resolved, parts⟩ := Option.map_eq_some_iff.mp before
    simp only [Url.beforePath, Prod.mk.injEq] at parts
    obtain ⟨scheme, urlUsername, urlPassword, urlHost, urlPort⟩ := parts
    have http : backendApiUrl.scheme = "http" ∨ backendApiUrl.scheme = "https" := by
      simpa using web
    have accepted : runtime.refuses url = false := by
      simpa [Runtime.refuses, scheme, urlUsername, urlPassword, urlPort, username, password, port]
        using http.resolve_left
    have same := stays _ identity
      (forward_sent_iff.mpr ⟨admitted, caller, url, resolved, accepted, rfl⟩)
    rw [origin_beforePath (Url.setSearch_beforePath ..)] at same
    simp only [origin, Prod.mk.injEq, urlHost, urlPort] at same
    exact other same.2
  · intro kept target identity sent
    obtain ⟨admitted, -, url, resolved, accepted, rfl⟩ := forward_sent_iff.mp sent
    rw [origin_beforePath (Url.setSearch_beforePath ..)]
    have scheme := Url.resolve_scheme resolved
    have hierarchical := Url.resolve_hierarchical resolved
    simp only [Runtime.refuses, Bool.or_eq_false_iff, decide_eq_false_iff_not, not_not] at accepted
    obtain ⟨⟨⟨web, username⟩, password⟩, port⟩ := accepted
    rw [scheme] at web
    have noFile : backendApiUrl.scheme ≠ "file" := by
      rintro file
      rw [file] at web
      exact absurd web (by decide)
    have before := Url.resolve_beforePath runtime.hostParse (joinedPath path) noFile hierarchical
    rw [resolved] at before
    split at before
    · exact origin_beforePath (Option.some.inj before)
    · rename_i named found
      obtain ⟨⟨authority, rest⟩, rfl, parts⟩ := Option.map_eq_some_iff.mp before.symm
      simp only [Url.beforePath, Prod.mk.injEq] at parts
      obtain ⟨-, urlUsername, urlPassword, urlHost, urlPort⟩ := parts
      by_contra other
      refine kept ⟨admitted, web, hierarchical, authority, rest, found, ?_, ?_, ?_, ?_⟩
      · rw [urlUsername, username]
      · rw [urlPassword, password]
      · rw [urlPort, port]
      · rintro ⟨host, samePort⟩
        apply other
        simp only [origin, scheme, ← urlHost, ← urlPort, host, samePort]

end

/-- A runtime with names and dotted numbers for hosts. -/
def plainRuntime : Runtime where
  hostParse _ text :=
    if text.all fun c => c.isAlphanum || c = '.' || c = '-' then some (text.map Char.toLower)
    else none
  badPort port := port = 25

/-- A first segment that begins with a slash takes the identity to another host. -/
theorem slash_segment_leaves :
    ¬ ∀ (runtime : Runtime) (limits : BodyLimits) (backendApiUrl : Url) (request : NextRequest)
      (path : List (List Char)),
      StaysOnOrigin backendApiUrl (forward runtime limits backendApiUrl request path) := by
  intro law
  have stays := law plainRuntime {}
    { scheme := "http", host := some "backend".toList, port := some 8000, path := [[]] }
    { identity := some (.oidc "token") } ["/evil.com".toList, "x".toList]
  have sent : forward plainRuntime {}
      { scheme := "http", host := some "backend".toList, port := some 8000, path := [[]] }
      { identity := some (.oidc "token") } ["/evil.com".toList, "x".toList] =
      .sent { scheme := "http", host := some "evil.com".toList, path := ["x".toList] }
        (.oidc "token") := by
    decide +kernel
  exact absurd (stays _ _ sent) (by decide +kernel)

end CyberLegends.Frontend
