import CyberLegends.Core.Integers
import CyberLegends.Lib.Reader
import CyberLegends.Lib.Table

/-! The middleware that bounds the body of a request: by its header before anything is read, and by the
bytes that come while the application reads. -/

namespace CyberLegends.Observability

open CyberLegends.Core Lib

/-! ### Messages and errors -/

/-- A message of the server; a request comes in several, each with a part of the body. -/
structure Message where
  type : String
  body : List UInt8 := []

def Message.size (message : Message) : ℕ :=
  if message.type = "http.request" then message.body.length else 0

/-- What is raised: the error of the middleware, a group of errors, or another error. -/
inductive Raised (ε : Type)
  | requestBodyTooLarge
  | group (exceptions : List (Raised ε))
  | other (error : ε)

mutual
def containsBodyTooLarge {ε : Type} : Raised ε → Bool
  | .requestBodyTooLarge => true
  | .group exceptions => anyBodyTooLarge exceptions
  | .other _ => false

def anyBodyTooLarge {ε : Type} : List (Raised ε) → Bool
  | [] => false
  | error :: errors => containsBodyTooLarge error || anyBodyTooLarge errors
end

/-! ### Requests -/

section
variable {ε : Type}

/-- What the application reads next; behind the messages of the server comes the disconnect. -/
def receive : List (Except (Raised ε) Message) →
    Except (Raised ε) Message × List (Except (Raised ε) Message)
  | [] => (.ok { type := "http.disconnect" }, [])
  | message :: messages => (message, messages)

/-- The messages that are still to come, and the bytes that have. -/
structure Received (ε : Type) where
  receivedBytes : ℕ := 0
  messages : List (Except (Raised ε) Message)

def limitedReceive (maxRequestBodyBytes : ℕ) (state : Received ε) :
    Except (Raised ε) Message × Received ε :=
  let (message, messages) := receive state.messages
  match message with
  | .error error => (.error error, { state with messages })
  | .ok message =>
    if message.type = "http.request" then
      let receivedBytes := state.receivedBytes + message.body.length
      if maxRequestBodyBytes < receivedBytes then
        (.error .requestBodyTooLarge, { receivedBytes, messages })
      else (.ok message, { receivedBytes, messages })
    else (.ok message, { state with messages })

def headerExceedsLimit (maxRequestBodyBytes : ℕ) : Option String → Bool
  | none => false
  | some contentLength =>
    match parseInt contentLength with
    | none => true
    | some parsedLength => parsedLength < 0 ∨ (maxRequestBodyBytes : ℤ) < parsedLength

/-! ### Responses -/

inductive AppEnv
  | development
  | testing
  | production
  deriving DecidableEq

structure Settings where
  maxRequestBodyBytes : ℕ
  appEnv : AppEnv := .development

/-- How a response begins; the names of its headers are in lower case. -/
structure Response where
  statusCode : ℕ
  headers : List (String × String)
  deriving DecidableEq

/-- What goes out behind the beginning of a response, and the error that has cut it off. -/
structure Sent (ε : Type) where
  body : String
  raised : Option (Raised ε) := none

/-- The headers with one set, in the place of the first that has its name. -/
def setHeader (name value : String) : List (String × String) → List (String × String)
  | [] => [(name, value)]
  | (other, old) :: headers =>
    if other = name then (name, value) :: headers.filter fun header => header.1 ≠ name
    else (other, old) :: setHeader name value headers

/-- The headers that every answer gets. -/
def operationalHeaders (settings : Settings) (correlationId : String) : List (String × String) :=
  [("x-correlation-id", correlationId), ("x-content-type-options", "nosniff"),
    ("x-frame-options", "DENY"), ("referrer-policy", "no-referrer"),
    ("permissions-policy", "camera=(), microphone=(), geolocation=()")] ++
  if settings.appEnv = .production then
    [("strict-transport-security", "max-age=31536000; includeSubDomains")]
  else []

def setHeaders (headers : List (String × String)) (old : List (String × String)) :
    List (String × String) :=
  headers.foldl (fun headers header => setHeader header.1 header.2 headers) old

/-- The answer with the headers of the middleware. -/
def marked (settings : Settings) (correlationId : String) (answer : Response × Sent ε) :
    Response × Sent ε :=
  ({ answer.1 with
      headers := setHeaders (operationalHeaders settings correlationId) answer.1.headers }, answer.2)

def tooLargeBody : String :=
  "\x7b\"detail\":\"Request body is too large\",\"error_code\":\"REQUEST_BODY_TOO_LARGE\"\x7d"

def tooLargeResponse : Response × Sent ε :=
  ({ statusCode := 413
     headers := [("content-length", toString tooLargeBody.length),
       ("content-type", "application/json")] },
    { body := tooLargeBody })

/-! ### The application -/

/-- What an application does while its response goes out; it may still read. -/
abbrev Streaming (ε : Type) := Reader Message (Raised ε) (Sent ε)

/-- An application reads until it begins a response or raises an error. -/
abbrev Application (ε : Type) :=
  Reader Message (Raised ε) (Except (Raised ε) (Response × Streaming ε))

/-- What an application has read before its response begins and behind that, and what it comes to. -/
structure Called (ε : Type) where
  begun : List (Except (Raised ε) Message)
  streamed : List (Except (Raised ε) Message)
  outcome : Except (Raised ε) (Response × Sent ε)

def callNext {σ : Type} (next : σ → Except (Raised ε) Message × σ) (app : Application ε)
    (source : σ) : Called ε :=
  let run := app.run next source
  match run.result with
  | .error error => { begun := run.reads, streamed := [], outcome := .error error }
  | .ok (response, streaming) =>
    let rest := streaming.run next run.source
    { begun := run.reads, streamed := rest.reads, outcome := .ok (response, rest.result) }

/-- The error of the middleware becomes a response, if none has begun; another goes on. -/
def caught : Except (Raised ε) (Response × Sent ε) → Except (Raised ε) (Response × Sent ε)
  | .ok answer => .ok answer
  | .error error => if containsBodyTooLarge error then .ok tooLargeResponse else .error error

section
variable (settings : Settings) (correlationId : String)

/-- The call of the application behind the limit. -/
def limited (app : Application ε) (messages : List (Except (Raised ε) Message)) : Called ε :=
  callNext (limitedReceive settings.maxRequestBodyBytes) app { messages }

def dispatch (contentLength : Option String) (app : Application ε)
    (messages : List (Except (Raised ε) Message)) : Except (Raised ε) (Response × Sent ε) :=
  let answer :=
    if headerExceedsLimit settings.maxRequestBodyBytes contentLength then .ok tooLargeResponse
    else caught (limited settings app messages).outcome
  answer.map (marked settings correlationId)

/-- The answer if there were no limit. -/
def unlimited (app : Application ε) (messages : List (Except (Raised ε) Message)) :
    Except (Raised ε) (Response × Sent ε) :=
  (caught (callNext receive app messages).outcome).map (marked settings correlationId)

end

/-! ### Headers -/

theorem lookup_filter_ne (headers : List (String × String)) {name other : String}
    (different : other ≠ name) :
    (headers.filter fun header => header.1 ≠ name).lookup other = headers.lookup other := by
  induction headers with
  | nil => rfl
  | cons header headers ih =>
    obtain ⟨key, value⟩ := header
    by_cases same : key = name
    · have missed : (other == key) = false := by simpa [same] using different
      rw [List.filter_cons_of_neg (by simpa using same), ih, List.lookup_cons, missed]
    · rw [List.filter_cons_of_pos (by simpa using same), List.lookup_cons,
        List.lookup_cons, ih]

@[simp] theorem lookup_setHeader_self (name value : String) (headers : List (String × String)) :
    (setHeader name value headers).lookup name = some value := by
  induction headers with
  | nil => simp [setHeader]
  | cons header headers ih =>
    obtain ⟨other, old⟩ := header
    by_cases same : other = name
    · simp [setHeader, same]
    · have missed : (name == other) = false := by simpa using Ne.symm same
      simp [setHeader, same, List.lookup_cons, missed, ih]

theorem lookup_setHeader_ne {name other : String} (different : other ≠ name) (value : String)
    (headers : List (String × String)) :
    (setHeader name value headers).lookup other = headers.lookup other := by
  induction headers with
  | nil =>
    have missed : (other == name) = false := by simpa using different
    simp [setHeader, missed]
  | cons header headers ih =>
    obtain ⟨key, old⟩ := header
    by_cases same : key = name
    · have missed : (other == name) = false := by simpa using different
      simp only [setHeader, same, if_true, List.lookup_cons, missed]
      exact lookup_filter_ne headers different
    · simp only [setHeader, same, if_false, List.lookup_cons, ih]

/-- Headers of different names are all there once they are set. -/
theorem lookup_setHeaders {headers : List (String × String)} (different : (headers.map Prod.fst).Nodup)
    (old : List (String × String)) {header : String × String} (member : header ∈ headers) :
    (setHeaders headers old).lookup header.1 = some header.2 := by
  induction headers using List.reverseRecOn with
  | nil => cases member
  | append_singleton headers last ih =>
    rw [List.map_append, List.nodup_append] at different
    rw [setHeaders, List.foldl_append]
    obtain earlier | here := List.mem_append.mp member
    · have other : header.1 ≠ last.1 :=
        different.2.2 _ (List.mem_map_of_mem earlier) _ (List.mem_singleton.mpr rfl)
      exact (lookup_setHeader_ne other _ _).trans (ih different.1 earlier)
    · obtain rfl := List.mem_singleton.mp here
      exact lookup_setHeader_self _ _ _

theorem operationalHeaders_nodup (settings : Settings) (correlationId : String) :
    ((operationalHeaders settings correlationId).map Prod.fst).Nodup := by
  unfold operationalHeaders
  split <;> simp

/-! ### What the application reads -/

/-- The bytes of the body in what has been read. -/
def bytes (reads : List (Except (Raised ε) Message)) : ℕ :=
  (reads.map fun answer => (answer.toOption.map Message.size).getD 0).sum

/-- An application that lets the error through, alone or in a group, until its response begins. -/
def LetsThrough (app : Application ε) : Prop :=
  app.EndsOn .requestBodyTooLarge fun result =>
    ∃ error, result = .error error ∧ containsBodyTooLarge error = true

variable {ρ : Type} {limit : ℕ} {state : Received ε}

theorem bytes_append (reads reads' : List (Except (Raised ε) Message)) :
    bytes (reads ++ reads') = bytes reads + bytes reads' := by
  simp [bytes]

/-- What is read next: the message itself, as long as the limit allows. -/
theorem limitedReceive_cases (limit : ℕ) (state : Received ε) :
    ((limitedReceive limit state).2.messages = (receive state.messages).2) ∧
    ((limitedReceive limit state).2.receivedBytes =
      state.receivedBytes + bytes [(receive state.messages).1]) ∧
    ((limitedReceive limit state).1 = (receive state.messages).1 ∧
        ((limitedReceive limit state).2.receivedBytes ≤ limit ∨
          bytes [(receive state.messages).1] = 0) ∨
      (limitedReceive limit state).1 = .error .requestBodyTooLarge ∧
        limit < (limitedReceive limit state).2.receivedBytes) := by
  unfold limitedReceive
  cases read : receive state.messages with
  | mk message messages =>
    cases message with
    | error error => simp [bytes, Except.toOption]
    | ok message =>
      by_cases request : message.type = "http.request"
      · by_cases exceeds : limit < state.receivedBytes + message.body.length
        · simp [request, exceeds, bytes, Except.toOption, Message.size]
        · simp [request, exceeds, bytes, Except.toOption, Message.size]
          omega
      · simp [request, bytes, Except.toOption, Message.size]

structure Handed (limit : ℕ) (state : Received ε) (reads : List (Except (Raised ε) Message)) :
    Prop where
  counted : bytes reads ≤ state.receivedBytes
  within : bytes reads ≤ limit

/-- A program is never handed more than the limit allows. -/
theorem Handed.run {before : List (Except (Raised ε) Message)} (handed : Handed limit state before)
    (program : Reader Message (Raised ε) ρ) :
    Handed limit (program.run (limitedReceive limit) state).source
      (before ++ (program.run (limitedReceive limit) state).reads) := by
  refine Reader.run_holds (limitedReceive limit) program ?_ handed
  rintro state reads ⟨counted, within⟩
  obtain ⟨-, count, ⟨passed, small⟩ | ⟨failed, -⟩⟩ := limitedReceive_cases limit state
  · constructor
    all_goals
      rw [bytes_append, passed]
      omega
  · have nothing : bytes [(limitedReceive limit state).1] = 0 := by
      rw [failed]
      rfl
    constructor
    all_goals
      rw [bytes_append]
      omega

theorem limited_handed (settings : Settings) (app : Application ε)
    (messages : List (Except (Raised ε) Message)) :
    bytes ((limited settings app messages).begun ++ (limited settings app messages).streamed) ≤
      settings.maxRequestBodyBytes := by
  have start : Handed (ε := ε) settings.maxRequestBodyBytes { messages } [] :=
    ⟨Nat.zero_le _, Nat.zero_le _⟩
  have begun := start.run app
  unfold limited callNext
  dsimp only
  split
  · simpa using begun.within
  · rename_i response streaming result
    simpa using (begun.run streaming).within

/-- What has been counted of what was read. -/
structure Counted (limit : ℕ) (seen : List (Except (Raised ε) Message)) (state : Received ε)
    (messages : List (Except (Raised ε) Message)) : Prop where
  messages : state.messages = messages
  count : state.receivedBytes = bytes seen
  within : bytes seen ≤ limit

/-- The limit changes nothing for a program that reads no more than it, and fails a read of each that
would. -/
theorem Counted.run {seen messages : List (Except (Raised ε) Message)}
    (counted : Counted limit seen state messages) (program : Reader Message (Raised ε) ρ) :
    ((program.run (limitedReceive limit) state).result = (program.run receive messages).result ∧
        Counted limit (seen ++ (program.run receive messages).reads)
          (program.run (limitedReceive limit) state).source (program.run receive messages).source) ∨
      (limit < bytes (seen ++ (program.run receive messages).reads) ∧
        .error .requestBodyTooLarge ∈ (program.run (limitedReceive limit) state).reads) := by
  have pass : ∀ seen (state : Received ε) messages, Counted limit seen state messages →
      (limitedReceive limit state).2.receivedBytes ≤ limit →
      (limitedReceive limit state).1 = (receive messages).1 ∧
        Counted limit (seen ++ [(receive messages).1]) (limitedReceive limit state).2
          (receive messages).2 := by
    rintro seen state messages ⟨rfl, count, within⟩ small
    obtain ⟨rest, added, ⟨passed, -⟩ | ⟨-, large⟩⟩ := limitedReceive_cases limit state
    · refine ⟨passed, rest, ?_, ?_⟩
      · rw [bytes_append, added, count]
      · rw [bytes_append]
        omega
    · omega
  obtain same | ⟨before, state, rest, after, after', counted, stops, reads, plain⟩ :=
    Reader.run_filter receive program (limitedReceive limit)
      (fun state => (limitedReceive limit state).2.receivedBytes ≤ limit) pass counted
  · exact .inl same
  · obtain ⟨there, count, within⟩ := counted
    obtain ⟨-, added, ⟨-, small⟩ | ⟨failed, large⟩⟩ := limitedReceive_cases limit state
    · omega
    · refine .inr ⟨?_, ?_⟩
      · rw [plain, ← List.append_assoc, bytes_append, ← List.singleton_append,
          bytes_append [(receive rest).1]]
        rw [there] at added
        omega
      · rw [reads, failed]
        exact List.mem_append_right _ List.mem_cons_self

/-- Where the limit is first exceeded: nowhere, while the response goes out, or before it begins. -/
theorem limited_cases (settings : Settings) (app : Application ε)
    (messages : List (Except (Raised ε) Message)) :
    (bytes ((callNext receive app messages).begun ++ (callNext receive app messages).streamed) ≤
          settings.maxRequestBodyBytes ∧
        (limited settings app messages).outcome = (callNext receive app messages).outcome) ∨
      (bytes (callNext receive app messages).begun ≤ settings.maxRequestBodyBytes ∧
        settings.maxRequestBodyBytes < bytes ((callNext receive app messages).begun ++
          (callNext receive app messages).streamed) ∧
        (limited settings app messages).outcome.map Prod.fst =
          (callNext receive app messages).outcome.map Prod.fst ∧
        .error .requestBodyTooLarge ∈ (limited settings app messages).streamed) ∨
      (settings.maxRequestBodyBytes < bytes (callNext receive app messages).begun ∧
        .error .requestBodyTooLarge ∈ (app.run (limitedReceive settings.maxRequestBodyBytes)
          { messages }).reads) := by
  have start : Counted settings.maxRequestBodyBytes [] { messages } messages :=
    ⟨rfl, rfl, Nat.zero_le _⟩
  have begun : (callNext receive app messages).begun = (app.run receive messages).reads := by
    unfold callNext
    dsimp only
    split <;> rfl
  obtain ⟨same, counted⟩ | ⟨large, failed⟩ := start.run app
  · rw [List.nil_append] at counted
    unfold limited callNext
    dsimp only
    rw [same]
    cases result : (app.run receive messages).result with
    | error error => exact .inl ⟨by simpa using counted.within, rfl⟩
    | ok answer =>
      obtain ⟨response, streaming⟩ := answer
      obtain ⟨result', counted'⟩ | ⟨large, failed⟩ := counted.run streaming
      · refine .inl ⟨counted'.within, ?_⟩
        dsimp only
        rw [result']
      · exact .inr (.inl ⟨counted.within, large, rfl, failed⟩)
  · rw [begun]
    exact .inr (.inr ⟨large, failed⟩)

/-- How an answer begins depends on nothing that comes behind the beginning. -/
theorem caught_begins {settings : Settings} {correlationId : String}
    {outcome outcome' : Except (Raised ε) (Response × Sent ε)}
    (same : outcome.map Prod.fst = outcome'.map Prod.fst) :
    ((caught outcome).map (marked settings correlationId)).map Prod.fst =
      ((caught outcome').map (marked settings correlationId)).map Prod.fst := by
  cases outcome with
  | error error =>
    cases outcome' with
    | error error' =>
      obtain rfl := Except.error.inj same
      rfl
    | ok answer => cases same
  | ok answer =>
    cases outcome' with
    | error error => cases same
    | ok answer' =>
      have first : answer.1 = answer'.1 := Except.ok.inj same
      simp [caught, marked, Except.map, first]

/-- The application is handed no more of a body than the limit allows, before its response begins and
behind that. A request of which it reads no more is answered as if there were no limit; where it reads
more while its response goes out, the response has begun as it would have, and the read fails. Where it
lets the error through, in whatever groups, the response is that the body is too large exactly as the
header says so or it would have read more before its response. Every answer has the headers. -/
theorem dispatch_laws (settings : Settings) (correlationId : String) (contentLength : Option String)
    (app : Application ε) (messages : List (Except (Raised ε) Message)) :
    bytes ((limited settings app messages).begun ++ (limited settings app messages).streamed) ≤
      settings.maxRequestBodyBytes ∧
    (headerExceedsLimit settings.maxRequestBodyBytes contentLength = false →
      bytes (callNext receive app messages).begun ≤ settings.maxRequestBodyBytes →
      (dispatch settings correlationId contentLength app messages).map Prod.fst =
        (unlimited settings correlationId app messages).map Prod.fst ∧
      if bytes ((callNext receive app messages).begun ++ (callNext receive app messages).streamed) ≤
          settings.maxRequestBodyBytes
      then dispatch settings correlationId contentLength app messages =
        unlimited settings correlationId app messages
      else .error .requestBodyTooLarge ∈ (limited settings app messages).streamed) ∧
    (LetsThrough app →
      headerExceedsLimit settings.maxRequestBodyBytes contentLength = true ∨
        settings.maxRequestBodyBytes < bytes (callNext receive app messages).begun →
      dispatch settings correlationId contentLength app messages =
        .ok (marked settings correlationId tooLargeResponse)) ∧
    (∀ answer, dispatch settings correlationId contentLength app messages = .ok answer →
      ∀ header ∈ operationalHeaders settings correlationId,
        answer.1.headers.lookup header.1 = some header.2) := by
  refine ⟨limited_handed settings app messages, ?_, ?_, ?_⟩
  · intro header within
    obtain ⟨small, same⟩ | ⟨-, large, begins, failed⟩ | ⟨large, -⟩ :=
      limited_cases settings app messages
    · have answered : dispatch settings correlationId contentLength app messages =
          unlimited settings correlationId app messages := by
        simp [dispatch, unlimited, header, same]
      rw [if_pos small]
      exact ⟨by rw [answered], answered⟩
    · rw [if_neg (Nat.not_le.mpr large)]
      refine ⟨?_, failed⟩
      simpa [dispatch, unlimited, header] using caught_begins begins
    · omega
  · intro through large
    cases header : headerExceedsLimit settings.maxRequestBodyBytes contentLength with
    | true => simp [dispatch, header, Except.map]
    | false =>
      have large : settings.maxRequestBodyBytes < bytes (callNext receive app messages).begun :=
        large.resolve_left (by rw [header]; exact Bool.false_ne_true)
      obtain ⟨within, -⟩ | ⟨within, -⟩ | ⟨-, failed⟩ := limited_cases settings app messages
      · rw [bytes_append] at within
        omega
      · omega
      · obtain ⟨error, raised, contains⟩ := through.result _ failed
        simp [dispatch, header, limited, callNext, raised, caught, contains, Except.map]
  · intro answer answered header member
    unfold dispatch at answered
    obtain ⟨before, -, rfl⟩ := map_eq_ok.mp answered
    exact lookup_setHeaders (operationalHeaders_nodup settings correlationId) _ member

/-- An application that reads so many messages, and raises what it meets in a group. -/
def readBody : ℕ → Application Unit
  | 0 => .done (.ok (⟨200, []⟩, .done { body := "" }))
  | n + 1 => .read fun answer =>
    match answer with
    | .ok _ => readBody n
    | .error error => .done (.error (.group [.other (), error]))

/-- An application that begins its response before it reads. -/
def echo : Application Unit :=
  .done (.ok (⟨200, []⟩, .read fun answer =>
    match answer with
    | .ok _ => .done { body := "ok" }
    | .error error => .done { body := "", raised := some error }))

example : (dispatch ⟨3, .development⟩ "id" none (readBody 2)
      [.ok ⟨"http.request", [1, 2]⟩, .ok ⟨"http.request", [3, 4]⟩]).map (·.1.statusCode) =
    .ok 413 := by
  rfl

example : (dispatch ⟨3, .development⟩ "id" none echo
      [.ok ⟨"http.request", [1, 2, 3, 4]⟩]).map (·.1.statusCode) = .ok 200 := by
  rfl

end
end CyberLegends.Observability
