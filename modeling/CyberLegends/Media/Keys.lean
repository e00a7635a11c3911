import CyberLegends.Agents.Sanitization
import CyberLegends.Jobs.Queue
import CyberLegends.Lib.Joined
import Mathlib.Algebra.GroupWithZero.Nat

/-! The idempotency keys under which jobs are enqueued. Two entry points build the key of a job from a
key that the client chooses; every other key has an identifier or a digest in it. -/

namespace CyberLegends.Media

open CyberLegends.Core Lib Jobs Agents

/-! ### Identifiers and digests -/

def hexDigit (digit : Fin 16) : Char :=
  ['0', '1', '2', '3', '4', '5', '6', '7', '8', '9', 'a', 'b', 'c', 'd', 'e', 'f'].get digit

/-- The last `count` digits of a number in base 16. -/
def hexDigits : Nat → Nat → List Char
  | 0, _ => []
  | count + 1, n => hexDigits count (n / 16) ++ [hexDigit (Fin.ofNat 16 n)]

/-- An identifier of 128 bits. -/
abbrev UuidBits := Fin (2 ^ 128)

instance neZero_uuidBits : NeZero (2 ^ 128) := ⟨by decide⟩

/-- The text of an identifier: its 32 digits in five groups. -/
def uuidText (id : UuidBits) : String :=
  let digits := hexDigits 32 id
  String.ofList (digits.take 8 ++ '-' :: ((digits.drop 8).take 4 ++ '-' :: ((digits.drop 12).take 4 ++
    '-' :: ((digits.drop 16).take 4 ++ '-' :: digits.drop 20))))

/-- The 64 hexadecimal digits of a digest of 256 bits. -/
def hexdigest (digest : Fin (2 ^ 256)) : String := String.ofList (hexDigits 64 digest)

/-! ### Requests -/

/-- A key that the client chooses, of at most 200 characters. -/
structure ClientKey where
  value : String
  short : value.length ≤ 200
  deriving DecidableEq

/-- What a job is enqueued for, at each place that enqueues one. -/
inductive JobRequest
  | requestImage (actorId : String) (idempotencyKey : Option ClientKey) (mediaAssetId : UuidBits)
  | requestStoryboard (actorId : String) (mediaAssetId : UuidBits)
  | acceptCampaign (idempotencyKey : ClientKey) (workflowId : UuidBits)
  | runWorkflow (workflowId : UuidBits)
  | dataAnalysis (taskRunId : UuidBits)
  | documentProcessing (taskRunId : UuidBits)
  | runComparison (comparisonId : UuidBits)
  | runExperiment (experimentId : UuidBits)
  | outboxEvent (outboxEventId : UuidBits) (payload : JobPayload)
  deriving DecidableEq

/-- The key of an image request as it is stored: an empty key counts as none and is not touched. -/
def storedKey (key : ClientKey) : String :=
  if key.value = "" then "" else sanitizeText 200 key.value

/-- The columns that a key or its parts are written to. -/
def jobKeyLength : Nat := 64

/-- A text before a colon and one after it. -/
def joined (kind rest : String) : String := kind ++ ":" ++ rest

/-- The digest of a text. -/
abbrev Sha256 := String → Fin (2 ^ 256)

variable (sha256 : Sha256)

/-- The key of a job without one that its producer chooses. -/
def buildIdempotencyKey (jobType : JobType) (payload : String) : String :=
  hexdigest (sha256 (jobType.value ++ "|" ++ payload))

def imageKey (actorId : String) (idempotencyKey : Option ClientKey) (mediaAssetId : UuidBits) :
    String :=
  match idempotencyKey.map storedKey with
  | some key =>
    if key = "" then joined "image-generation" (uuidText mediaAssetId)
    else joined "image-generation" (joined actorId key)
  | none => joined "image-generation" (uuidText mediaAssetId)

/-- The idempotency key of the job. -/
def jobKey : JobRequest → String
  | .requestImage actorId idempotencyKey mediaAssetId =>
    imageKey actorId idempotencyKey mediaAssetId
  | .requestStoryboard _ mediaAssetId => joined "video-storyboard" (uuidText mediaAssetId)
  | .acceptCampaign idempotencyKey _ => joined "n8n" (joined idempotencyKey.value "workflow")
  | .runWorkflow workflowId =>
    buildIdempotencyKey sha256 .workflowRun ("\x7b\"workflow_id\":\"" ++ uuidText workflowId ++ "\"\x7d")
  | .dataAnalysis taskRunId => joined "data-analysis" (uuidText taskRunId)
  | .documentProcessing taskRunId => joined "document-processing" (uuidText taskRunId)
  | .runComparison comparisonId => joined "provider-comparison" (uuidText comparisonId)
  | .runExperiment experimentId => joined "prompt-experiment" (uuidText experimentId)
  | .outboxEvent outboxEventId payload =>
    hexdigest (sha256 ("outbox|" ++ uuidText outboxEventId ++ "|" ++ payload.jobType.value))

/-! ### What keys look like -/

theorem hexDigits_length (count n : Nat) : (hexDigits count n).length = count := by
  induction count generalizing n with
  | zero => rfl
  | succ count ih => rw [hexDigits, List.length_append, ih, List.length_singleton]

theorem colon_notMem_hexDigits (count n : Nat) : ':' ∉ hexDigits count n := by
  have digit : ∀ d : Fin 16, hexDigit d ≠ ':' := by decide
  induction count generalizing n with
  | zero => exact List.not_mem_nil
  | succ count ih =>
    rw [hexDigits, List.mem_append, List.mem_singleton, not_or]
    exact ⟨ih _, (digit _).symm⟩

theorem hexDigits_inj {count n m : Nat} (below : n < 16 ^ count) (below' : m < 16 ^ count)
    (same : hexDigits count n = hexDigits count m) : n = m := by
  have digit_inj : ∀ d d' : Fin 16, hexDigit d = hexDigit d' → d = d' := by decide
  induction count generalizing n m with
  | zero => omega
  | succ count ih =>
    obtain ⟨front, last⟩ := List.append_inj' same rfl
    have quotients := ih (by omega) (by omega) front
    have remainders := congrArg Fin.val (digit_inj _ _ (List.singleton_inj.mp last))
    have remainders : n % 16 = m % 16 := remainders
    omega

theorem uuidText_length (id : UuidBits) : (uuidText id).length = 36 := by
  unfold uuidText
  rw [← String.length_toList, String.toList_ofList]
  simp only [List.length_append, List.length_cons, List.length_take, List.length_drop,
    hexDigits_length]
  decide

theorem colon_notMem_uuidText (id : UuidBits) : ':' ∉ (uuidText id).toList := by
  have digits := colon_notMem_hexDigits 32 id
  have taken : ∀ m n, ':' ∉ ((hexDigits 32 id).drop m).take n :=
    fun m n there => digits (List.mem_of_mem_drop (List.mem_of_mem_take there))
  unfold uuidText
  rw [String.toList_ofList]
  simp only [List.mem_append, List.mem_cons, not_or]
  exact ⟨taken 0 8, by decide, taken 8 4, by decide, taken 12 4, by decide, taken 16 4, by decide,
    fun there => digits (List.mem_of_mem_drop there)⟩

theorem uuidText_inj {id id' : UuidBits} (same : uuidText id = uuidText id') : id = id' := by
  have dash : ∀ d, hexDigit d ≠ '-' := by decide
  have plain : ∀ count n, ∀ c ∈ hexDigits count n, decide (c ≠ '-') = true := by
    intro count
    induction count with
    | zero => exact fun _ => List.forall_mem_nil _
    | succ count ih =>
      intro n
      rw [hexDigits, List.forall_mem_append, List.forall_mem_singleton]
      exact ⟨ih _, decide_eq_true (dash _)⟩
  have digits : ∀ id : UuidBits, (uuidText id).toList.filter (fun c => decide (c ≠ '-')) =
      hexDigits 32 id := by
    intro id
    have kept : ∀ m n, (((hexDigits 32 id).drop m).take n).filter (fun c => decide (c ≠ '-')) =
        ((hexDigits 32 id).drop m).take n := fun m n => List.filter_eq_self.mpr fun c there =>
      plain 32 id c (List.mem_of_mem_drop (List.mem_of_mem_take there))
    have first := kept 0 8
    have last : ((hexDigits 32 id).drop 20).filter (fun c => decide (c ≠ '-')) =
        (hexDigits 32 id).drop 20 :=
      List.filter_eq_self.mpr fun c there => plain 32 id c (List.mem_of_mem_drop there)
    rw [List.drop_zero] at first
    have gone : ∀ chars : List Char, ('-' :: chars).filter (fun c => decide (c ≠ '-')) =
        chars.filter fun c => decide (c ≠ '-') := fun chars => List.filter_cons_of_neg (by decide)
    unfold uuidText
    rw [String.toList_ofList]
    simp only [List.filter_append, gone, first, kept, last]
    rw [← List.drop_drop (i := 4) (j := 16), List.take_append_drop,
      ← List.drop_drop (i := 4) (j := 12), List.take_append_drop,
      ← List.drop_drop (i := 4) (j := 8), List.take_append_drop, List.take_append_drop]
  have lists := digits id
  rw [same, digits id'] at lists
  have below : ∀ id : UuidBits, (id : Nat) < 16 ^ 32 := fun id => id.2
  exact Fin.ext (hexDigits_inj (below id) (below id') lists.symm)

theorem hexdigest_length (digest : Fin (2 ^ 256)) : (hexdigest digest).length = 64 := by
  rw [← String.length_toList, hexdigest, String.toList_ofList, hexDigits_length]

theorem colon_notMem_hexdigest (digest : Fin (2 ^ 256)) : ':' ∉ (hexdigest digest).toList := by
  rw [hexdigest, String.toList_ofList]
  exact colon_notMem_hexDigits 64 digest

@[simp] theorem toList_joined (kind rest : String) :
    (joined kind rest).toList = kind.toList ++ ':' :: rest.toList := by
  unfold joined
  rw [String.toList_append, String.toList_append, List.append_assoc]
  rfl

theorem joined_length (kind rest : String) :
    (joined kind rest).length = kind.length + 1 + rest.length := by
  rw [← String.length_toList, toList_joined, List.length_append, List.length_cons,
    String.length_toList, String.length_toList]
  omega

theorem joined_split {a b a' b' : String} : joined a b = joined a' b' ↔
    (a = a' ∧ b = b') ∨ (∃ x, a = joined a' x ∧ b' = joined x b) ∨
      ∃ x, a' = joined a x ∧ b = joined x b' := by
  simp only [← String.toList_inj, toList_joined]
  rw [joined_eq_iff]
  have texts : ∀ P : List Char → Prop, (∃ x, P x) ↔ ∃ x : String, P x.toList := fun P =>
    ⟨fun ⟨x, holds⟩ => ⟨String.ofList x, by rwa [String.toList_ofList]⟩,
      fun ⟨x, holds⟩ => ⟨x.toList, holds⟩⟩
  rw [texts, texts]

theorem joined_kind {kind kind' rest rest' : String} (first : ':' ∉ kind.toList)
    (second : ':' ∉ kind'.toList) (same : joined kind rest = joined kind' rest') :
    kind = kind' ∧ rest = rest' := by
  have lists := congrArg String.toList same
  rw [toList_joined, toList_joined] at lists
  obtain ⟨kinds, rests⟩ := joined_inj first second lists
  exact ⟨String.toList_injective kinds, String.toList_injective rests⟩

theorem joined_ne {text : String} (kind rest : String) (plain : ':' ∉ text.toList) :
    joined kind rest ≠ text := by
  rintro rfl
  rw [toList_joined] at plain
  exact plain (List.mem_append_right _ List.mem_cons_self)

/-! ### Keys that name one request -/

/-- The client has chosen the key of the request. -/
def JobRequest.ClientChosen : JobRequest → Prop
  | .requestImage _ (some key) _ => key.value ≠ ""
  | .acceptCampaign .. => True
  | _ => False

/-- The requests come from one entry point and one actor, with one key of the client. -/
inductive SameClient : JobRequest → JobRequest → Prop
  | image {actorId : String} {key : ClientKey} {mediaAssetId mediaAssetId' : UuidBits} :
    SameClient (.requestImage actorId (some key) mediaAssetId)
      (.requestImage actorId (some key) mediaAssetId')
  | campaign {key : ClientKey} {workflowId workflowId' : UuidBits} :
    SameClient (.acceptCampaign key workflowId) (.acceptCampaign key workflowId')

/-- There is room in the column for the key of the job. -/
def JobRequest.Roomy : JobRequest → Prop
  | .requestImage actorId (some key) _ =>
    key.value ≠ "" → actorId.length + (storedKey key).length ≤ 46
  | .acceptCampaign key _ => key.value.length ≤ 51
  | _ => True

/-- The first actor's id goes on where the second's ends, with what the second's key begins with. -/
def Splits (actorId key actorId' key' : String) : Prop :=
  ∃ x, actorId = joined actorId' x ∧ key' = joined x key

/-- No key of the one request is read as the other's: one actor's keys stay different when they are
redacted, and no actor's id takes in the beginning of another's key. -/
def JobRequest.Apart : JobRequest → JobRequest → Prop
  | .requestImage actorId (some key) _, .requestImage actorId' (some key') _ =>
    key.value ≠ "" → key'.value ≠ "" →
      (actorId = actorId' → storedKey key = storedKey key' → key = key') ∧
        ¬ Splits actorId (storedKey key) actorId' (storedKey key') ∧
        ¬ Splits actorId' (storedKey key') actorId (storedKey key)
  | _, _ => True

/-- An actor's id does not go on where it ends. -/
theorem Splits.irrefl {actorId key key' : String} (splits : Splits actorId key actorId key') :
    False := by
  obtain ⟨x, long, -⟩ := splits
  have := congrArg String.length long
  rw [joined_length] at this
  omega

theorem storedKey_ne_empty {key : ClientKey} (nonempty : key.value ≠ "") : storedKey key ≠ "" := by
  unfold storedKey
  rw [if_neg nonempty]
  exact sanitizeText_ne_empty (by decide) nonempty

theorem imageKey_chosen {actorId : String} {key : ClientKey} {mediaAssetId : UuidBits}
    (nonempty : key.value ≠ "") : imageKey actorId (some key) mediaAssetId =
      joined "image-generation" (joined actorId (storedKey key)) :=
  if_neg (storedKey_ne_empty nonempty)

/-- A key of an image without one of the client, or with an empty one. -/
theorem imageKey_own {actorId : String} {key : Option ClientKey} {mediaAssetId : UuidBits}
    (empty : ∀ chosen ∈ key, chosen.value = "") : imageKey actorId key mediaAssetId =
      joined "image-generation" (uuidText mediaAssetId) := by
  cases key with
  | none => rfl
  | some chosen =>
    have stored : storedKey chosen = "" := if_pos (empty chosen rfl)
    exact if_pos stored

/-- An image request has no key of the client, or one that the key of its job is made of. -/
theorem imageKey_cases (actorId : String) (key : Option ClientKey) (mediaAssetId : UuidBits) :
    (∀ chosen ∈ key, chosen.value = "") ∧
        imageKey actorId key mediaAssetId = joined "image-generation" (uuidText mediaAssetId) ∨
      ∃ chosen, key = some chosen ∧ chosen.value ≠ "" ∧ imageKey actorId key mediaAssetId =
        joined "image-generation" (joined actorId (storedKey chosen)) := by
  cases key with
  | none => exact .inl ⟨nofun, rfl⟩
  | some chosen =>
    by_cases empty : chosen.value = ""
    · have only : ∀ key ∈ some chosen, key.value = "" := fun key is => by
        cases is
        exact empty
      exact .inl ⟨only, imageKey_own only⟩
    · exact .inr ⟨chosen, rfl, empty, imageKey_chosen empty⟩

variable {sha256}

/-- The key of the job fits in its column if and only if there is room for its parts. -/
theorem jobKey_fits_iff (request : JobRequest) :
    (jobKey sha256 request).length ≤ jobKeyLength ↔ request.Roomy := by
  have own : ∀ kind id, kind.length ≤ 27 → (joined kind (uuidText id)).length ≤ jobKeyLength := by
    intro kind id short
    rw [joined_length, uuidText_length]
    unfold jobKeyLength
    omega
  have digest : ∀ digest, (hexdigest digest).length ≤ jobKeyLength :=
    fun digest => (hexdigest_length digest).le
  cases request with
  | requestImage actorId key mediaAssetId =>
    show (imageKey actorId key mediaAssetId).length ≤ jobKeyLength ↔ _
    rcases imageKey_cases actorId key mediaAssetId with ⟨empty, is⟩ | ⟨chosen, rfl, nonempty, is⟩
    · rw [is]
      refine iff_of_true (own _ _ (by decide)) ?_
      cases key with
      | none => exact trivial
      | some key => exact fun nonempty => absurd (empty key rfl) nonempty
    · have length : (imageKey actorId (some chosen) mediaAssetId).length =
          16 + 1 + (actorId.length + 1 + (storedKey chosen).length) := by
        rw [is, joined_length, joined_length]
        rfl
      rw [length]
      show _ ↔ (chosen.value ≠ "" → actorId.length + (storedKey chosen).length ≤ 46)
      unfold jobKeyLength
      constructor
      · intro fits _
        omega
      · intro room
        have := room nonempty
        omega
  | acceptCampaign key workflowId =>
    have length : (jobKey sha256 (.acceptCampaign key workflowId)).length =
        3 + 1 + (key.value.length + 1 + 8) := by
      show (joined "n8n" (joined key.value "workflow")).length = _
      rw [joined_length, joined_length]
      rfl
    rw [length]
    show _ ↔ key.value.length ≤ 51
    unfold jobKeyLength
    omega
  | requestStoryboard | dataAnalysis | documentProcessing | runComparison | runExperiment =>
    exact iff_of_true (own _ _ (by decide)) trivial
  | runWorkflow | outboxEvent => exact iff_of_true (digest _) trivial

/-- A key that an image request of a client has is that of another request if and only if the two
are read alike. -/
theorem imageKey_shared_iff {actorId : String} {key : ClientKey} {mediaAssetId : UuidBits}
    {request : JobRequest} (nonempty : key.value ≠ "") :
    (jobKey sha256 (.requestImage actorId (some key) mediaAssetId) = jobKey sha256 request →
      SameClient (.requestImage actorId (some key) mediaAssetId) request) ↔
      (JobRequest.requestImage actorId (some key) mediaAssetId).Apart request := by
  have chosen : jobKey sha256 (.requestImage actorId (some key) mediaAssetId) =
      joined "image-generation" (joined actorId (storedKey key)) := imageKey_chosen nonempty
  rw [chosen]
  have other_kind : ∀ kind rest, ':' ∉ kind.toList → "image-generation" ≠ kind →
      joined "image-generation" (joined actorId (storedKey key)) ≠ joined kind rest :=
    fun kind rest plain differ same => differ (joined_kind (by decide) plain same).1
  cases request with
  | requestImage actorId' key' mediaAssetId' =>
    rcases imageKey_cases actorId' key' mediaAssetId' with ⟨empty, is⟩ | ⟨key', rfl, nonempty', is⟩
    · show (_ = imageKey actorId' key' mediaAssetId' → _) ↔ _
      rw [is]
      refine iff_of_true (fun same => ?_) ?_
      · have rests := (joined_kind (by decide) (by decide) same).2
        exact absurd rests (joined_ne _ _ (colon_notMem_uuidText _))
      · cases key' with
        | none => exact trivial
        | some key' => exact fun _ nonempty' => absurd (empty key' rfl) nonempty'
    · show (_ = imageKey actorId' (some key') mediaAssetId' → _) ↔ _
      rw [is]
      have same_iff : joined "image-generation" (joined actorId (storedKey key)) =
          joined "image-generation" (joined actorId' (storedKey key')) ↔
          joined actorId (storedKey key) = joined actorId' (storedKey key') :=
        ⟨fun same => (joined_kind (by decide) (by decide) same).2, congrArg _⟩
      rw [same_iff, joined_split]
      constructor
      · intro shared _ _
        refine ⟨fun actors keys => ?_, fun splits => ?_, fun splits => ?_⟩
        · cases shared (.inl ⟨actors, keys⟩)
          rfl
        · cases shared (.inr (.inl splits))
          exact splits.irrefl
        · cases shared (.inr (.inr splits))
          exact splits.irrefl
      · intro apart same
        obtain ⟨keys, left, right⟩ := apart nonempty nonempty'
        rcases same with ⟨rfl, stored⟩ | splits | splits
        · cases keys rfl stored
          exact .image
        · exact absurd splits left
        · exact absurd splits right
  | acceptCampaign key' workflowId =>
    exact iff_of_true (fun same => absurd same (other_kind _ _ (by decide) (by decide))) trivial
  | requestStoryboard | dataAnalysis | documentProcessing | runComparison | runExperiment =>
    exact iff_of_true (fun same => absurd same (other_kind _ _ (by decide) (by decide))) trivial
  | runWorkflow | outboxEvent =>
    exact iff_of_true (fun same => absurd same (joined_ne _ _ (colon_notMem_hexdigest _))) trivial

/-- A campaign that is delivered shares the key of its job with a delivery of the same key only. -/
theorem campaignKey_shared {key : ClientKey} {workflowId : UuidBits} {request : JobRequest}
    (same : jobKey sha256 (.acceptCampaign key workflowId) = jobKey sha256 request) :
    SameClient (.acceptCampaign key workflowId) request := by
  have same : joined "n8n" (joined key.value "workflow") = jobKey sha256 request := same
  have other_kind : ∀ kind rest, ':' ∉ kind.toList → "n8n" ≠ kind →
      joined "n8n" (joined key.value "workflow") ≠ joined kind rest :=
    fun kind rest plain differ same => differ (joined_kind (by decide) plain same).1
  cases request with
  | requestImage actorId' key' mediaAssetId' =>
    have same : _ = imageKey actorId' key' mediaAssetId' := same
    rcases imageKey_cases actorId' key' mediaAssetId' with ⟨-, is⟩ | ⟨_, -, -, is⟩
    · rw [is] at same
      exact absurd same (other_kind _ _ (by decide) (by decide))
    · rw [is] at same
      exact absurd same (other_kind _ _ (by decide) (by decide))
  | acceptCampaign key' workflowId' =>
    have rests := (joined_kind (by decide) (by decide) same).2
    have lists := congrArg String.toList rests
    rw [toList_joined, toList_joined] at lists
    have values := String.toList_injective (List.append_cancel_right lists)
    obtain ⟨value, short⟩ := key
    obtain ⟨value', short'⟩ := key'
    cases values
    exact .campaign
  | requestStoryboard | dataAnalysis | documentProcessing | runComparison | runExperiment =>
    exact absurd same (other_kind _ _ (by decide) (by decide))
  | runWorkflow | outboxEvent => exact absurd same (joined_ne _ _ (colon_notMem_hexdigest _))

/-- A key of a client names one request if and only if it is read as no other. -/
theorem shared_iff_apart (job other : JobRequest) :
    (job.ClientChosen → jobKey sha256 job = jobKey sha256 other → SameClient job other) ↔
      job.Apart other := by
  cases job with
  | requestImage actorId key mediaAssetId =>
    cases key with
    | none => exact iff_of_true False.elim trivial
    | some key =>
      by_cases nonempty : key.value ≠ ""
      · exact (forall_prop_of_true nonempty).trans (imageKey_shared_iff nonempty)
      · refine iff_of_true (fun chosen => absurd chosen nonempty) ?_
        cases other with
        | requestImage actorId' key' mediaAssetId' =>
          cases key' with
          | none => exact trivial
          | some key' => exact fun chosen => absurd chosen nonempty
        | requestStoryboard | acceptCampaign | runWorkflow | dataAnalysis | documentProcessing
        | runComparison | runExperiment | outboxEvent => exact trivial
  | acceptCampaign => exact iff_of_true (fun _ same => campaignKey_shared same) trivial
  | requestStoryboard | runWorkflow | dataAnalysis | documentProcessing | runComparison
  | runExperiment | outboxEvent => exact iff_of_true False.elim trivial

/-- Keys of one actor that are stored alike are the same, if no key is read as another. -/
theorem storedKey_inj {actorId : String} {key key' : Option ClientKey}
    {mediaAssetId mediaAssetId' : UuidBits}
    (apart : (JobRequest.requestImage actorId key mediaAssetId).Apart
      (.requestImage actorId key' mediaAssetId'))
    (stored : key.map storedKey = key'.map storedKey) : key = key' := by
  cases key with
  | none =>
    cases key' with
    | none => rfl
    | some key' => cases stored
  | some key =>
    cases key' with
    | none => cases stored
    | some key' =>
      have stored : storedKey key = storedKey key' := Option.some.inj stored
      by_cases empty : key.value = ""
      · have empty' : key'.value = "" := by
          by_contra nonempty
          exact storedKey_ne_empty nonempty (stored.symm.trans (if_pos empty))
        obtain ⟨value, short⟩ := key
        obtain ⟨value', short'⟩ := key'
        cases empty
        cases empty'
        rfl
      · by_cases empty' : key'.value = ""
        · exact absurd (stored.trans (if_pos empty')) (storedKey_ne_empty empty)
        · exact congrArg some ((apart empty empty').1 rfl stored)

end CyberLegends.Media
