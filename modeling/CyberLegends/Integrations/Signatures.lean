import CyberLegends.Core.Integers

/-! The signatures of webhooks: a keyed digest over the timestamp header and the body, and its
verification. -/

namespace CyberLegends.Integrations

open CyberLegends.Core

/-! ### Digests -/

abbrev Bytes := List UInt8

/-- The hash functions of the standard library. -/
structure Hashes where
  sha256 : Bytes → Bytes
  hmacSha256 : Bytes → Bytes → Bytes

def hexDigits (byte : UInt8) : List Char :=
  [Nat.digitChar (byte.toNat / 16), Nat.digitChar (byte.toNat % 16)]

def hexdigest (bytes : Bytes) : String := String.ofList (bytes.flatMap hexDigits)

def encode (text : String) : Bytes := text.toByteArray.toList

def isAscii (text : String) : Prop := ∀ c ∈ text.toList, c.toNat < 128

instance (text : String) : Decidable (isAscii text) := List.decidableBAll _ text.toList

inductive VerifyError
  | webhookAuthentication (message : String)
  | unicodeEncode
  | type
  deriving DecidableEq, Repr

/-- One byte for each character. -/
def asciiBytes (text : String) : Bytes := text.toList.map fun c => UInt8.ofNat c.toNat

def encodeAscii (text : String) : Except VerifyError Bytes :=
  if isAscii text then .ok (asciiBytes text) else .error .unicodeEncode

/-- Texts with other than ASCII characters are not compared. -/
def compareDigest (a b : String) : Except VerifyError Bool :=
  if isAscii a ∧ isAscii b then .ok (a = b) else .error .type

def removePrefix (start text : String) : String :=
  match text.toList.dropPrefix? start.toList with
  | some rest => String.ofList rest
  | none => text

/-! ### Webhooks -/

/-- What a signature is made over. -/
def material (timestamp rawBody : Bytes) : Bytes := timestamp ++ UInt8.ofNat '.'.toNat :: rawBody

section

variable (hashes : Hashes) (secret timestamp : String) (rawBody : Bytes) (signature : String)
  (toleranceSeconds now : Int)

def signWebhook : Except VerifyError String :=
  match encodeAscii timestamp with
  | .error error => .error error
  | .ok bytes => .ok (hexdigest (hashes.hmacSha256 (encode secret) (material bytes rawBody)))

/-- The digest of the signature of a webhook that is genuine. `now` is the current time in whole
seconds. -/
def verifyWebhook : Except VerifyError String :=
  match parseInt timestamp with
  | none => .error (.webhookAuthentication "Webhook timestamp is invalid")
  | some timestampValue =>
    if |now - timestampValue| > toleranceSeconds then
      .error (.webhookAuthentication "Webhook timestamp is outside the allowed window")
    else
      match signWebhook hashes secret timestamp rawBody with
      | .error error => .error error
      | .ok expected =>
        match compareDigest expected (removePrefix "sha256=" signature) with
        | .error error => .error error
        | .ok false => .error (.webhookAuthentication "Webhook signature is invalid")
        | .ok true => .ok (hexdigest (hashes.sha256 (encode (removePrefix "sha256=" signature))))

/-! ### What verification is for -/

/-- The timestamp denotes an integer within the tolerance. -/
def Timely : Prop :=
  ∃ timestampValue, parseInt timestamp = some timestampValue ∧
    |now - timestampValue| ≤ toleranceSeconds

/-- The webhook is timely, and its signature is the digest over the timestamp and the body. -/
def Genuine : Prop :=
  Timely timestamp toleranceSeconds now ∧
    removePrefix "sha256=" signature =
      hexdigest (hashes.hmacSha256 (encode secret) (material (asciiBytes timestamp) rawBody))

/-- Verification returns for what is genuine, and raises an authentication error for all else. -/
def VerifiesExactly : Prop :=
  match verifyWebhook hashes secret timestamp rawBody signature toleranceSeconds now with
  | .ok _ => Genuine hashes secret timestamp rawBody signature toleranceSeconds now
  | .error (.webhookAuthentication _) =>
    ¬ Genuine hashes secret timestamp rawBody signature toleranceSeconds now
  | .error _ => False

end

/-! ### Texts -/

theorem hexDigits_ascii (byte : UInt8) : ∀ c ∈ hexDigits byte, c.toNat < 128 := by
  have bound := byte.toNat_lt
  have digit : ∀ n < 16, (Nat.digitChar n).toNat < 128 := by decide
  intro c member
  simp only [hexDigits, List.mem_cons, List.not_mem_nil, or_false] at member
  rcases member with rfl | rfl
  · apply digit
    omega
  · apply digit
    omega

theorem hexdigest_ascii (bytes : Bytes) : isAscii (hexdigest bytes) := by
  intro c member
  rw [hexdigest, String.toList_ofList] at member
  obtain ⟨byte, -, inside⟩ := List.mem_flatMap.mp member
  exact hexDigits_ascii byte c inside

/-- To remove a prefix of ASCII characters leaves the other characters. -/
theorem removePrefix_ascii (start : String) (ascii : isAscii start) (text : String) :
    isAscii (removePrefix start text) ↔ isAscii text := by
  unfold removePrefix
  cases split : text.toList.dropPrefix? start.toList with
  | none => rfl
  | some rest =>
    obtain ⟨front, whole, same⟩ := List.dropPrefix?_eq_some_iff.mp split
    obtain rfl := beq_iff_eq.mp same
    simp only [isAscii, String.toList_ofList]
    rw [whole]
    constructor
    · intro others c member
      rcases List.mem_append.mp member with member | member
      · exact ascii c member
      · exact others c member
    · exact fun others c member => others c (List.mem_append_right _ member)

/-! ### Verification -/

section

variable {hashes : Hashes} {secret timestamp : String} {rawBody : Bytes} {signature : String}
  {toleranceSeconds now : Int}

/-- A webhook that is not timely is refused, whatever else it carries. -/
theorem verifyWebhook_late (hashes : Hashes) (secret : String) (rawBody : Bytes) (signature : String)
    (late : ¬ Timely timestamp toleranceSeconds now) :
    ∃ message, verifyWebhook hashes secret timestamp rawBody signature toleranceSeconds now =
      .error (.webhookAuthentication message) := by
  unfold verifyWebhook
  cases parsed : parseInt timestamp with
  | none => exact ⟨_, rfl⟩
  | some timestampValue =>
    have outside : |now - timestampValue| > toleranceSeconds := by
      by_contra inside
      exact late ⟨timestampValue, parsed, not_lt.mp inside⟩
    exact ⟨_, if_pos outside⟩

/-- What a timely webhook comes to. -/
theorem verifyWebhook_timely (timely : Timely timestamp toleranceSeconds now) :
    verifyWebhook hashes secret timestamp rawBody signature toleranceSeconds now =
      if isAscii timestamp then
        if isAscii signature then
          if removePrefix "sha256=" signature =
              hexdigest (hashes.hmacSha256 (encode secret)
                (material (asciiBytes timestamp) rawBody)) then
            .ok (hexdigest (hashes.sha256 (encode (removePrefix "sha256=" signature))))
          else .error (.webhookAuthentication "Webhook signature is invalid")
        else .error .type
      else .error .unicodeEncode := by
  obtain ⟨timestampValue, parsed, inside⟩ := timely
  unfold verifyWebhook
  rw [parsed]
  dsimp only
  rw [if_neg (not_lt.mpr inside)]
  unfold signWebhook encodeAscii
  by_cases ascii : isAscii timestamp
  · rw [if_pos ascii, if_pos ascii]
    dsimp only
    unfold compareDigest
    have same := removePrefix_ascii "sha256=" (of_decide_eq_true rfl) signature
    by_cases plain : isAscii signature
    · rw [if_pos ⟨hexdigest_ascii _, same.mpr plain⟩, if_pos plain]
      by_cases equal : hexdigest (hashes.hmacSha256 (encode secret)
          (material (asciiBytes timestamp) rawBody)) = removePrefix "sha256=" signature
      · rw [decide_eq_true equal, if_pos equal.symm]
      · rw [decide_eq_false equal, if_neg (Ne.symm equal)]
    · rw [if_neg (fun both => plain (same.mp both.2)), if_neg plain]
  · rw [if_neg ascii, if_neg ascii]

/-- Verification tells genuine webhooks from all others by its one error exactly if a timely
webhook has only ASCII characters in its timestamp and its signature. -/
theorem verifiesExactly_iff (hashes : Hashes) (secret timestamp : String) (rawBody : Bytes)
    (signature : String) (toleranceSeconds now : Int) :
    VerifiesExactly hashes secret timestamp rawBody signature toleranceSeconds now ↔
      (Timely timestamp toleranceSeconds now → isAscii timestamp ∧ isAscii signature) := by
  unfold VerifiesExactly
  by_cases timely : Timely timestamp toleranceSeconds now
  · rw [verifyWebhook_timely timely]
    by_cases ascii : isAscii timestamp
    · by_cases plain : isAscii signature
      · by_cases equal : removePrefix "sha256=" signature =
          hexdigest (hashes.hmacSha256 (encode secret) (material (asciiBytes timestamp) rawBody))
        · simp [ascii, plain, equal, Genuine, timely]
        · simp [ascii, plain, equal, Genuine, timely]
      · simp [ascii, plain, timely]
    · simp [ascii, timely]
  · obtain ⟨message, refused⟩ := verifyWebhook_late hashes secret rawBody signature timely
    rw [refused]
    simp [Genuine, timely]

/-- A timely webhook with a signature that is no ASCII text is refused with another error. -/
theorem accented_signature_raises :
    ¬ ∀ (hashes : Hashes) (secret timestamp : String) (rawBody : Bytes) (signature : String)
      (toleranceSeconds now : Int),
      VerifiesExactly hashes secret timestamp rawBody signature toleranceSeconds now := by
  intro law
  have exactly := law ⟨fun _ => [], fun _ _ => []⟩ "secret" "1" [] "\u00e9" 300 1
  have raised : verifyWebhook ⟨fun _ => [], fun _ _ => []⟩ "secret" "1" [] "\u00e9" 300 1 =
      .error .type := by decide +kernel
  unfold VerifiesExactly at exactly
  rw [raised] at exactly
  exact exactly

end

end CyberLegends.Integrations
