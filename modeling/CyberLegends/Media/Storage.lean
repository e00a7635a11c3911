import CyberLegends.Lib.Machine
import CyberLegends.Media.Keys

/-! The files of generated images: where they are stored, what is served for an asset, and what attempts
that overlap do to it. An attempt writes its image, which takes several steps and may fail in between,
before it knows whether it still owns its job. -/

namespace CyberLegends.Media.Storage

open CyberLegends.Core Lib

/-! ### Storage -/

/-- The names that lead to a file or a directory. -/
abbrev FilePath := List String

abbrev Files := Table FilePath (List UInt8)

inductive StorageError
  | m7Validation (message : String)
  | m7ResourceNotFound (message : String)
  /-- What the host raises for a path. -/
  | host
  deriving DecidableEq

/-- The root of the storage, and how the host resolves the links in a path. -/
structure LocalMediaStorage where
  root : FilePath
  realpath : FilePath → Except StorageError FilePath

/-- A file with bytes written into it from a position on; a gap in front of them is filled with zeros. -/
def overwrite (old : List UInt8) (position : ℕ) (bytes : List UInt8) : List UInt8 :=
  old.take position ++ List.replicate (position - old.length) 0 ++ bytes ++
    old.drop (position + bytes.length)

/-- The path of a name that has no separator in it. -/
def child (root : FilePath) (name : String) : FilePath :=
  if name = "" ∨ name = "." then root else root ++ [name]

/-- Whether the root is among the parents of the path. -/
def inside (root path : FilePath) : Bool := root <+: path ∧ root ≠ path

def extension (mimeType : String) : Option String :=
  if mimeType = "image/png" then some ".png"
  else if mimeType = "image/jpeg" then some ".jpg"
  else none

def mediaPrefix : List Char := "media://".toList

def validateUri (uri : String) : Except StorageError Unit :=
  if mediaPrefix.isPrefixOf uri.toList ∧ '/' ∉ uri.toList.drop mediaPrefix.length then .ok ()
  else .error (.m7Validation "Media storage URI is invalid")

namespace LocalMediaStorage
variable (storage : LocalMediaStorage) (files : Files)

/-- The path of a name, which has to be inside the root once its links are resolved. -/
def target (name : String) : Except StorageError FilePath := do
  let target ← storage.realpath (child storage.root name)
  if inside storage.root target then .ok target
  else .error (.m7Validation "Media storage path is invalid")

/-- The path of an image and its URI, with the file opened and empty; its bytes come in writes. -/
def store (assetId : UuidBits) (mimeType : String) : Except StorageError (Files × FilePath × String) :=
  match extension mimeType with
  | none => .error (.m7Validation "Media MIME type is not supported")
  | some extension => do
    let target ← storage.target (uuidText assetId ++ extension)
    .ok (files.insert target [], target, "media://" ++ target.getLastD "")

def resolve (uri : String) : Except StorageError FilePath := do
  validateUri uri
  let target ← storage.target (String.ofList (uri.toList.drop mediaPrefix.length))
  if (files.lookup target).isSome then .ok target
  else .error (.m7ResourceNotFound "Media content is unavailable")

end LocalMediaStorage

/-! ### Images -/

structure GeneratedImage where
  content : List UInt8
  mimeType : String
  width : ℤ
  height : ℤ
  safetyFlags : List String := []
  deriving DecidableEq

/-- How an image of each type begins. -/
def signature (mimeType : String) : List UInt8 :=
  if mimeType = "image/png" then [0x89, 0x50, 0x4e, 0x47, 0x0d, 0x0a, 0x1a, 0x0a]
  else if mimeType = "image/jpeg" then [0xff, 0xd8, 0xff]
  else []

def maxBytes : ℕ := 20000000

def validateGeneratedImage (image : GeneratedImage) : Except StorageError Unit :=
  if image.content = [] ∨ maxBytes < image.content.length then
    .error (.m7Validation "Generated image is missing or exceeds the size limit")
  else if image.mimeType = "image/png" ∧ ¬ signature image.mimeType <+: image.content then
    .error (.m7Validation "Generated PNG is corrupt")
  else if image.mimeType = "image/jpeg" ∧ ¬ signature image.mimeType <+: image.content then
    .error (.m7Validation "Generated JPEG is corrupt")
  else if image.mimeType ∉ ["image/png", "image/jpeg"] then
    .error (.m7Validation "Generated image MIME type is unsupported")
  else if image.width < 1 ∨ image.height < 1 ∨ 4096 < image.width ∨ 4096 < image.height then
    .error (.m7Validation "Generated image dimensions are unsafe")
  else if image.safetyFlags ≠ [] then
    .error (.m7Validation "Provider safety checks flagged the generated image")
  else .ok ()

/-! ### Attempts -/

structure MediaAssetModel where
  status : MediaAssetStatus := .requested
  storageUri : Option String := none
  mimeType : Option String := none
  deriving DecidableEq

abbrev AttemptId := ℕ

/-- How far an attempt is: it has no image yet, writes it into its file, or has stored it. -/
inductive Progress
  | generating
  | writing (target : FilePath) (uri : String) (image : GeneratedImage) (written : ℕ)
  | stored (uri : String) (image : GeneratedImage)
  deriving DecidableEq

structure Attempt where
  assetId : UuidBits
  progress : Progress := .generating

structure World where
  files : Files := ∅
  assets : Table UuidBits MediaAssetModel := ∅
  attempts : Table AttemptId Attempt := ∅

/-- What the attempts do in any order. An attempt may end at any time, also while it writes. Whether it
owns its job when it is finalized is for the job to say; other services set the status of an asset. -/
inductive Event
  | request (assetId : UuidBits)
  | start (id : AttemptId) (assetId : UuidBits)
  | generate (id : AttemptId) (image : GeneratedImage)
  | write (id : AttemptId) (count : ℕ)
  | close (id : AttemptId)
  | finalize (id : AttemptId) (owned : Bool)
  | finish (id : AttemptId)
  | setStatus (assetId : UuidBits) (status : MediaAssetStatus)

namespace LocalMediaStorage
variable (storage : LocalMediaStorage) (w : World)

/-- The image that an attempt validates and begins to store. -/
def storeImage (assetId : UuidBits) (image : GeneratedImage) :
    Except StorageError (Files × FilePath × String) := do
  validateGeneratedImage image
  storage.store w.files assetId image.mimeType

def step : Event → World
  | .request assetId =>
    if (w.assets.lookup assetId).isSome then w
    else { w with assets := w.assets.insert assetId {} }
  | .start id assetId =>
    match w.assets.lookup assetId with
    | none => w
    | some asset =>
      if asset.status = .readyForReview ∨ asset.status = .approved then w
      else
        { w with
          assets := w.assets.insert assetId { asset with status := .generating }
          attempts := w.attempts.insert id { assetId } }
  | .generate id image =>
    match w.attempts.lookup id with
    | none => w
    | some attempt =>
      if attempt.progress ≠ .generating then w
      else
        match storage.storeImage w attempt.assetId image with
        | .error _ => { w with attempts := w.attempts.erase id }
        | .ok (files, target, uri) =>
          { w with
            files
            attempts := w.attempts.insert id { attempt with progress := .writing target uri image 0 } }
  | .write id count =>
    match w.attempts.lookup id with
    | none => w
    | some attempt =>
      match attempt.progress with
      | .writing target uri image written =>
        let bytes := (image.content.drop written).take count
        { w with
          files := w.files.insert target
            (overwrite ((w.files.lookup target).getD []) written bytes)
          attempts := w.attempts.insert id
            { attempt with progress := .writing target uri image (written + bytes.length) } }
      | _ => w
  | .close id =>
    match w.attempts.lookup id with
    | none => w
    | some attempt =>
      match attempt.progress with
      | .writing _ uri image written =>
        if written < image.content.length then w
        else { w with attempts := w.attempts.insert id { attempt with progress := .stored uri image } }
      | _ => w
  | .finalize id owned =>
    match w.attempts.lookup id with
    | none => w
    | some attempt =>
      match attempt.progress, w.assets.lookup attempt.assetId with
      | .stored uri image, some asset =>
        if owned ∧ asset.status = .generating then
          { w with
            assets := w.assets.insert attempt.assetId
              { status := .readyForReview, storageUri := uri, mimeType := image.mimeType }
            attempts := w.attempts.erase id }
        else { w with attempts := w.attempts.erase id }
      | _, _ => w
  | .finish id => { w with attempts := w.attempts.erase id }
  | .setStatus assetId status =>
    match w.assets.lookup assetId with
    | none => w
    | some asset => { w with assets := w.assets.insert assetId { asset with status } }

def generations : Machine World Event where
  init := {}
  step := storage.step

/-- What is served for an asset: the bytes of its file, and their type. -/
def content (assetId : UuidBits) : Except StorageError (List UInt8 × String) :=
  match w.assets.lookup assetId with
  | none => .error (.m7ResourceNotFound "Media asset not found")
  | some asset =>
    match asset.storageUri, asset.mimeType with
    | some uri, some mimeType => do
      let path ← storage.resolve w.files uri
      .ok ((w.files.lookup path).getD [], mimeType)
    | _, _ => .error (.m7Validation "Media content is not ready")

end LocalMediaStorage

/-! ### What an event does -/

inductive Access
  | opened
  | wrote
  | closed
  deriving DecidableEq

/-- An access of an attempt to the file of its image. -/
structure Entry where
  access : Access
  id : AttemptId
  assetId : UuidBits
  image : GeneratedImage

/-- The access to a file that an event makes. -/
def accessed (storage : LocalMediaStorage) (w : World) : Event → Option Entry
  | .generate id image =>
    match w.attempts.lookup id with
    | none => none
    | some attempt =>
      if attempt.progress ≠ .generating then none
      else
        match storage.storeImage w attempt.assetId image with
        | .error _ => none
        | .ok _ => some ⟨.opened, id, attempt.assetId, image⟩
  | .write id _ =>
    match w.attempts.lookup id with
    | none => none
    | some attempt =>
      match attempt.progress with
      | .writing _ _ image _ => some ⟨.wrote, id, attempt.assetId, image⟩
      | _ => none
  | .close id =>
    match w.attempts.lookup id with
    | none => none
    | some attempt =>
      match attempt.progress with
      | .writing _ _ image written =>
        if written < image.content.length then none
        else some ⟨.closed, id, attempt.assetId, image⟩
      | _ => none
  | _ => none

/-- The cases of an event, with the access that it makes. -/
inductive Stepped (storage : LocalMediaStorage) (w : World) : World → Option Entry → Prop
  | quiet {assets : Table UuidBits MediaAssetModel} {attempts : Table AttemptId Attempt}
      (kept : ∀ id attempt, attempts.lookup id = some attempt →
        w.attempts.lookup id = some attempt ∨ attempt.progress = .generating)
      (published : ∀ assetId asset uri, assets.lookup assetId = some asset →
        asset.storageUri = some uri → ∃ before, w.assets.lookup assetId = some before ∧
          before.storageUri = some uri ∧ before.mimeType = asset.mimeType) :
      Stepped storage w { files := w.files, assets, attempts } none
  | opened {id : AttemptId} {attempt : Attempt} {image : GeneratedImage} {target : FilePath}
      {ext : String} (there : w.attempts.lookup id = some attempt)
      (valid : validateGeneratedImage image = .ok ())
      (known : extension image.mimeType = some ext)
      (found : storage.target (uuidText attempt.assetId ++ ext) = .ok target) :
      Stepped storage w
        { w with
          files := w.files.insert target []
          attempts := w.attempts.insert id
            { attempt with
              progress := .writing target ("media://" ++ target.getLastD "") image 0 } }
        (some ⟨.opened, id, attempt.assetId, image⟩)
  | wrote {id : AttemptId} {attempt : Attempt} {target : FilePath} {uri : String}
      {image : GeneratedImage} {written : ℕ} (count : ℕ)
      (there : w.attempts.lookup id = some attempt)
      (writing : attempt.progress = .writing target uri image written) :
      Stepped storage w
        { w with
          files := w.files.insert target (overwrite ((w.files.lookup target).getD []) written
            ((image.content.drop written).take count))
          attempts := w.attempts.insert id
            { attempt with
              progress := .writing target uri image
                (written + ((image.content.drop written).take count).length) } }
        (some ⟨.wrote, id, attempt.assetId, image⟩)
  | closed {id : AttemptId} {attempt : Attempt} {target : FilePath} {uri : String}
      {image : GeneratedImage} {written : ℕ} (there : w.attempts.lookup id = some attempt)
      (writing : attempt.progress = .writing target uri image written)
      (enough : image.content.length ≤ written) :
      Stepped storage w
        { w with attempts := w.attempts.insert id { attempt with progress := .stored uri image } }
        (some ⟨.closed, id, attempt.assetId, image⟩)
  | published {id : AttemptId} {attempt : Attempt} {uri : String} {image : GeneratedImage}
      (there : w.attempts.lookup id = some attempt) (stored : attempt.progress = .stored uri image) :
      Stepped storage w
        { w with
          assets := w.assets.insert attempt.assetId
            { status := .readyForReview, storageUri := uri, mimeType := image.mimeType }
          attempts := w.attempts.erase id } none

section
variable {storage : LocalMediaStorage} {files files' : Files} {w w' : World} {event : Event}
  {access : Option Entry} {name uri mimeType : String} {path target : FilePath} {assetId : UuidBits}

theorem store_ok (stores : storage.store files assetId mimeType = .ok (files', target, uri)) :
    ∃ ext, extension mimeType = some ext ∧ storage.target (uuidText assetId ++ ext) = .ok target ∧
      files' = files.insert target [] ∧ uri = "media://" ++ target.getLastD "" := by
  unfold LocalMediaStorage.store at stores
  split at stores
  · cases stores
  · rename_i ext known
    obtain ⟨target', found, same⟩ := bind_eq_ok.mp stores
    cases same
    exact ⟨ext, known, found, rfl, rfl⟩

theorem Stepped.refl : Stepped storage w w none :=
  .quiet (fun _ _ there => .inl there) fun _ asset _ there has => ⟨asset, there, has, rfl⟩

theorem Stepped.erased (id : AttemptId) :
    Stepped storage w { w with attempts := w.attempts.erase id } none :=
  .quiet (fun _ _ there => .inl (Table.lookup_erase_some there).2)
    fun _ asset _ there has => ⟨asset, there, has, rfl⟩

variable (storage w event) in
theorem stepped : Stepped storage w (storage.step w event) (accessed storage w event) := by
  cases event with
  | request assetId =>
    simp only [LocalMediaStorage.step, accessed]
    split
    · exact .refl
    · refine .quiet (fun _ _ there => .inl there) fun assetId' asset uri there has => ?_
      obtain ⟨-, rfl⟩ | ⟨-, before⟩ := Table.lookup_insert_cases there
      · cases has
      · exact ⟨asset, before, has, rfl⟩
  | start id assetId =>
    simp only [LocalMediaStorage.step, accessed]
    split
    · exact .refl
    · rename_i row found
      split
      · exact .refl
      · refine .quiet (fun id' attempt there => ?_) fun assetId' asset uri there has => ?_
        · obtain ⟨-, rfl⟩ | ⟨-, before⟩ := Table.lookup_insert_cases there
          · exact .inr rfl
          · exact .inl before
        · obtain ⟨rfl, rfl⟩ | ⟨-, before⟩ := Table.lookup_insert_cases there
          · exact ⟨row, found, has, rfl⟩
          · exact ⟨asset, before, has, rfl⟩
  | generate id image =>
    simp only [LocalMediaStorage.step, accessed]
    cases there : w.attempts.lookup id with
    | none => exact .refl
    | some attempt =>
      by_cases started : attempt.progress = .generating
      · simp only [started, ne_eq, not_true_eq_false, if_false]
        cases stores : storage.storeImage w attempt.assetId image with
        | error error => exact .erased id
        | ok result =>
          obtain ⟨files, target, uri⟩ := result
          obtain ⟨⟨⟩, valid, stores⟩ := bind_eq_ok.mp stores
          obtain ⟨ext, known, found, rfl, rfl⟩ := store_ok stores
          exact .opened there valid known found
      · simp only [started, ne_eq, not_false_eq_true, if_true]
        exact .refl
  | write id count =>
    simp only [LocalMediaStorage.step, accessed]
    cases there : w.attempts.lookup id with
    | none => exact .refl
    | some attempt =>
      cases writing : attempt.progress with
      | generating => simpa only [writing] using .refl
      | writing target uri image written =>
        simp only [writing]
        exact .wrote count there writing
      | stored uri image => simpa only [writing] using .refl
  | close id =>
    simp only [LocalMediaStorage.step, accessed]
    cases there : w.attempts.lookup id with
    | none => exact .refl
    | some attempt =>
      cases writing : attempt.progress with
      | generating => simpa only [writing] using .refl
      | writing target uri image written =>
        simp only [writing]
        by_cases short : written < image.content.length
        · simp only [short, if_true]
          exact .refl
        · simp only [short, if_false]
          exact .closed there writing (Nat.le_of_not_lt short)
      | stored uri image => simpa only [writing] using .refl
  | finalize id owned =>
    simp only [LocalMediaStorage.step, accessed]
    split
    · exact .refl
    · rename_i attempt there
      split
      · rename_i stored row
        split
        · exact .published there stored
        · exact .erased id
      · exact .refl
  | finish id => exact .erased id
  | setStatus assetId status =>
    simp only [LocalMediaStorage.step, accessed]
    split
    · exact .refl
    · rename_i row found
      refine .quiet (fun _ _ there => .inl there) fun assetId' asset uri there has => ?_
      obtain ⟨rfl, rfl⟩ | ⟨-, before⟩ := Table.lookup_insert_cases there
      · exact ⟨row, found, has, rfl⟩
      · exact ⟨asset, before, has, rfl⟩

/-! ### Nothing outside of the root -/

theorem target_inside (found : storage.target name = .ok path) :
    inside storage.root path = true := by
  simp only [LocalMediaStorage.target, bind_eq_ok] at found
  obtain ⟨resolved, -, found⟩ := found
  split at found
  · rename_i contained
    obtain rfl := Except.ok.inj found
    exact contained
  · cases found

theorem resolve_ok (found : storage.resolve files uri = .ok path) :
    inside storage.root path = true ∧ (files.lookup path).isSome = true := by
  simp only [LocalMediaStorage.resolve, bind_eq_ok] at found
  obtain ⟨⟨⟩, -, target, there, found⟩ := found
  split at found
  · rename_i present
    obtain rfl := Except.ok.inj found
    exact ⟨target_inside there, present⟩
  · cases found

/-- Every file that is being written is inside of the root. -/
def Contained (storage : LocalMediaStorage) (w : World) : Prop :=
  ∀ id attempt target uri image written, w.attempts.lookup id = some attempt →
    attempt.progress = .writing target uri image written → inside storage.root target = true

theorem Contained.step (contained : Contained storage w) (step : Stepped storage w w' access) :
    Contained storage w' := by
  intro id' attempt' target' uri' image' written' there' writing'
  cases step with
  | quiet kept published =>
    obtain before | fresh := kept id' attempt' there'
    · exact contained _ _ _ _ _ _ before writing'
    · rw [fresh] at writing'
      cases writing'
  | opened there valid known found =>
    obtain ⟨-, rfl⟩ | ⟨-, before⟩ := Table.lookup_insert_cases there'
    · cases writing'
      exact target_inside found
    · exact contained _ _ _ _ _ _ before writing'
  | wrote count there writing =>
    obtain ⟨-, rfl⟩ | ⟨-, before⟩ := Table.lookup_insert_cases there'
    · cases writing'
      exact contained _ _ _ _ _ _ there writing
    · exact contained _ _ _ _ _ _ before writing'
  | closed there writing enough =>
    obtain ⟨-, rfl⟩ | ⟨-, before⟩ := Table.lookup_insert_cases there'
    · cases writing'
    · exact contained _ _ _ _ _ _ before writing'
  | published there stored =>
    exact contained _ _ _ _ _ _ (Table.lookup_erase_some there').2 writing'

/-- Whatever the links of the host are, no event touches a file outside of the root. -/
theorem step_outside (contained : Contained storage w) (step : Stepped storage w w' access)
    (outside : inside storage.root path = false) : w'.files.lookup path = w.files.lookup path := by
  have other : ∀ target, inside storage.root target = true → path ≠ target := by
    rintro target contained rfl
    rw [outside] at contained
    cases contained
  cases step with
  | quiet kept published => rfl
  | opened there valid known found => exact AList.lookup_insert_ne (other _ (target_inside found))
  | wrote count there writing =>
    exact AList.lookup_insert_ne (other _ (contained _ _ _ _ _ _ there writing))
  | closed there writing enough => rfl
  | published there stored => rfl

end

/-- Whatever the links of the host are, whatever files there are before, and however attempts overlap,
no run touches a file outside of the root, and what is served is a file inside of it. -/
theorem storage_contained (storage : LocalMediaStorage) (files : Files)
    (assets : Table UuidBits MediaAssetModel) (events : List Event) :
    storage.generations.Between
      (fun w w' => ∀ path, inside storage.root path = false →
        w'.files.lookup path = w.files.lookup path) { files, assets } events ∧
    ∀ uri path, storage.resolve (storage.generations.run { files, assets } events).files uri =
        .ok path → inside storage.root path = true ∧
      ((storage.generations.run { files, assets } events).files.lookup path).isSome = true := by
  constructor
  · refine (Machine.between_iff_steps (R := fun w w' : World => ∀ path,
      inside storage.root path = false → w'.files.lookup path = w.files.lookup path)
      (fun w path _ => rfl) ?_).mpr ?_
    · intro w w' w'' first second path outside
      rw [second path outside, first path outside]
    · exact Machine.steps_of_invariant (I := Contained storage)
        (fun w event contained => contained.step (stepped storage w event))
        (fun w event contained path outside =>
          step_outside contained (stepped storage w event) outside)
        (fun id attempt target uri image written there => by cases there)
  · intro uri path found
    exact resolve_ok found

end CyberLegends.Media.Storage
