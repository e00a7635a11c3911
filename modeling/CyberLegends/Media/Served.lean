import CyberLegends.Media.Storage

/-! What is served for an asset while attempts overlap: the file that one of them has opened last, as far
as it is written. -/

namespace CyberLegends.Media.Storage

open CyberLegends.Core Lib

/-! ### The names of files -/

def fileName (assetId : UuidBits) (ext : String) : String := uuidText assetId ++ ext

/-- No name that the storage gives is a link. -/
def LocalMediaStorage.Plain (storage : LocalMediaStorage) : Prop :=
  ∀ assetId, ∀ ext ∈ [".png", ".jpg"],
    storage.realpath (storage.root ++ [fileName assetId ext]) =
      .ok (storage.root ++ [fileName assetId ext])

section
variable {storage : LocalMediaStorage} {files : Files} {w w' : World} {access : Option Entry}
  {uri mimeType mimeType' ext : String} {target : FilePath} {assetId assetId' : UuidBits}
  {image : GeneratedImage} {history : List Entry} {entry first : Entry} {later : List Entry}
  {bytes : List UInt8}

theorem extension_mem (known : extension mimeType = some ext) : ext ∈ [".png", ".jpg"] := by
  unfold extension at known
  split at known
  · simp [← Option.some.inj known]
  · split at known
    · simp [← Option.some.inj known]
    · cases known

theorem extension_inj (known : extension mimeType = some ext)
    (known' : extension mimeType' = some ext) : mimeType = mimeType' := by
  unfold extension at known known'
  grind

theorem mem_uuidText {c : Char} (there : c ∈ (uuidText assetId).toList) :
    c = '-' ∨ ∃ d, c = hexDigit d := by
  have digits : ∀ count n, ∀ c ∈ hexDigits count n, ∃ d, c = hexDigit d := by
    intro count
    induction count with
    | zero => exact fun _ => List.forall_mem_nil _
    | succ count ih =>
      intro n
      rw [hexDigits, List.forall_mem_append, List.forall_mem_singleton]
      exact ⟨ih _, _, rfl⟩
  have some_digits : ∀ m n, c ∈ ((hexDigits 32 assetId).drop m).take n → ∃ d, c = hexDigit d :=
    fun m n inside => digits _ _ c (List.mem_of_mem_drop (List.mem_of_mem_take inside))
  unfold uuidText at there
  rw [String.toList_ofList] at there
  simp only [List.mem_append, List.mem_cons] at there
  rcases there with first | rfl | second | rfl | third | rfl | fourth | rfl | last
  · exact .inr (some_digits 0 8 first)
  · exact .inl rfl
  · exact .inr (some_digits 8 4 second)
  · exact .inl rfl
  · exact .inr (some_digits 12 4 third)
  · exact .inl rfl
  · exact .inr (some_digits 16 4 fourth)
  · exact .inl rfl
  · exact .inr (digits _ _ c (List.mem_of_mem_drop last))

theorem slash_notMem_fileName (known : ext ∈ [".png", ".jpg"]) :
    '/' ∉ (fileName assetId ext).toList := by
  have digit : ∀ d, '/' ≠ hexDigit d := by decide
  rw [fileName, String.toList_append, List.mem_append, not_or]
  constructor
  · intro there
    obtain dash | ⟨d, same⟩ := mem_uuidText there
    · exact absurd dash (by decide)
    · exact digit d same
  · have plain : ∀ ext ∈ [".png", ".jpg"], '/' ∉ String.toList ext := by decide
    exact plain ext known

variable (assetId) in
theorem fileName_length (known : ext ∈ [".png", ".jpg"]) : (fileName assetId ext).length = 40 := by
  have four : ∀ ext ∈ [".png", ".jpg"], String.length ext = 4 := by decide
  rw [fileName, String.length_append, uuidText_length, four ext known]

theorem fileName_inj {ext' : String} (same : fileName assetId ext = fileName assetId' ext') :
    assetId = assetId' ∧ ext = ext' := by
  have chars := congrArg String.toList same
  rw [fileName, fileName, String.toList_append, String.toList_append] at chars
  have lengths : (uuidText assetId).toList.length = (uuidText assetId').toList.length := by
    rw [String.length_toList, String.length_toList, uuidText_length, uuidText_length]
  obtain ⟨front, back⟩ := List.append_inj chars lengths
  exact ⟨uuidText_inj (String.toList_inj.mp front), String.toList_inj.mp back⟩

theorem child_fileName (root : FilePath) (known : ext ∈ [".png", ".jpg"]) :
    child root (fileName assetId ext) = root ++ [fileName assetId ext] := by
  have long := fileName_length assetId known
  have empty : ("" : String).length = 0 := rfl
  have dot : ("." : String).length = 1 := rfl
  refine if_neg ?_
  rintro (same | same)
  all_goals
    rw [same] at long
    omega

variable (assetId) in
theorem target_plain (plain : storage.Plain) (known : ext ∈ [".png", ".jpg"]) :
    storage.target (fileName assetId ext) = .ok (storage.root ++ [fileName assetId ext]) := by
  have contained : inside storage.root (storage.root ++ [fileName assetId ext]) = true := by
    simp [inside]
  simp only [LocalMediaStorage.target, child_fileName storage.root known, plain assetId ext known,
    ok_bind, contained, if_true]

/-- The URI of a stored file leads to it. -/
theorem resolve_plain (plain : storage.Plain) (known : ext ∈ [".png", ".jpg"])
    (there : (files.lookup (storage.root ++ [fileName assetId ext])).isSome = true) :
    storage.resolve files ("media://" ++ fileName assetId ext) =
      .ok (storage.root ++ [fileName assetId ext]) := by
  have name : ("media://" ++ fileName assetId ext).toList.drop mediaPrefix.length =
      (fileName assetId ext).toList := by
    rw [String.toList_append]
    exact List.drop_left
  have starts : mediaPrefix.isPrefixOf ("media://" ++ fileName assetId ext).toList = true := by
    rw [String.toList_append, List.isPrefixOf_iff_prefix]
    exact List.prefix_append _ _
  have valid : validateUri ("media://" ++ fileName assetId ext) = .ok () := by
    unfold validateUri
    rw [name, starts]
    exact if_pos ⟨rfl, slash_notMem_fileName known⟩
  simp only [LocalMediaStorage.resolve, valid, name, String.ofList_toList, target_plain _ plain known,
    ok_bind, there, if_true]

/-- An image that passes is one of its type, and not too large. -/
structure GeneratedImage.Sound (image : GeneratedImage) : Prop where
  some : image.content ≠ []
  size : image.content.length ≤ maxBytes
  type : image.mimeType ∈ ["image/png", "image/jpeg"]
  begins : signature image.mimeType <+: image.content

theorem validate_sound (valid : validateGeneratedImage image = .ok ()) : image.Sound := by
  unfold validateGeneratedImage at valid
  split at valid
  · cases valid
  rename_i size
  split at valid
  · cases valid
  rename_i png
  split at valid
  · cases valid
  rename_i jpeg
  split at valid
  · cases valid
  rename_i type
  have known := not_not.mp type
  refine ⟨fun none => size (.inl none), not_lt.mp fun large => size (.inr large), known, ?_⟩
  rcases List.mem_cons.mp known with first | second
  · exact not_not.mp fun other => png ⟨first, other⟩
  · exact not_not.mp fun other => jpeg ⟨List.mem_singleton.mp second, other⟩

/-- Where an image is stored. -/
theorem target_eq (plain : storage.Plain) (known : extension mimeType = some ext)
    (found : storage.target (uuidText assetId ++ ext) = .ok target) :
    target = storage.root ++ [fileName assetId ext] ∧
      "media://" ++ target.getLastD "" = "media://" ++ fileName assetId ext := by
  have plainly := target_plain assetId plain (extension_mem known)
  rw [← fileName, plainly] at found
  obtain rfl := Except.ok.inj found
  exact ⟨rfl, by rw [List.getLastD_concat]⟩

theorem path_inj (known : extension mimeType = some ext) {ext' : String}
    (known' : extension mimeType' = some ext')
    (same : storage.root ++ [fileName assetId ext] = storage.root ++ [fileName assetId' ext']) :
    assetId = assetId' ∧ mimeType = mimeType' := by
  obtain ⟨rfl, rfl⟩ := fileName_inj (List.singleton_inj.mp (List.append_cancel_left same))
  exact ⟨rfl, extension_inj known known'⟩

/-! ### The file that was opened last -/

def Entry.names (assetId : UuidBits) (mimeType : String) (entry : Entry) : Bool :=
  entry.assetId = assetId ∧ entry.image.mimeType = mimeType

/-- The access that opened a file last, and those since. -/
def track (current : Option (Entry × List Entry)) (entry : Entry) : Option (Entry × List Entry) :=
  if entry.access = .opened then some (entry, [])
  else current.map fun since => (since.1, since.2 ++ [entry])

/-- The access that opened the file of an asset and a type last, and those to it since. -/
def sinceOpened (history : List Entry) (assetId : UuidBits) (mimeType : String) :
    Option (Entry × List Entry) :=
  (history.filter (Entry.names assetId mimeType)).foldl track none

theorem names_iff :
    Entry.names assetId mimeType entry = true ↔
      entry.assetId = assetId ∧ entry.image.mimeType = mimeType := decide_eq_true_iff

theorem sinceOpened_append (named : Entry.names assetId mimeType entry = true) :
    sinceOpened (history ++ [entry]) assetId mimeType =
      track (sinceOpened history assetId mimeType) entry := by
  simp [sinceOpened, List.filter_append, named]

theorem sinceOpened_other (other : ¬Entry.names assetId mimeType entry = true) :
    sinceOpened (history ++ [entry]) assetId mimeType = sinceOpened history assetId mimeType := by
  simp [sinceOpened, List.filter_append, other]

/-- The access that opened a file is one to that file. -/
theorem sinceOpened_first (since : sinceOpened history assetId mimeType = some (first, later)) :
    first ∈ history ∧ first.access = .opened ∧ first.assetId = assetId ∧
      first.image.mimeType = mimeType := by
  induction history using List.reverseRecOn generalizing later with
  | nil => cases since
  | append_singleton history entry ih =>
    by_cases named : Entry.names assetId mimeType entry = true
    · rw [sinceOpened_append named, track] at since
      split at since
      · rename_i opened
        cases since
        exact ⟨List.mem_append_right _ List.mem_cons_self, opened, names_iff.mp named⟩
      · obtain ⟨before, found, same⟩ := Option.map_eq_some_iff.mp since
        cases same
        exact (ih found).imp_left (List.mem_append_left _)
    · rw [sinceOpened_other named] at since
      exact (ih since).imp_left (List.mem_append_left _)

/-- A file that has been opened stays one. -/
theorem sinceOpened_isSome (before : (sinceOpened history assetId mimeType).isSome = true)
    (access : Option Entry) :
    (sinceOpened (history ++ access.toList) assetId mimeType).isSome = true := by
  cases access with
  | none => simpa using before
  | some entry =>
    rw [Option.toList_some]
    by_cases named : Entry.names assetId mimeType entry = true
    · rw [sinceOpened_append named, track]
      split
      · rfl
      · simpa using before
    · rwa [sinceOpened_other named]

/-! ### Every run -/

/-- The bytes that an attempt has written into a file that nobody else wrote into since it opened it. -/
structure Written (w : World) (first : Entry) (later : List Entry) (bytes : List UInt8) : Prop where
  begins : bytes <+: first.image.content
  whole : (∃ entry ∈ later, entry.access = .closed) → bytes = first.image.content
  position : ∀ attempt target uri image written, w.attempts.lookup first.id = some attempt →
    attempt.progress = .writing target uri image written → attempt.assetId = first.assetId →
      image.mimeType = first.image.mimeType → image = first.image ∧
        bytes = image.content.take written ∧ ∀ entry ∈ later, entry.access ≠ .closed

/-- The URI is that of a file that has been opened. -/
def Placed (history : List Entry) (assetId : UuidBits) (uri mimeType : String) : Prop :=
  ∃ ext, extension mimeType = some ext ∧ uri = "media://" ++ fileName assetId ext ∧
    (sinceOpened history assetId mimeType).isSome = true

/-- What the accesses so far say of the files, the attempts and the rows. -/
structure Served (storage : LocalMediaStorage) (history : List Entry) (w : World) : Prop where
  sound : ∀ entry ∈ history, entry.access = .opened → entry.image.Sound
  files : ∀ assetId mimeType ext first later, extension mimeType = some ext →
    sinceOpened history assetId mimeType = some (first, later) →
      ∃ bytes, w.files.lookup (storage.root ++ [fileName assetId ext]) = some bytes ∧
        ((∀ entry ∈ later, entry.id = first.id) → Written w first later bytes)
  writing : ∀ id attempt target uri image written, w.attempts.lookup id = some attempt →
    attempt.progress = .writing target uri image written →
      written ≤ image.content.length ∧ Placed history attempt.assetId uri image.mimeType ∧
        ∃ ext, extension image.mimeType = some ext ∧
          target = storage.root ++ [fileName attempt.assetId ext]
  stored : ∀ id attempt uri image, w.attempts.lookup id = some attempt →
    attempt.progress = .stored uri image → Placed history attempt.assetId uri image.mimeType
  assets : ∀ assetId asset uri, w.assets.lookup assetId = some asset →
    asset.storageUri = some uri → ∃ mimeType, asset.mimeType = some mimeType ∧
      Placed history assetId uri mimeType

theorem Served.init (files : Files) : Served storage [] { files } where
  sound := List.forall_mem_nil _
  files _ _ _ _ _ _ since := by cases since
  writing _ _ _ _ _ _ there := by cases there
  stored _ _ _ _ there := by cases there
  assets _ _ _ there := by cases there

theorem Placed.append (placed : Placed history assetId uri mimeType) (access : Option Entry) :
    Placed (history ++ access.toList) assetId uri mimeType := by
  obtain ⟨ext, known, same, before⟩ := placed
  exact ⟨ext, known, same, sinceOpened_isSome before access⟩

/-- An attempt that begins to write has opened its file. -/
theorem placed_opened (plain : storage.Plain) (known : extension image.mimeType = some ext)
    (found : storage.target (uuidText assetId ++ ext) = .ok target) (id : AttemptId) :
    Placed (history ++ [⟨.opened, id, assetId, image⟩]) assetId ("media://" ++ target.getLastD "")
      image.mimeType := by
  refine ⟨ext, known, (target_eq plain known found).2, ?_⟩
  rw [sinceOpened_append (names_iff.mpr ⟨rfl, rfl⟩)]
  rfl

/-- What is known of a file is not changed by attempts at others. -/
theorem Written.mono (before : Written w first later bytes)
    (kept : ∀ attempt target uri image written, w'.attempts.lookup first.id = some attempt →
      attempt.progress = .writing target uri image written → attempt.assetId = first.assetId →
        image.mimeType = first.image.mimeType → w.attempts.lookup first.id = some attempt) :
    Written w' first later bytes where
  begins := before.begins
  whole := before.whole
  position attempt target uri image written there writing asset type :=
    before.position attempt target uri image written
      (kept attempt target uri image written there writing asset type) writing asset type

theorem overwrite_take {content : List UInt8} {written : ℕ} (within : written ≤ content.length)
    (count : ℕ) :
    overwrite (content.take written) written ((content.drop written).take count) =
      content.take (written + ((content.drop written).take count).length) := by
  have length : (content.take written).length = written := List.length_take_of_le within
  have rest : (content.take written).drop
      (written + ((content.drop written).take count).length) = [] :=
    List.drop_eq_nil_of_le (by rw [length]; omega)
  have piece : (content.drop written).take count =
      (content.drop written).take ((content.drop written).take count).length := by
    simp [List.take_eq_take_iff]
  rw [overwrite, length, rest, Nat.sub_self, List.replicate_zero, List.append_nil, List.append_nil,
    List.take_take, Nat.min_self, List.take_add, ← piece]

/-- An attempt at another file leaves this one as it is. -/
theorem files_other (served : Served storage history w) (known : extension mimeType = some ext)
    (since : sinceOpened history assetId mimeType = some (first, later)) {id : AttemptId}
    {attempt : Attempt} (attempts : w'.attempts = w.attempts.insert id attempt)
    (elsewhere : ∀ target uri image written, attempt.progress = .writing target uri image written →
      ¬(attempt.assetId = assetId ∧ image.mimeType = mimeType))
    (same : w'.files.lookup (storage.root ++ [fileName assetId ext]) =
      w.files.lookup (storage.root ++ [fileName assetId ext])) :
    ∃ bytes, w'.files.lookup (storage.root ++ [fileName assetId ext]) = some bytes ∧
      ((∀ entry ∈ later, entry.id = first.id) → Written w' first later bytes) := by
  obtain ⟨bytes, file, written⟩ := served.files assetId mimeType ext first later known since
  obtain ⟨-, -, asset, type⟩ := sinceOpened_first since
  refine ⟨bytes, same.trans file, fun alone => (written alone).mono ?_⟩
  intro attempt' target' uri' image' written' there' writing' asset' type'
  rw [attempts] at there'
  obtain ⟨-, rfl⟩ | ⟨-, before⟩ := Table.lookup_insert_cases there'
  · exact absurd ⟨asset'.trans asset, type'.trans type⟩ (elsewhere _ _ _ _ writing')
  · exact before

/-- What an event leaves of the file that was opened last. -/
theorem files_step (plain : storage.Plain) (served : Served storage history w)
    (step : Stepped storage w w' access) (known : extension mimeType = some ext)
    (since : sinceOpened (history ++ access.toList) assetId mimeType = some (first, later)) :
    ∃ bytes, w'.files.lookup (storage.root ++ [fileName assetId ext]) = some bytes ∧
      ((∀ entry ∈ later, entry.id = first.id) → Written w' first later bytes) := by
  cases step with
  | quiet kept published =>
    rw [Option.toList_none, List.append_nil] at since
    obtain ⟨bytes, file, written⟩ := served.files assetId mimeType ext first later known since
    refine ⟨bytes, file, fun alone => (written alone).mono ?_⟩
    intro attempt target uri image written there writing _ _
    refine (kept _ _ there).resolve_right fun fresh => ?_
    rw [fresh] at writing
    cases writing
  | published there stored =>
    rw [Option.toList_none, List.append_nil] at since
    obtain ⟨bytes, file, written⟩ := served.files assetId mimeType ext first later known since
    exact ⟨bytes, file, fun alone => (written alone).mono
      fun _ _ _ _ _ there _ _ _ => (Table.lookup_erase_some there).2⟩
  | @opened id attempt image target ext' there valid known' found =>
    rw [Option.toList_some] at since
    obtain ⟨rfl, -⟩ := target_eq plain known' found
    by_cases named : Entry.names assetId mimeType ⟨.opened, id, attempt.assetId, image⟩ = true
    · rw [sinceOpened_append named] at since
      cases since
      obtain ⟨rfl, rfl⟩ := names_iff.mp named
      obtain rfl := Option.some.inj (known'.symm.trans known)
      refine ⟨[], AList.lookup_insert _, fun alone => ⟨List.nil_prefix, ?_, ?_⟩⟩
      · rintro ⟨entry, member, -⟩
        cases member
      · intro attempt' target' uri' image' written' there' writing' _ _
        obtain ⟨-, rfl⟩ | ⟨other, -⟩ := Table.lookup_insert_cases there'
        · cases writing'
          exact ⟨rfl, rfl, List.forall_mem_nil _⟩
        · exact absurd rfl other
    · rw [sinceOpened_other named] at since
      refine files_other served known since rfl ?_ ?_
      · intro _ _ _ _ writing' here
        cases writing'
        exact named (names_iff.mpr here)
      · refine AList.lookup_insert_ne fun same => named (names_iff.mpr ?_)
        obtain ⟨rfl, rfl⟩ := path_inj known known' same
        exact ⟨rfl, rfl⟩
  | @wrote id attempt target uri image position count there writing =>
    rw [Option.toList_some] at since
    obtain ⟨within, -, ext', known', rfl⟩ := served.writing _ _ _ _ _ _ there writing
    by_cases named : Entry.names assetId mimeType ⟨.wrote, id, attempt.assetId, image⟩ = true
    · rw [sinceOpened_append named, track, if_neg (by simp)] at since
      obtain ⟨before, found, same⟩ := Option.map_eq_some_iff.mp since
      cases same
      obtain ⟨-, -, asset, type⟩ := sinceOpened_first found
      obtain ⟨rfl, rfl⟩ := names_iff.mp named
      obtain rfl := Option.some.inj (known'.symm.trans known)
      obtain ⟨bytes, file, written⟩ := served.files _ _ _ _ _ known found
      refine ⟨_, AList.lookup_insert _, fun alone => ?_⟩
      have alone' := List.forall_mem_append.mp alone
      have mine : id = before.1.id := alone'.2 _ List.mem_cons_self
      subst mine
      obtain ⟨rfl, rfl, open'⟩ := (written alone'.1).position _ _ _ _ _ there writing asset.symm
        type.symm
      have closes : ∀ entry ∈ before.2 ++ [⟨.wrote, before.1.id, attempt.assetId, before.1.image⟩],
          entry.access ≠ .closed :=
        List.forall_mem_append.mpr ⟨open', List.forall_mem_singleton.mpr (by simp)⟩
      rw [file, Option.getD_some, overwrite_take within]
      refine ⟨List.take_prefix _ _, ?_, ?_⟩
      · rintro ⟨entry, member, closed⟩
        exact absurd closed (closes entry member)
      · intro attempt' target' uri' image' written' there' writing' _ _
        obtain ⟨-, rfl⟩ | ⟨other, -⟩ := Table.lookup_insert_cases there'
        · cases writing'
          exact ⟨rfl, rfl, closes⟩
        · exact absurd rfl other
    · rw [sinceOpened_other named] at since
      refine files_other served known since rfl ?_ ?_
      · intro _ _ _ _ writing' here
        cases writing'
        exact named (names_iff.mpr here)
      · refine AList.lookup_insert_ne fun same => named (names_iff.mpr ?_)
        obtain ⟨rfl, rfl⟩ := path_inj known known' same
        exact ⟨rfl, rfl⟩
  | @closed id attempt target uri image position there writing enough =>
    rw [Option.toList_some] at since
    by_cases named : Entry.names assetId mimeType ⟨.closed, id, attempt.assetId, image⟩ = true
    · rw [sinceOpened_append named, track, if_neg (by simp)] at since
      obtain ⟨before, found, same⟩ := Option.map_eq_some_iff.mp since
      cases same
      obtain ⟨-, -, asset, type⟩ := sinceOpened_first found
      obtain ⟨rfl, rfl⟩ := names_iff.mp named
      obtain ⟨bytes, file, written⟩ := served.files _ _ _ _ _ known found
      refine ⟨bytes, file, fun alone => ?_⟩
      have alone' := List.forall_mem_append.mp alone
      have mine : id = before.1.id := alone'.2 _ List.mem_cons_self
      subst mine
      obtain ⟨rfl, rfl, -⟩ := (written alone'.1).position _ _ _ _ _ there writing asset.symm
        type.symm
      refine ⟨List.take_prefix _ _, fun _ => List.take_of_length_le enough, ?_⟩
      intro attempt' target' uri' image' written' there' writing' _ _
      obtain ⟨-, rfl⟩ | ⟨other, -⟩ := Table.lookup_insert_cases there'
      · cases writing'
      · exact absurd rfl other
    · rw [sinceOpened_other named] at since
      refine files_other served known since rfl ?_ rfl
      intro _ _ _ _ writing' _
      cases writing'

theorem Served.step (plain : storage.Plain) (served : Served storage history w)
    (step : Stepped storage w w' access) : Served storage (history ++ access.toList) w' where
  sound := by
    intro entry member opened
    obtain before | new := List.mem_append.mp member
    · exact served.sound entry before opened
    · cases step with
      | quiet kept published => cases new
      | opened there valid known found =>
        obtain rfl := List.mem_singleton.mp new
        exact validate_sound valid
      | wrote count there writing =>
        obtain rfl := List.mem_singleton.mp new
        cases opened
      | closed there writing enough =>
        obtain rfl := List.mem_singleton.mp new
        cases opened
      | published there stored => cases new
  files assetId mimeType ext first later known since := files_step plain served step known since
  writing := by
    intro id attempt target uri image written there writing
    have earlier : w.attempts.lookup id = some attempt → written ≤ image.content.length ∧
        Placed (history ++ access.toList) attempt.assetId uri image.mimeType ∧
          ∃ ext, extension image.mimeType = some ext ∧
            target = storage.root ++ [fileName attempt.assetId ext] := by
      intro before
      obtain ⟨within, placed, rest⟩ := served.writing _ _ _ _ _ _ before writing
      exact ⟨within, placed.append _, rest⟩
    cases step with
    | quiet kept published =>
      refine earlier ((kept id attempt there).resolve_right fun fresh => ?_)
      rw [fresh] at writing
      cases writing
    | opened found valid known place =>
      obtain ⟨rfl, rfl⟩ | ⟨-, before⟩ := Table.lookup_insert_cases there
      · cases writing
        exact ⟨Nat.zero_le _, placed_opened plain known place _, _, known,
          (target_eq plain known place).1⟩
      · exact earlier before
    | wrote count found wrote =>
      obtain ⟨rfl, rfl⟩ | ⟨-, before⟩ := Table.lookup_insert_cases there
      · cases writing
        obtain ⟨within, placed, rest⟩ := served.writing _ _ _ _ _ _ found wrote
        refine ⟨?_, placed.append _, rest⟩
        rw [List.length_take, List.length_drop]
        omega
      · exact earlier before
    | closed found wrote enough =>
      obtain ⟨rfl, rfl⟩ | ⟨-, before⟩ := Table.lookup_insert_cases there
      · cases writing
      · exact earlier before
    | published found stored => exact earlier (Table.lookup_erase_some there).2
  stored := by
    intro id attempt uri image there stored
    have earlier : w.attempts.lookup id = some attempt →
        Placed (history ++ access.toList) attempt.assetId uri image.mimeType :=
      fun before => (served.stored _ _ _ _ before stored).append _
    cases step with
    | quiet kept published =>
      refine earlier ((kept id attempt there).resolve_right fun fresh => ?_)
      rw [fresh] at stored
      cases stored
    | opened found valid known place =>
      obtain ⟨rfl, rfl⟩ | ⟨-, before⟩ := Table.lookup_insert_cases there
      · cases stored
      · exact earlier before
    | wrote count found wrote =>
      obtain ⟨rfl, rfl⟩ | ⟨-, before⟩ := Table.lookup_insert_cases there
      · cases stored
      · exact earlier before
    | closed found wrote enough =>
      obtain ⟨rfl, rfl⟩ | ⟨-, before⟩ := Table.lookup_insert_cases there
      · cases stored
        exact (served.writing _ _ _ _ _ _ found wrote).2.1.append _
      · exact earlier before
    | published found _ => exact earlier (Table.lookup_erase_some there).2
  assets := by
    intro assetId asset uri there has
    have earlier : ∀ before, w.assets.lookup assetId = some before →
        before.storageUri = some uri → before.mimeType = asset.mimeType →
          ∃ mimeType, asset.mimeType = some mimeType ∧
            Placed (history ++ access.toList) assetId uri mimeType := by
      intro before was has' same
      obtain ⟨mimeType, type, placed⟩ := served.assets assetId before uri was has'
      exact ⟨mimeType, same ▸ type, placed.append _⟩
    cases step with
    | quiet kept published =>
      obtain ⟨before, was, has', same⟩ := published assetId asset uri there has
      exact earlier before was has' same
    | opened found valid known place => exact earlier asset there has rfl
    | wrote count found writing => exact earlier asset there has rfl
    | closed found writing enough => exact earlier asset there has rfl
    | published found stored =>
      obtain ⟨rfl, rfl⟩ | ⟨-, before⟩ := Table.lookup_insert_cases there
      · cases has
        exact ⟨_, rfl, (served.stored _ _ _ _ found stored).append _⟩
      · exact earlier asset before has rfl

end

/-- However attempts overlap, and whatever becomes of their writes, an asset with a URI has its file
served: the one that an attempt has opened last for the asset, with an image of the recorded type that
passed the checks. If nobody else has written into it since, it is a beginning of that image, and all of
it once the attempt has closed the file. -/
theorem served_last {storage : LocalMediaStorage} (plain : storage.Plain) (files : Files)
    (events : List Event) (assetId : UuidBits) (asset : MediaAssetModel)
    (there : (storage.generations.run { files } events).assets.lookup assetId = some asset)
    (published : asset.storageUri.isSome = true) :
    ∃ mimeType first later bytes, asset.mimeType = some mimeType ∧
      sinceOpened (storage.generations.collected (accessed storage) { files } events) assetId
        mimeType = some (first, later) ∧
      first.image.mimeType = mimeType ∧ first.image.Sound ∧
      storage.content (storage.generations.run { files } events) assetId = .ok (bytes, mimeType) ∧
      ((∀ entry ∈ later, entry.id = first.id) → bytes <+: first.image.content ∧
        ((∃ entry ∈ later, entry.access = .closed) → bytes = first.image.content)) := by
  obtain ⟨uri, has⟩ := Option.isSome_iff_exists.mp published
  have served := Machine.collected_holds (M := storage.generations) (I := Served storage)
    (fun _ w event before => before.step plain (stepped storage w event)) (.init files) events
  obtain ⟨mimeType, type, ext, known, rfl, opened⟩ := served.assets assetId asset uri there has
  obtain ⟨⟨first, later⟩, since⟩ := Option.isSome_iff_exists.mp opened
  obtain ⟨member, isOpened, -, same⟩ := sinceOpened_first since
  obtain ⟨bytes, file, written⟩ := served.files _ _ _ _ _ known since
  have path := resolve_plain plain (extension_mem known) (Option.isSome_iff_exists.mpr ⟨bytes, file⟩)
  refine ⟨mimeType, first, later, bytes, type, since, same, served.sound _ member isOpened, ?_,
    fun alone => ⟨(written alone).begins, (written alone).whole⟩⟩
  simp only [LocalMediaStorage.content, there, has, type, path, ok_bind, file, Option.getD_some]

/-- A storage without links. -/
def plainStorage : LocalMediaStorage := { root := ["media"], realpath := .ok }

def pngOf (byte : UInt8) : GeneratedImage where
  content := signature "image/png" ++ [byte]
  mimeType := "image/png"
  width := 512
  height := 512

/-- An attempt that has lost its job writes its image after the other one was approved. -/
def lateAttempt : List Event :=
  [.request 3, .start 0 3, .start 1 3, .generate 1 (pngOf 1), .write 1 9, .close 1, .finalize 1 true,
    .setStatus 3 .approved, .generate 0 (pngOf 2), .write 0 4, .finish 0]

/-- Where its write fails, what is served of the approved asset is cut off. -/
example : (plainStorage.content (plainStorage.generations.run {} (lateAttempt.take 8)) 3 =
      .ok ((pngOf 1).content, "image/png")) ∧
    plainStorage.content (plainStorage.generations.run {} lateAttempt) 3 =
      .ok ((pngOf 2).content.take 4, "image/png") := by
  decide +kernel

theorem served_last_late : ∃ mimeType first later bytes, some "image/png" = some mimeType ∧
    sinceOpened (plainStorage.generations.collected (accessed plainStorage) {} lateAttempt) 3
      mimeType = some (first, later) ∧
    first.image.mimeType = mimeType ∧ first.image.Sound ∧
    plainStorage.content (plainStorage.generations.run {} lateAttempt) 3 = .ok (bytes, mimeType) ∧
    ((∀ entry ∈ later, entry.id = first.id) → bytes <+: first.image.content ∧
      ((∃ entry ∈ later, entry.access = .closed) → bytes = first.image.content)) :=
  served_last (fun _ _ _ => rfl) ∅ lateAttempt 3
    { status := .approved
      storageUri := some ("media://" ++ fileName 3 ".png")
      mimeType := some "image/png" } (by decide +kernel) rfl

end CyberLegends.Media.Storage
