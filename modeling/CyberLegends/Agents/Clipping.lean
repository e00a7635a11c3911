import CyberLegends.Agents.Content

/-! What the sanitizer leaves of a value without secrets: it is the same value with each text cut off
at the limit of the sanitizer. -/

namespace CyberLegends.Agents

open CyberLegends.Core Lib Actions

/-- The limit of the sanitizer on the texts of a JSON value, when it is not given one. -/
def maxStringCharacters : Nat := 2000

/-- The sanitizer, and the validation after it, make the clipped value of one without secrets. -/
structure Survives {α : Type} (schema : Schema α) (clip : α → α) : Prop where
  validated : ∀ value, (∀ text ∈ schema.texts value, Unsecret text.toList) →
    schema.modelValidate (sanitizeJson maxStringCharacters (schema.modelDump value)) =
      some (clip value)
  same : ∀ value, clip value = value ↔
    ∀ text ∈ schema.texts value, text.length ≤ maxStringCharacters

/-! ### Texts -/

/-- The text as the sanitizer cuts it off. -/
def cut (value : String) : String := String.ofList (value.toList.take maxStringCharacters)

theorem cut_short (value : String) :
    (stripWhitespace (cut value)).length ≤ min maxStringCharacters value.length := by
  rw [← String.length_toList, toList_stripWhitespace, cut, String.toList_ofList]
  refine (strip_length_le _ _).trans ?_
  rw [List.length_take, String.length_toList]

namespace BoundedText

variable {nonempty : Bool} {maxLength : Option Nat}

/-- A stripped text begins with a character that stays when the text is cut off and stripped. -/
theorem cut_nonempty (text : BoundedText nonempty maxLength) (least : nonempty = true) :
    stripWhitespace (cut text.value) ≠ "" := by
  intro nothing
  have empty : strip isWhiteSpace (text.value.toList.take maxStringCharacters) = [] := by
    have := congrArg String.toList nothing
    rwa [toList_stripWhitespace, cut, String.toList_ofList] at this
  have stripped := congrArg String.toList text.stripped
  rw [toList_stripWhitespace] at stripped
  cases chars : text.value.toList with
  | nil => exact text.least least (String.toList_injective chars)
  | cons c cs =>
    rw [chars] at empty stripped
    exact strip_ne_nil (head_of_stripped stripped) empty

/-- The text as the validation takes it from the sanitizer. -/
def clip (text : BoundedText nonempty maxLength) : BoundedText nonempty maxLength where
  value := stripWhitespace (cut text.value)
  stripped := stripWhitespace_idem _
  least := text.cut_nonempty
  most limit bound := ((cut_short _).trans (Nat.min_le_right ..)).trans (text.most limit bound)

theorem clip_value (text : BoundedText nonempty maxLength) :
    text.clip.value = stripWhitespace (cut text.value) := rfl

theorem ext_value {text text' : BoundedText nonempty maxLength} (same : text.value = text'.value) :
    text = text' := by
  cases text
  cases text'
  cases same
  rfl

/-- A text is as it was if and only if it is within the limit of the sanitizer. -/
theorem clip_eq_iff (text : BoundedText nonempty maxLength) :
    text.clip = text ↔ text.value.length ≤ maxStringCharacters := by
  constructor
  · intro same
    have short := cut_short text.value
    rw [← clip_value, same] at short
    exact short.trans (Nat.min_le_left _ _)
  · intro short
    have whole : cut text.value = text.value := by
      unfold cut
      rw [List.take_of_length_le (by rwa [String.length_toList]), String.ofList_toList]
    apply ext_value
    rw [clip_value, whole, text.stripped]

theorem validate_value (text : BoundedText nonempty maxLength) (value : String)
    (same : stripWhitespace value = text.value) : validate value = some text := by
  unfold validate
  rw [dif_pos]
  · exact congrArg some (ext_value same)
  · rw [same]
    exact ⟨text.least, text.most⟩

theorem survives : Survives (schema nonempty maxLength) clip where
  validated text clean := by
    show validate (sanitizeText maxStringCharacters text.value) = some text.clip
    rw [sanitizeText_unsecret (clean _ List.mem_cons_self)]
    exact validate_value text.clip _ rfl
  same text := by
    rw [clip_eq_iff]
    show _ ↔ ∀ whole ∈ [text.value], whole.length ≤ maxStringCharacters
    rw [List.forall_mem_singleton]

end BoundedText

/-! ### Numbers, lists and nulls -/

/-- The sanitizer keeps a value without texts. -/
theorem survives_id {α : Type} {schema : Schema α} (texts : ∀ value, schema.texts value = [])
    (kept : ∀ value, schema.modelValidate
      (sanitizeJson maxStringCharacters (schema.modelDump value)) = some value) :
    Survives schema id where
  validated value _ := kept value
  same value := by
    rw [texts]
    exact ⟨fun _ => List.forall_mem_nil _, fun _ => rfl⟩

theorem integer_survives {admits : Int → Prop} [DecidablePred admits] :
    Survives (integer admits) id := by
  refine survives_id (fun _ => rfl) fun number => ?_
  show (if admitted : admits number.1 then some ⟨number.1, admitted⟩ else none) = some number
  rw [dif_pos number.2]

theorem order_survives : Survives order id := integer_survives

theorem score_survives : Survives score id := integer_survives

theorem duration_survives : Survives duration id := by
  refine survives_id (fun _ => rfl) fun seconds => ?_
  have admitted : 0 < seconds.mantissa ∧
      seconds.mantissa * 10 ^ seconds.exponent.toNat ≤ 60 * 10 ^ (-seconds.exponent).toNat :=
    ⟨seconds.positive, seconds.bounded⟩
  exact dif_pos admitted

theorem flag_survives : Survives flag id := survives_id (fun _ => rfl) fun _ => rfl

namespace Survives

variable {α : Type} {schema : Schema α} {clip : α → α}

/-- The validation takes each item of a list from the sanitizer. -/
theorem mapM_sanitized {items clipped : List α}
    (each : List.Forall₂ (fun item after => schema.modelValidate
      (sanitizeJson maxStringCharacters (schema.modelDump item)) = some after) items clipped) :
    schema.list.modelValidate
      (sanitizeJson maxStringCharacters (schema.list.modelDump items)) = some clipped := by
  show (sanitizeItems maxStringCharacters (items.map schema.modelDump)).mapM schema.modelValidate =
    some clipped
  induction each with
  | nil => rfl
  | cons first _ ih =>
    rw [List.map_cons, sanitizeItems, List.mapM_cons, first, ih]
    rfl

theorem list (survives : Survives schema clip) : Survives schema.list (List.map clip) where
  validated items clean := by
    apply mapM_sanitized
    rw [List.forall₂_map_right_iff]
    refine List.forall₂_same.mpr fun item member => survives.validated item fun text there => ?_
    exact clean text (List.mem_flatMap.mpr ⟨item, member, there⟩)
  same items := by
    have each : items.map clip = items.map id ↔ ∀ item ∈ items, clip item = id item :=
      List.map_inj_left
    rw [List.map_id] at each
    rw [each]
    show _ ↔ ∀ text ∈ items.flatMap schema.texts, _
    rw [List.forall_mem_flatMap]
    exact forall₂_congr fun item _ => survives.same item

theorem texts_some (schema : Schema α) (value : α) :
    schema.nullable.texts (some value) = schema.texts value :=
  List.flatMap_singleton schema.texts value

/-- A null stays null, and a value that is there stays one. -/
theorem nullable (survives : Survives schema clip)
    (there : ∀ value, sanitizeJson maxStringCharacters (schema.modelDump value) ≠ .null) :
    Survives schema.nullable (Option.map clip) where
  validated value clean := by
    cases value with
    | none => rfl
    | some value =>
      rw [texts_some] at clean
      have read := survives.validated value clean
      have present := there value
      simp only [Schema.nullable]
      rw [read]
      rfl
  same value := by
    cases value with
    | none => exact ⟨fun _ => List.forall_mem_nil _, fun _ => rfl⟩
    | some value =>
      rw [texts_some, Option.map_some, Option.some_inj]
      exact survives.same value

end Survives

/-- The list with each item clipped. -/
def BoundedList.clip {α : Type} {minLength maxLength : Nat} (clip : α → α)
    (listed : BoundedList α minLength maxLength) : BoundedList α minLength maxLength where
  items := listed.items.map clip
  least := by
    rw [List.length_map]
    exact listed.least
  most := by
    rw [List.length_map]
    exact listed.most

theorem Survives.bounded {α : Type} {schema : Schema α} {clip : α → α}
    (survives : Survives schema clip) (minLength maxLength : Nat) :
    Survives (schema.bounded minLength maxLength) (BoundedList.clip clip) where
  validated listed clean := by
    have read := survives.list.validated listed.items clean
    have within : minLength ≤ (listed.items.map clip).length ∧
        (listed.items.map clip).length ≤ maxLength :=
      ⟨(listed.clip clip).least, (listed.clip clip).most⟩
    show (schema.list.modelValidate (sanitizeJson maxStringCharacters
      (schema.list.modelDump listed.items))).bind _ = _
    rw [read]
    exact dif_pos within
  same listed := by
    refine Iff.trans ?_ (survives.list.same listed.items)
    constructor
    · intro same
      exact congrArg BoundedList.items same
    · intro same
      cases listed
      exact (BoundedList.mk.injEq ..).mpr same

/-! ### Records -/

section

variable {entries : List (String × Json)} {names : List String} {name : String} {α : Type}
  {schema : Schema α} {item : Json} {value : α}

/-- The entries once the sanitizer has gone over each value. -/
def sanitizeValues (entries : List (String × Json)) : List (String × Json) :=
  entries.map fun entry => (entry.1, sanitizeJson maxStringCharacters entry.2)

/-- The sanitizer keeps the keys of a record that are plain. -/
theorem sanitizeJson_record (keys : entries.map Prod.fst = names)
    (plain : names.all plainKey = true) (distinct : names.Nodup) :
    sanitizeJson maxStringCharacters (.dict entries) = .dict (sanitizeValues entries) := by
  have kept : ∀ entry ∈ entries, plainKey entry.1 = true := fun entry member =>
    List.all_eq_true.mp plain entry.1 (keys ▸ List.mem_map_of_mem member)
  show Json.dict (sanitizeEntries maxStringCharacters [] entries) = _
  rw [sanitizeEntries_plain kept (by rwa [List.nil_append, keys]), List.nil_append]
  rfl

theorem onlyNames_sanitized (keys : entries.map Prod.fst = names) :
    onlyNames (sanitizeValues entries) names = true := by
  refine List.all_eq_true.mpr fun entry member => decide_eq_true ?_
  obtain ⟨before, there, rfl⟩ := List.mem_map.mp member
  show before.1 ∈ names
  rw [← keys]
  exact List.mem_map_of_mem there

theorem lookup_sanitized (entries : List (String × Json)) (name : String) :
    (sanitizeValues entries).lookup name =
      (entries.lookup name).map (sanitizeJson maxStringCharacters) := by
  unfold sanitizeValues
  induction entries with
  | nil => rfl
  | cons entry entries ih =>
    rw [List.map_cons, List.lookup_cons, List.lookup_cons]
    split
    · rfl
    · exact ih

theorem required_sanitized (found : entries.lookup name = some item)
    (reads : schema.modelValidate (sanitizeJson maxStringCharacters item) = some value) :
    required schema (sanitizeValues entries) name = some value := by
  unfold required
  rw [lookup_sanitized, found]
  exact reads

theorem defaulted_sanitized {default : α} (found : entries.lookup name = some item)
    (reads : schema.modelValidate (sanitizeJson maxStringCharacters item) = some value) :
    defaulted schema (sanitizeValues entries) name default = some value := by
  unfold defaulted
  rw [lookup_sanitized, found]
  exact reads

end

theorem requiredText_survives {limit : Nat} : Survives (requiredText limit) BoundedText.clip :=
  BoundedText.survives

theorem itemText_survives : Survives itemText BoundedText.clip := BoundedText.survives

/-- No record has a key that the sanitizer drops or changes. -/
theorem names_plain : ∀ names ∈ [BriefAnalysis.names, FacebookContent.names, TikTokScene.names,
    TikTokContent.names, DiscordContent.names, GeneratedContent.names, QualityReview.names],
    names.all plainKey = true := by
  decide +kernel

namespace BriefAnalysis

/-- The analysis as the validation takes it from the sanitizer. -/
def clip (analysis : BriefAnalysis) : BriefAnalysis where
  summary := analysis.summary.clip
  campaignObjective := analysis.campaignObjective.clip
  targetAudience := analysis.targetAudience.clip
  mainMessage := analysis.mainMessage.clip
  keyBenefits := analysis.keyBenefits.map BoundedText.clip
  contentRequirements := analysis.contentRequirements.map BoundedText.clip
  missingInformation := analysis.missingInformation.map BoundedText.clip
  riskFlags := analysis.riskFlags.map BoundedText.clip

theorem survives : Survives schema clip where
  validated analysis clean := by
    simp only [schema, List.forall_mem_append, and_assoc] at clean
    obtain ⟨summary, objective, audience, message, benefits, requirements, missing, flags⟩ := clean
    have known : onlyNames (sanitizeValues analysis.entries) names = true := onlyNames_sanitized rfl
    show schema.modelValidate (sanitizeJson maxStringCharacters (.dict analysis.entries)) = _
    rw [@sanitizeJson_record _ names rfl (names_plain _ (by simp)) (by decide)]
    dsimp only [schema]
    rw [known,
      required_sanitized (by simp only [entries, List.lookup_cons, String.reduceBEq])
        (requiredText_survives.validated analysis.summary summary),
      required_sanitized (by simp only [entries, List.lookup_cons, String.reduceBEq])
        (requiredText_survives.validated analysis.campaignObjective objective),
      required_sanitized (by simp only [entries, List.lookup_cons, String.reduceBEq])
        (requiredText_survives.validated analysis.targetAudience audience),
      required_sanitized (by simp only [entries, List.lookup_cons, String.reduceBEq])
        (requiredText_survives.validated analysis.mainMessage message),
      defaulted_sanitized (by simp only [entries, List.lookup_cons, String.reduceBEq])
        (itemText_survives.list.validated analysis.keyBenefits benefits),
      defaulted_sanitized (by simp only [entries, List.lookup_cons, String.reduceBEq])
        (itemText_survives.list.validated analysis.contentRequirements requirements),
      defaulted_sanitized (by simp only [entries, List.lookup_cons, String.reduceBEq])
        (itemText_survives.list.validated analysis.missingInformation missing),
      defaulted_sanitized (by simp only [entries, List.lookup_cons, String.reduceBEq])
        (itemText_survives.list.validated analysis.riskFlags flags)]
    rfl
  same analysis := by
    simp only [schema, List.forall_mem_append, ← requiredText_survives.same,
      ← itemText_survives.list.same, and_assoc]
    cases analysis
    simp only [clip, mk.injEq]

end BriefAnalysis

namespace FacebookContent

def clip (facebook : FacebookContent) : FacebookContent where
  headline := facebook.headline.clip
  content := facebook.content.clip
  cta := facebook.cta.clip
  hashtags := facebook.hashtags.clip BoundedText.clip

theorem survives : Survives schema clip where
  validated facebook clean := by
    simp only [schema, List.forall_mem_append, and_assoc] at clean
    obtain ⟨headline, content, cta, hashtags⟩ := clean
    have known : onlyNames (sanitizeValues facebook.entries) names = true := onlyNames_sanitized rfl
    show schema.modelValidate (sanitizeJson maxStringCharacters (.dict facebook.entries)) = _
    rw [@sanitizeJson_record _ names rfl (names_plain _ (by simp)) (by decide)]
    dsimp only [schema]
    rw [known,
      required_sanitized (by simp only [entries, List.lookup_cons, String.reduceBEq])
        (requiredText_survives.validated facebook.headline headline),
      required_sanitized (by simp only [entries, List.lookup_cons, String.reduceBEq])
        (requiredText_survives.validated facebook.content content),
      required_sanitized (by simp only [entries, List.lookup_cons, String.reduceBEq])
        (requiredText_survives.validated facebook.cta cta),
      defaulted_sanitized (by simp only [entries, List.lookup_cons, String.reduceBEq])
        ((itemText_survives.bounded 0 20).validated facebook.hashtags hashtags)]
    rfl
  same facebook := by
    simp only [schema, List.forall_mem_append, ← requiredText_survives.same,
      ← (itemText_survives.bounded 0 20).same, and_assoc]
    cases facebook
    simp only [clip, mk.injEq]

end FacebookContent

namespace TikTokScene

def clip (scene : TikTokScene) : TikTokScene where
  order := scene.order
  durationSeconds := scene.durationSeconds
  visual := scene.visual.clip
  textOverlay := scene.textOverlay.map BoundedText.clip

theorem overlay_survives : Survives overlay (Option.map BoundedText.clip) :=
  BoundedText.survives.nullable fun _ => nofun

theorem survives : Survives schema clip where
  validated scene clean := by
    simp only [schema, List.forall_mem_append] at clean
    obtain ⟨visual, textOverlay⟩ := clean
    have known : onlyNames (sanitizeValues scene.entries) names = true := onlyNames_sanitized rfl
    show schema.modelValidate (sanitizeJson maxStringCharacters (.dict scene.entries)) = _
    rw [@sanitizeJson_record _ names rfl (names_plain _ (by simp)) (by decide)]
    dsimp only [schema]
    rw [known,
      required_sanitized (by simp only [entries, List.lookup_cons, String.reduceBEq])
        (order_survives.validated scene.order (List.forall_mem_nil _)),
      required_sanitized (by simp only [entries, List.lookup_cons, String.reduceBEq])
        (duration_survives.validated scene.durationSeconds (List.forall_mem_nil _)),
      required_sanitized (by simp only [entries, List.lookup_cons, String.reduceBEq])
        (requiredText_survives.validated scene.visual visual),
      defaulted_sanitized (by simp only [entries, List.lookup_cons, String.reduceBEq])
        (overlay_survives.validated scene.textOverlay textOverlay)]
    rfl
  same scene := by
    simp only [schema, List.forall_mem_append, ← requiredText_survives.same,
      ← overlay_survives.same]
    cases scene
    simp only [clip, mk.injEq, true_and]

end TikTokScene

namespace TikTokContent

def clip (tiktok : TikTokContent) : TikTokContent where
  hook := tiktok.hook.clip
  scenes := tiktok.scenes.clip TikTokScene.clip
  voiceover := tiktok.voiceover.clip
  cta := tiktok.cta.clip

theorem survives : Survives schema clip where
  validated tiktok clean := by
    simp only [schema, List.forall_mem_append, and_assoc] at clean
    obtain ⟨hook, scenes, voiceover, cta⟩ := clean
    have known : onlyNames (sanitizeValues tiktok.entries) names = true := onlyNames_sanitized rfl
    show schema.modelValidate (sanitizeJson maxStringCharacters (.dict tiktok.entries)) = _
    rw [@sanitizeJson_record _ names rfl (names_plain _ (by simp)) (by decide)]
    dsimp only [schema]
    rw [known,
      required_sanitized (by simp only [entries, List.lookup_cons, String.reduceBEq])
        (requiredText_survives.validated tiktok.hook hook),
      required_sanitized (by simp only [entries, List.lookup_cons, String.reduceBEq])
        ((TikTokScene.survives.bounded 1 20).validated tiktok.scenes scenes),
      required_sanitized (by simp only [entries, List.lookup_cons, String.reduceBEq])
        (requiredText_survives.validated tiktok.voiceover voiceover),
      required_sanitized (by simp only [entries, List.lookup_cons, String.reduceBEq])
        (requiredText_survives.validated tiktok.cta cta)]
    rfl
  same tiktok := by
    simp only [schema, List.forall_mem_append, ← requiredText_survives.same,
      ← (TikTokScene.survives.bounded 1 20).same, and_assoc]
    cases tiktok
    simp only [clip, mk.injEq]

end TikTokContent

namespace DiscordContent

def clip (discord : DiscordContent) : DiscordContent where
  title := discord.title.clip
  message := discord.message.clip
  cta := discord.cta.clip

theorem survives : Survives schema clip where
  validated discord clean := by
    simp only [schema, List.forall_mem_append, and_assoc] at clean
    obtain ⟨title, message, cta⟩ := clean
    have known : onlyNames (sanitizeValues discord.entries) names = true := onlyNames_sanitized rfl
    show schema.modelValidate (sanitizeJson maxStringCharacters (.dict discord.entries)) = _
    rw [@sanitizeJson_record _ names rfl (names_plain _ (by simp)) (by decide)]
    dsimp only [schema]
    rw [known,
      required_sanitized (by simp only [entries, List.lookup_cons, String.reduceBEq])
        (requiredText_survives.validated discord.title title),
      required_sanitized (by simp only [entries, List.lookup_cons, String.reduceBEq])
        (requiredText_survives.validated discord.message message),
      required_sanitized (by simp only [entries, List.lookup_cons, String.reduceBEq])
        (requiredText_survives.validated discord.cta cta)]
    rfl
  same discord := by
    simp only [schema, List.forall_mem_append, ← requiredText_survives.same, and_assoc]
    cases discord
    simp only [clip, mk.injEq]

end DiscordContent

namespace GeneratedContent

def clip (content : GeneratedContent) : GeneratedContent where
  facebook := content.facebook.map FacebookContent.clip
  tiktok := content.tiktok.map TikTokContent.clip
  discord := content.discord.map DiscordContent.clip

theorem facebook_survives :
    Survives FacebookContent.schema.nullable (Option.map FacebookContent.clip) :=
  FacebookContent.survives.nullable fun _ => nofun

theorem tiktok_survives :
    Survives TikTokContent.schema.nullable (Option.map TikTokContent.clip) :=
  TikTokContent.survives.nullable fun _ => nofun

theorem discord_survives :
    Survives DiscordContent.schema.nullable (Option.map DiscordContent.clip) :=
  DiscordContent.survives.nullable fun _ => nofun

theorem survives : Survives schema clip where
  validated content clean := by
    simp only [schema, List.forall_mem_append, and_assoc] at clean
    obtain ⟨facebook, tiktok, discord⟩ := clean
    have known : onlyNames (sanitizeValues content.entries) names = true := onlyNames_sanitized rfl
    show schema.modelValidate (sanitizeJson maxStringCharacters (.dict content.entries)) = _
    rw [@sanitizeJson_record _ names rfl (names_plain _ (by simp)) (by decide)]
    dsimp only [schema]
    rw [known,
      defaulted_sanitized (by simp only [entries, List.lookup_cons, String.reduceBEq])
        (facebook_survives.validated content.facebook facebook),
      defaulted_sanitized (by simp only [entries, List.lookup_cons, String.reduceBEq])
        (tiktok_survives.validated content.tiktok tiktok),
      defaulted_sanitized (by simp only [entries, List.lookup_cons, String.reduceBEq])
        (discord_survives.validated content.discord discord)]
    rfl
  same content := by
    simp only [schema, List.forall_mem_append, ← facebook_survives.same, ← tiktok_survives.same,
      ← discord_survives.same, and_assoc]
    cases content
    simp only [clip, mk.injEq]

end GeneratedContent

/-! ### A review -/

/-- The items of a list have no bounds, so that the validation takes them whatever they become. -/
theorem items_validated (items : List ItemText) : ∃ safe, itemText.list.modelValidate
    (sanitizeJson maxStringCharacters (itemText.list.modelDump items)) = some safe := by
  have item_validated : ∀ item : ItemText, ∃ safe, itemText.modelValidate
      (sanitizeJson maxStringCharacters (itemText.modelDump item)) = some safe := by
    intro item
    show ∃ safe, BoundedText.validate (sanitizeText maxStringCharacters item.value) = some safe
    exact ⟨_, dif_pos ⟨nofun, nofun⟩⟩
  choose safe validated using item_validated
  refine ⟨items.map safe, Survives.mapM_sanitized ?_⟩
  rw [List.forall₂_map_right_iff]
  exact List.forall₂_same.mpr fun item _ => validated item

namespace QualityReview

/-- The validation takes any review from the sanitizer, whatever its texts become. -/
theorem validated (review : QualityReview) : ∃ safe, schema.modelValidate
    (sanitizeJson maxStringCharacters (schema.modelDump review)) = some safe := by
  have status : ReviewStatus.schema.modelValidate (sanitizeJson maxStringCharacters
      (ReviewStatus.schema.modelDump review.status)) = some review.status := by
    cases review.status <;> decide +kernel
  obtain ⟨issues, issuesRead⟩ := items_validated review.issues
  obtain ⟨suggestions, suggestionsRead⟩ := items_validated review.suggestions
  have known : onlyNames (sanitizeValues review.entries) names = true := onlyNames_sanitized rfl
  refine ⟨{ review with issues := issues, suggestions := suggestions }, ?_⟩
  show schema.modelValidate (sanitizeJson maxStringCharacters (.dict review.entries)) = _
  rw [@sanitizeJson_record _ names rfl (names_plain _ (by simp)) (by decide)]
  dsimp only [schema]
  rw [known,
    required_sanitized (by simp only [entries, List.lookup_cons, String.reduceBEq]) status,
    required_sanitized (by simp only [entries, List.lookup_cons, String.reduceBEq])
      (score_survives.validated review.qualityScore (List.forall_mem_nil _)),
    required_sanitized (by simp only [entries, List.lookup_cons, String.reduceBEq])
      (score_survives.validated review.factualAccuracyScore (List.forall_mem_nil _)),
    required_sanitized (by simp only [entries, List.lookup_cons, String.reduceBEq])
      (score_survives.validated review.toneScore (List.forall_mem_nil _)),
    required_sanitized (by simp only [entries, List.lookup_cons, String.reduceBEq])
      (score_survives.validated review.platformFitScore (List.forall_mem_nil _)),
    defaulted_sanitized (by simp only [entries, List.lookup_cons, String.reduceBEq]) issuesRead,
    defaulted_sanitized (by simp only [entries, List.lookup_cons, String.reduceBEq])
      suggestionsRead,
    defaulted_sanitized (by simp only [entries, List.lookup_cons, String.reduceBEq])
      (flag_survives.validated review.requiresHumanReview (List.forall_mem_nil _))]
  rfl

end QualityReview

end CyberLegends.Agents
