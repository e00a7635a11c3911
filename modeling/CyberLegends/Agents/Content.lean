import CyberLegends.Agents.Sanitization
import Mathlib.Algebra.Group.Int.Defs
import Mathlib.Data.List.Basic

/-! What the agents produce for a campaign: the analysis of its brief, the content for each platform
and the review of it, as the schemas admit them, their JSON and the validation of it. -/

namespace CyberLegends.Agents

open CyberLegends.Core Lib Actions

/-- How a value is dumped as JSON and validated from it, and the texts that stand in it. -/
structure Schema (α : Type) where
  modelDump : α → Json
  modelValidate : Json → Option α
  texts : α → List String

/-! ### Texts -/

/-- A text that a schema admits: stripped, not empty where it is to have a character, and no longer
than the limit. -/
structure BoundedText (nonempty : Bool) (maxLength : Option Nat) where
  value : String
  stripped : stripWhitespace value = value
  least : nonempty = true → value ≠ ""
  most : ∀ limit ∈ maxLength, value.length ≤ limit
  deriving DecidableEq

theorem stripWhitespace_idem (value : String) :
    stripWhitespace (stripWhitespace value) = stripWhitespace value := by
  apply String.toList_injective
  rw [toList_stripWhitespace, toList_stripWhitespace, strip_strip]

namespace BoundedText

variable {nonempty : Bool} {maxLength : Option Nat}

def validate (value : String) : Option (BoundedText nonempty maxLength) :=
  if admitted : (nonempty = true → stripWhitespace value ≠ "") ∧
      ∀ limit ∈ maxLength, (stripWhitespace value).length ≤ limit then
    some ⟨stripWhitespace value, stripWhitespace_idem value, admitted.1, admitted.2⟩
  else none

/-- The schema of a field that is a text. -/
def schema (nonempty : Bool) (maxLength : Option Nat) : Schema (BoundedText nonempty maxLength) where
  modelDump text := .string text.value
  modelValidate
    | .string value => validate value
    | _ => none
  texts text := [text.value]

end BoundedText

/-- A text in a list, which has no bounds. -/
abbrev ItemText := BoundedText false none

def itemText : Schema ItemText := BoundedText.schema false none

/-- A text that is to have a character, with the limit of its field. -/
abbrev RequiredText (limit : Nat) := BoundedText true (some limit)

def requiredText (limit : Nat) : Schema (RequiredText limit) := BoundedText.schema true (some limit)

/-! ### Numbers, lists and nulls -/

/-- An integer that the field admits. -/
def integer (admits : Int → Prop) [DecidablePred admits] : Schema (Subtype admits) where
  modelDump number := .int number.1
  modelValidate
    | .int value => if admitted : admits value then some ⟨value, admitted⟩ else none
    | _ => none
  texts _ := []

/-- A score of a review. -/
abbrev Score := Subtype fun value : Int => 0 ≤ value ∧ value ≤ 100

def score : Schema Score := integer _

/-- The order of a scene. -/
abbrev Order := Subtype fun value : Int => 1 ≤ value

def order : Schema Order := integer _

/-- The seconds that a scene lasts: a floating point number above 0 and at most 60. -/
structure Duration where
  mantissa : Int
  exponent : Int
  positive : 0 < mantissa
  bounded : mantissa * 10 ^ exponent.toNat ≤ 60 * 10 ^ (-exponent).toNat
  deriving DecidableEq

def duration : Schema Duration where
  modelDump seconds := .float seconds.mantissa seconds.exponent
  modelValidate
    | .float mantissa exponent =>
      if admitted : 0 < mantissa ∧ mantissa * 10 ^ exponent.toNat ≤ 60 * 10 ^ (-exponent).toNat then
        some ⟨mantissa, exponent, admitted.1, admitted.2⟩
      else none
    | _ => none
  texts _ := []

def flag : Schema Bool where
  modelDump := .bool
  modelValidate
    | .bool value => some value
    | _ => none
  texts _ := []

namespace Schema

variable {α : Type} (schema : Schema α)

def list : Schema (List α) where
  modelDump items := .list (items.map schema.modelDump)
  modelValidate
    | .list items => items.mapM schema.modelValidate
    | _ => none
  texts items := items.flatMap schema.texts

def nullable : Schema (Option α) where
  modelDump
    | none => .null
    | some value => schema.modelDump value
  modelValidate
    | .null => some none
    | json => (schema.modelValidate json).map some
  texts value := value.toList.flatMap schema.texts

end Schema

/-- A list with bounds on its length. -/
structure BoundedList (α : Type) (minLength maxLength : Nat) where
  items : List α
  least : minLength ≤ items.length
  most : items.length ≤ maxLength
  deriving DecidableEq

def Schema.bounded {α : Type} (schema : Schema α) (minLength maxLength : Nat) :
    Schema (BoundedList α minLength maxLength) where
  modelDump listed := schema.list.modelDump listed.items
  modelValidate json := do
    let items ← schema.list.modelValidate json
    if admitted : minLength ≤ items.length ∧ items.length ≤ maxLength then
      some ⟨items, admitted.1, admitted.2⟩
    else none
  texts listed := schema.list.texts listed.items

/-! ### Records -/

section

variable {α : Type} (schema : Schema α) (entries : List (String × Json)) (name : String)

def required : Option α := (entries.lookup name).bind schema.modelValidate

/-- A field with a default, for when it is left out. -/
def defaulted (default : α) : Option α :=
  match entries.lookup name with
  | none => some default
  | some item => schema.modelValidate item

/-- The entries have no other name than these: extra fields are forbidden. -/
def onlyNames (names : List String) : Bool := entries.all fun entry => entry.1 ∈ names

end

structure BriefAnalysis where
  summary : RequiredText 3000
  campaignObjective : RequiredText 1000
  targetAudience : RequiredText 1000
  mainMessage : RequiredText 2000
  keyBenefits : List ItemText
  contentRequirements : List ItemText
  missingInformation : List ItemText
  riskFlags : List ItemText
  deriving DecidableEq

namespace BriefAnalysis

def names : List String :=
  ["summary", "campaign_objective", "target_audience", "main_message", "key_benefits",
    "content_requirements", "missing_information", "risk_flags"]

def entries (analysis : BriefAnalysis) : List (String × Json) :=
  [("summary", (requiredText 3000).modelDump analysis.summary),
    ("campaign_objective", (requiredText 1000).modelDump analysis.campaignObjective),
    ("target_audience", (requiredText 1000).modelDump analysis.targetAudience),
    ("main_message", (requiredText 2000).modelDump analysis.mainMessage),
    ("key_benefits", itemText.list.modelDump analysis.keyBenefits),
    ("content_requirements", itemText.list.modelDump analysis.contentRequirements),
    ("missing_information", itemText.list.modelDump analysis.missingInformation),
    ("risk_flags", itemText.list.modelDump analysis.riskFlags)]

def schema : Schema BriefAnalysis where
  modelDump analysis := .dict analysis.entries
  modelValidate
    | .dict entries => do
      guard (onlyNames entries names)
      let summary ← required (requiredText 3000) entries "summary"
      let campaignObjective ← required (requiredText 1000) entries "campaign_objective"
      let targetAudience ← required (requiredText 1000) entries "target_audience"
      let mainMessage ← required (requiredText 2000) entries "main_message"
      let keyBenefits ← defaulted itemText.list entries "key_benefits" []
      let contentRequirements ← defaulted itemText.list entries "content_requirements" []
      let missingInformation ← defaulted itemText.list entries "missing_information" []
      let riskFlags ← defaulted itemText.list entries "risk_flags" []
      return { summary := summary, campaignObjective, targetAudience, mainMessage, keyBenefits,
               contentRequirements, missingInformation, riskFlags }
    | _ => none
  texts analysis :=
    (requiredText 3000).texts analysis.summary ++
      (requiredText 1000).texts analysis.campaignObjective ++
      (requiredText 1000).texts analysis.targetAudience ++
      (requiredText 2000).texts analysis.mainMessage ++
      itemText.list.texts analysis.keyBenefits ++
      itemText.list.texts analysis.contentRequirements ++
      itemText.list.texts analysis.missingInformation ++
      itemText.list.texts analysis.riskFlags

end BriefAnalysis

structure FacebookContent where
  headline : RequiredText 200
  content : RequiredText 5000
  cta : RequiredText 500
  hashtags : BoundedList ItemText 0 20
  deriving DecidableEq

namespace FacebookContent

def names : List String := ["headline", "content", "cta", "hashtags"]

def entries (facebook : FacebookContent) : List (String × Json) :=
  [("headline", (requiredText 200).modelDump facebook.headline),
    ("content", (requiredText 5000).modelDump facebook.content),
    ("cta", (requiredText 500).modelDump facebook.cta),
    ("hashtags", (itemText.bounded 0 20).modelDump facebook.hashtags)]

def schema : Schema FacebookContent where
  modelDump facebook := .dict facebook.entries
  modelValidate
    | .dict entries => do
      guard (onlyNames entries names)
      let headline ← required (requiredText 200) entries "headline"
      let content ← required (requiredText 5000) entries "content"
      let cta ← required (requiredText 500) entries "cta"
      let hashtags ← defaulted (itemText.bounded 0 20) entries "hashtags"
        ⟨[], Nat.zero_le _, Nat.zero_le _⟩
      return { headline := headline, content, cta, hashtags }
    | _ => none
  texts facebook :=
    (requiredText 200).texts facebook.headline ++ (requiredText 5000).texts facebook.content ++
      (requiredText 500).texts facebook.cta ++ (itemText.bounded 0 20).texts facebook.hashtags

end FacebookContent

structure TikTokScene where
  order : Order
  durationSeconds : Duration
  visual : RequiredText 1000
  textOverlay : Option (BoundedText false (some 500))
  deriving DecidableEq

namespace TikTokScene

/-- The overlay of a scene, which may be empty or null. -/
def overlay : Schema (Option (BoundedText false (some 500))) :=
  (BoundedText.schema false (some 500)).nullable

def names : List String := ["order", "duration_seconds", "visual", "text_overlay"]

def entries (scene : TikTokScene) : List (String × Json) :=
  [("order", Agents.order.modelDump scene.order),
    ("duration_seconds", duration.modelDump scene.durationSeconds),
    ("visual", (requiredText 1000).modelDump scene.visual),
    ("text_overlay", overlay.modelDump scene.textOverlay)]

def schema : Schema TikTokScene where
  modelDump scene := .dict scene.entries
  modelValidate
    | .dict entries => do
      guard (onlyNames entries names)
      let order ← required Agents.order entries "order"
      let durationSeconds ← required duration entries "duration_seconds"
      let visual ← required (requiredText 1000) entries "visual"
      let textOverlay ← defaulted overlay entries "text_overlay" none
      return { order := order, durationSeconds, visual, textOverlay }
    | _ => none
  texts scene := (requiredText 1000).texts scene.visual ++ overlay.texts scene.textOverlay

end TikTokScene

structure TikTokContent where
  hook : RequiredText 500
  scenes : BoundedList TikTokScene 1 20
  voiceover : RequiredText 5000
  cta : RequiredText 500
  deriving DecidableEq

namespace TikTokContent

def names : List String := ["hook", "scenes", "voiceover", "cta"]

def entries (tiktok : TikTokContent) : List (String × Json) :=
  [("hook", (requiredText 500).modelDump tiktok.hook),
    ("scenes", (TikTokScene.schema.bounded 1 20).modelDump tiktok.scenes),
    ("voiceover", (requiredText 5000).modelDump tiktok.voiceover),
    ("cta", (requiredText 500).modelDump tiktok.cta)]

def schema : Schema TikTokContent where
  modelDump tiktok := .dict tiktok.entries
  modelValidate
    | .dict entries => do
      guard (onlyNames entries names)
      let hook ← required (requiredText 500) entries "hook"
      let scenes ← required (TikTokScene.schema.bounded 1 20) entries "scenes"
      let voiceover ← required (requiredText 5000) entries "voiceover"
      let cta ← required (requiredText 500) entries "cta"
      return { hook := hook, scenes, voiceover, cta }
    | _ => none
  texts tiktok :=
    (requiredText 500).texts tiktok.hook ++ (TikTokScene.schema.bounded 1 20).texts tiktok.scenes ++
      (requiredText 5000).texts tiktok.voiceover ++ (requiredText 500).texts tiktok.cta

end TikTokContent

structure DiscordContent where
  title : RequiredText 200
  message : RequiredText 3000
  cta : RequiredText 500
  deriving DecidableEq

namespace DiscordContent

def names : List String := ["title", "message", "cta"]

def entries (discord : DiscordContent) : List (String × Json) :=
  [("title", (requiredText 200).modelDump discord.title),
    ("message", (requiredText 3000).modelDump discord.message),
    ("cta", (requiredText 500).modelDump discord.cta)]

def schema : Schema DiscordContent where
  modelDump discord := .dict discord.entries
  modelValidate
    | .dict entries => do
      guard (onlyNames entries names)
      let title ← required (requiredText 200) entries "title"
      let message ← required (requiredText 3000) entries "message"
      let cta ← required (requiredText 500) entries "cta"
      return { title := title, message, cta }
    | _ => none
  texts discord :=
    (requiredText 200).texts discord.title ++ (requiredText 3000).texts discord.message ++
      (requiredText 500).texts discord.cta

end DiscordContent

structure GeneratedContent where
  facebook : Option FacebookContent
  tiktok : Option TikTokContent
  discord : Option DiscordContent
  deriving DecidableEq

namespace GeneratedContent

def names : List String := ["facebook", "tiktok", "discord"]

def entries (content : GeneratedContent) : List (String × Json) :=
  [("facebook", FacebookContent.schema.nullable.modelDump content.facebook),
    ("tiktok", TikTokContent.schema.nullable.modelDump content.tiktok),
    ("discord", DiscordContent.schema.nullable.modelDump content.discord)]

def schema : Schema GeneratedContent where
  modelDump content := .dict content.entries
  modelValidate
    | .dict entries => do
      guard (onlyNames entries names)
      let facebook ← defaulted FacebookContent.schema.nullable entries "facebook" none
      let tiktok ← defaulted TikTokContent.schema.nullable entries "tiktok" none
      let discord ← defaulted DiscordContent.schema.nullable entries "discord" none
      return { facebook := facebook, tiktok, discord }
    | _ => none
  texts content :=
    FacebookContent.schema.nullable.texts content.facebook ++
      TikTokContent.schema.nullable.texts content.tiktok ++
      DiscordContent.schema.nullable.texts content.discord

end GeneratedContent

/-! ### The review of the content -/

inductive ReviewStatus
  | pass
  | fail
  | manualReviewRequired
  deriving DecidableEq

namespace ReviewStatus

def value : ReviewStatus → String
  | pass => "PASS"
  | fail => "FAIL"
  | manualReviewRequired => "MANUAL_REVIEW_REQUIRED"

def schema : Schema ReviewStatus where
  modelDump status := .string status.value
  modelValidate
    | .string "PASS" => some pass
    | .string "FAIL" => some fail
    | .string "MANUAL_REVIEW_REQUIRED" => some manualReviewRequired
    | _ => none
  texts _ := []

end ReviewStatus

structure QualityReview where
  status : ReviewStatus
  qualityScore : Score
  factualAccuracyScore : Score
  toneScore : Score
  platformFitScore : Score
  issues : List ItemText
  suggestions : List ItemText
  requiresHumanReview : Bool
  deriving DecidableEq

namespace QualityReview

def names : List String :=
  ["status", "quality_score", "factual_accuracy_score", "tone_score", "platform_fit_score", "issues",
    "suggestions", "requires_human_review"]

def entries (review : QualityReview) : List (String × Json) :=
  [("status", ReviewStatus.schema.modelDump review.status),
    ("quality_score", score.modelDump review.qualityScore),
    ("factual_accuracy_score", score.modelDump review.factualAccuracyScore),
    ("tone_score", score.modelDump review.toneScore),
    ("platform_fit_score", score.modelDump review.platformFitScore),
    ("issues", itemText.list.modelDump review.issues),
    ("suggestions", itemText.list.modelDump review.suggestions),
    ("requires_human_review", flag.modelDump review.requiresHumanReview)]

def schema : Schema QualityReview where
  modelDump review := .dict review.entries
  modelValidate
    | .dict entries => do
      guard (onlyNames entries names)
      let status ← required ReviewStatus.schema entries "status"
      let qualityScore ← required score entries "quality_score"
      let factualAccuracyScore ← required score entries "factual_accuracy_score"
      let toneScore ← required score entries "tone_score"
      let platformFitScore ← required score entries "platform_fit_score"
      let issues ← defaulted itemText.list entries "issues" []
      let suggestions ← defaulted itemText.list entries "suggestions" []
      let requiresHumanReview ← defaulted flag entries "requires_human_review" true
      return { status := status, qualityScore, factualAccuracyScore, toneScore, platformFitScore,
               issues, suggestions, requiresHumanReview }
    | _ => none
  texts review := itemText.list.texts review.issues ++ itemText.list.texts review.suggestions

end QualityReview

end CyberLegends.Agents
