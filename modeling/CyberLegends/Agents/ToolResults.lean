import CyberLegends.Agents.Content
import CyberLegends.Agents.Dumps

/-! The result of a tool as a message to the agent: it is sanitized, serialized to be cut off at a
limit, serialized again and wrapped, and the message has a limit of its own. -/

namespace CyberLegends.Agents

open CyberLegends.Core Lib Actions

/-! ### Messages -/

inductive MessageRole
  | user
  | assistant
  | tool
  deriving DecidableEq, Repr

structure AgentToolRequest where
  toolCallId : String
  toolName : String
  arguments : List (String × Json) := []
  toolCallId_length : 1 ≤ toolCallId.length ∧ toolCallId.length ≤ 200
  toolName_length : 1 ≤ toolName.length ∧ toolName.length ≤ 100

structure AgentMessage where
  role : MessageRole
  content : String
  toolCallId : Option String := none
  toolName : Option String := none
  toolCalls : List AgentToolRequest := []
  content_length : content.length ≤ 20000
  toolCallId_length : ∀ id ∈ toolCallId, id.length ≤ 200
  toolName_length : ∀ name ∈ toolName, name.length ≤ 100
  toolCalls_length : toolCalls.length ≤ 10

/-- A message, unless one of its fields is too long. -/
def AgentMessage.validate (role : MessageRole) (content : String)
    (toolCallId toolName : Option String) (toolCalls : List AgentToolRequest) :
    Option AgentMessage :=
  if h : content.length ≤ 20000 ∧ (∀ id ∈ toolCallId, id.length ≤ 200) ∧
      (∀ name ∈ toolName, name.length ≤ 100) ∧ toolCalls.length ≤ 10 then
    some
      { role, content, toolCallId, toolName, toolCalls
        content_length := h.1
        toolCallId_length := h.2.1
        toolName_length := h.2.2.1
        toolCalls_length := h.2.2.2 }
  else none

theorem AgentMessage.validate_isSome {role : MessageRole} {content : String}
    {toolCallId toolName : Option String} {toolCalls : List AgentToolRequest} :
    (AgentMessage.validate role content toolCallId toolName toolCalls).isSome = true ↔
      content.length ≤ 20000 ∧ (∀ id ∈ toolCallId, id.length ≤ 200) ∧
        (∀ name ∈ toolName, name.length ≤ 100) ∧ toolCalls.length ≤ 10 := by
  unfold AgentMessage.validate
  split
  · rename_i admitted
    simp only [Option.isSome_some, true_iff]
    exact admitted
  · rename_i refused
    simp only [Option.isSome_none, Bool.false_eq_true, false_iff]
    exact refused

/-! ### Results -/

/-- The text by which a result is measured. -/
def serializedResult (value : Json) : List Char := dumps .compact (sanitizeJson 2000 value)

/-- The content of a result and its summary. -/
def boundedResult (maxResultCharacters : Nat) (value : Json) : Json × String :=
  let serialized := serializedResult value
  if serialized.length ≤ maxResultCharacters then
    (sanitizeJson 2000 value, String.ofList serialized)
  else
    let summary :=
      String.ofList (serialized.take maxResultCharacters ++ "...[TRUNCATED]".toList)
    (.string summary, summary)

/-- The message that the loop appends for the content of a result. -/
def toolMessage (request : AgentToolRequest) (content : Json) : Option AgentMessage :=
  AgentMessage.validate .tool
    (String.ofList ("<UNTRUSTED_TOOL_RESULT>".toList ++ dumps .spaced content ++
      "</UNTRUSTED_TOOL_RESULT>".toList))
    (some request.toolCallId) (some request.toolName) []

theorem toolMessage_isSome {request : AgentToolRequest} {content : Json} :
    (toolMessage request content).isSome = true ↔
      (dumps .spaced content).length + 47 ≤ 20000 := by
  have wrapper : "<UNTRUSTED_TOOL_RESULT>".toList.length = 23 ∧
      "</UNTRUSTED_TOOL_RESULT>".toList.length = 24 := by
    decide +kernel
  have others : (∀ id ∈ some request.toolCallId, id.length ≤ 200) ∧
      (∀ name ∈ some request.toolName, name.length ≤ 100) ∧
        ([] : List AgentToolRequest).length ≤ 10 := by
    refine ⟨?_, ?_, by decide⟩
    · rintro _ ⟨⟩
      exact request.toolCallId_length.2
    · rintro _ ⟨⟩
      exact request.toolName_length.2
  unfold toolMessage
  rw [AgentMessage.validate_isSome, String.length_ofList, List.length_append, List.length_append,
    wrapper.1, wrapper.2]
  constructor
  · rintro ⟨fits, -⟩
    omega
  · intro fits
    exact ⟨by omega, others⟩

/-- The message of a result that is cut off. -/
theorem cut_admitted_iff {request : AgentToolRequest} {value : Json} {maxResultCharacters : Nat}
    (long : maxResultCharacters < (serializedResult value).length) :
    (toolMessage request (boundedResult maxResultCharacters value).1).isSome = true ↔
      ((serializedResult value).take maxResultCharacters).countP isMarked +
        maxResultCharacters ≤ 19937 := by
  have printable : Printable ((serializedResult value).take maxResultCharacters ++
      "...[TRUNCATED]".toList) := by
    refine ((printable_compact _).sublist (List.take_sublist ..)).append ?_
    exact List.all_eq_true.mp (by decide +kernel)
  have ending : "...[TRUNCATED]".toList.length = 14 ∧
      "...[TRUNCATED]".toList.countP isMarked = 0 := by
    decide +kernel
  have taken : ((serializedResult value).take maxResultCharacters).length =
      maxResultCharacters := by
    rw [List.length_take]
    omega
  rw [toolMessage_isSome]
  simp only [boundedResult]
  rw [if_neg (by omega)]
  simp only [dumps, String.toList_ofList]
  rw [length_dumpsString printable, List.length_append, List.countP_append, taken, ending.1,
    ending.2]
  omega

/-- Up to the default of the limit, the message of a result is admitted exactly if the result is not
cut off, or if the quotes and backslashes that are left of it after the cut leave room for the
backslashes in front of them. -/
theorem tool_message_admitted_iff (request : AgentToolRequest) (value : Json)
    {maxResultCharacters : Nat} (range : 100 ≤ maxResultCharacters ∧ maxResultCharacters ≤ 12000) :
    (toolMessage request (boundedResult maxResultCharacters value).1).isSome = true ↔
      (serializedResult value).length ≤ maxResultCharacters ∨
        ((serializedResult value).take maxResultCharacters).countP isMarked +
          maxResultCharacters ≤ 19937 := by
  by_cases short : (serializedResult value).length ≤ maxResultCharacters
  · have widens : 2 * (dumps .spaced (sanitizeJson 2000 value)).length + 1 ≤
        3 * (serializedResult value).length := dumps_widens _
    rw [toolMessage_isSome]
    simp only [boundedResult, short, if_true, true_or, iff_true]
    omega
  · rw [cut_admitted_iff (by omega)]
    simp only [short, false_or]

/-- A request for the last quality review. -/
def reviewRequest : AgentToolRequest where
  toolCallId := "call-1"
  toolName := "get_previous_quality_review"
  toolCallId_length := by decide
  toolName_length := by decide

/-- A value that is neither cut off nor marked. -/
theorem plain_result_admitted :
    (100 ≤ 12000 ∧ 12000 ≤ 12000) ∧
      (toolMessage reviewRequest
        (boundedResult 12000 (.dict [("available", .bool false)])).1).isSome = true := by
  refine ⟨by decide, ?_⟩
  refine (tool_message_admitted_iff reviewRequest (.dict [("available", .bool false)])
    (by decide)).mpr (.inl ?_)
  decide +kernel

/-! ### A review full of quotes -/

/-- A note of quotes only. -/
def quotes : ItemText where
  value := String.ofList (List.replicate 1000 '"')
  stripped := by
    apply String.toList_injective
    rw [toList_stripWhitespace, String.toList_ofList]
    refine strip_eq_self fun c there => ?_
    rw [List.eq_of_mem_replicate there]
    rfl
  least empty := by cases empty
  most limit is := by cases is

def quotedReview : QualityReview where
  status := .fail
  qualityScore := ⟨40, by decide⟩
  factualAccuracyScore := ⟨40, by decide⟩
  toneScore := ⟨40, by decide⟩
  platformFitScore := ⟨40, by decide⟩
  issues := List.replicate 7 quotes
  suggestions := []
  requiresHumanReview := false

theorem sanitizeText_quotes : sanitizeText 2000 quotes.value = quotes.value := by
  have unsecret : Unsecret quotes.value.toList := by
    show Unsecret (String.ofList (List.replicate 1000 '"')).toList
    rw [String.toList_ofList]
    refine unsecret_replicate (fun pattern member => ?_) 1000
    simp only [secretPatterns, List.mem_cons, List.not_mem_nil, or_false] at member
    rcases member with rfl | rfl | rfl <;> exact ⟨rfl, fun _ => rfl⟩
  rw [sanitizeText_unsecret unsecret]
  show String.ofList ((String.ofList (List.replicate 1000 '"')).toList.take 2000) = _
  rw [String.toList_ofList, List.take_of_length_le (by rw [List.length_replicate]; decide)]
  rfl

/-- The handler returns the review as it is stored, and the sanitizer leaves it. -/
theorem sanitizeJson_quotedReview :
    sanitizeJson 2000 (QualityReview.schema.modelDump quotedReview) =
      QualityReview.schema.modelDump quotedReview := by
  show Json.dict (sanitizeEntries 2000 [] quotedReview.entries) = .dict quotedReview.entries
  have plain : ∀ entry ∈ quotedReview.entries, plainKey entry.1 = true := by
    have keys : ∀ key ∈ quotedReview.entries.map Prod.fst, plainKey key = true := by
      decide +kernel
    exact fun entry member => keys entry.1 (List.mem_map_of_mem member)
  rw [sanitizeEntries_plain plain (by decide +kernel)]
  have verdict : sanitizeText 2000 "FAIL" = "FAIL" := by decide +kernel
  have issues : ∀ n, sanitizeItems 2000 (List.replicate n (.string quotes.value)) =
      List.replicate n (.string quotes.value) := by
    intro n
    induction n with
    | zero => rfl
    | succ n ih =>
      rw [List.replicate_succ, sanitizeItems, ih, sanitizeJson, sanitizeText_quotes]
  have status : sanitizeJson 2000 (ReviewStatus.schema.modelDump quotedReview.status) =
      ReviewStatus.schema.modelDump quotedReview.status := by
    show Json.string (sanitizeText 2000 "FAIL") = _
    rw [verdict]
    rfl
  have noted : sanitizeJson 2000 (itemText.list.modelDump quotedReview.issues) =
      itemText.list.modelDump quotedReview.issues := by
    show Json.list (sanitizeItems 2000 (List.replicate 7 (.string quotes.value))) = _
    rw [issues]
    rfl
  simp only [QualityReview.entries, List.map_cons, List.map_nil, List.nil_append, status, noted]
  rfl

/-- An entry of the review as it is serialized. -/
def entryText (name : String) (text : List Char) : List Char :=
  dumpsString name.toList ++ Separators.compact.key ++ text

/-- The review as it is serialized. -/
def quotedText : List Char :=
  '\x7b' :: List.intercalate Separators.compact.item
    [entryText "status" (dumpsString "FAIL".toList), entryText "quality_score" (dumpsInt 40),
      entryText "factual_accuracy_score" (dumpsInt 40), entryText "tone_score" (dumpsInt 40),
      entryText "platform_fit_score" (dumpsInt 40),
      entryText "issues" ('[' :: List.intercalate Separators.compact.item
        (List.replicate 7 (dumpsString (List.replicate 1000 '"'))) ++ [']']),
      entryText "suggestions" ['[', ']'], entryText "requires_human_review" "false".toList] ++
    ['\x7d']

theorem serialized_quotedReview :
    serializedResult (QualityReview.schema.modelDump quotedReview) = quotedText := by
  have text : quotes.value.toList = List.replicate 1000 '"' := String.toList_ofList
  have items : ∀ n, dumpsItems .compact (List.replicate n (.string quotes.value)) =
      List.replicate n (dumpsString (List.replicate 1000 '"')) := by
    intro n
    induction n with
    | zero => rfl
    | succ n ih => rw [List.replicate_succ, List.replicate_succ, dumpsItems, ih, dumps, text]
  have issues : dumps .compact (itemText.list.modelDump quotedReview.issues) =
      '[' :: List.intercalate Separators.compact.item
        (List.replicate 7 (dumpsString (List.replicate 1000 '"'))) ++ [']'] := by
    show dumps .compact (.list (List.replicate 7 (.string quotes.value))) = _
    rw [dumps, items]
  unfold serializedResult
  rw [sanitizeJson_quotedReview]
  show '\x7b' :: List.intercalate Separators.compact.item
    (dumpsEntries .compact quotedReview.entries) ++ ['\x7d'] = _
  simp only [QualityReview.entries, dumpsEntries, issues]
  rfl

/-- The tool completes, and the message of its result is refused. -/
theorem quoted_review_refused :
    (toolMessage reviewRequest (boundedResult 12000
      (sanitizeJson 2000 (QualityReview.schema.modelDump quotedReview))).1).isSome = false ∧
    ¬ ∀ (request : AgentToolRequest) (value : Json) (maxResultCharacters : Nat),
      100 ≤ maxResultCharacters ∧ maxResultCharacters ≤ 12000 →
        (toolMessage request (boundedResult maxResultCharacters value).1).isSome = true := by
  have measured : 12000 < quotedText.length ∧ 7937 < (quotedText.take 12000).countP isMarked := by
    decide +kernel
  have refused : (toolMessage reviewRequest (boundedResult 12000
      (sanitizeJson 2000 (QualityReview.schema.modelDump quotedReview))).1).isSome = false := by
    rw [sanitizeJson_quotedReview, Bool.eq_false_iff, Ne,
      cut_admitted_iff (by rw [serialized_quotedReview]; exact measured.1), serialized_quotedReview]
    omega
  refine ⟨refused, fun fits => ?_⟩
  have fit := fits reviewRequest (sanitizeJson 2000 (QualityReview.schema.modelDump quotedReview))
    12000 (by decide)
  rw [refused] at fit
  cases fit

end CyberLegends.Agents
