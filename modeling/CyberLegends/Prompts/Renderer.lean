import CyberLegends.Agents.Sanitization
import CyberLegends.Core.Integers
import CyberLegends.Evaluation.Scoring
import CyberLegends.Lib.Format

/-! The contents of managed prompts: what a new version has to pass, what is stored of it, and how the
stored version is filled in with values. -/

namespace CyberLegends.Prompts

open CyberLegends.Core Lib Actions Agents Evaluation

/-! ### Contents -/

def maxRenderedPromptCharacters : ℕ := 60_000

inductive RenderFailure
  | validation (message : String)
  /-- Another exception leaves the call. -/
  | other (failure : Format.Failure)
  deriving DecidableEq

/-- Whether a pattern is found anywhere in the text. -/
def search (found : List Char → Bool) (text : List Char) : Bool := text.tails.any found

def isSecret (chars : List Char) : Bool := (assignmentPattern chars).isSome

/-- What follows one of the separators in `chain-of-thought`. -/
def afterSeparator : List Char → Option (List Char)
  | [] => none
  | c :: chars => if c ∈ ['-', '_', ' '] then some chars else none

def afterChainOfThought (chars : List Char) : Option (List Char) := do
  let rest ← afterSeparator (← afterWord "chain".toList chars)
  let rest ← afterSeparator (← afterWord "of".toList rest)
  afterWord "thought".toList rest

def isHiddenReasoning (chars : List Char) : Bool :=
  (afterChainOfThought chars).isSome ∨ (afterWord "hidden reasoning".toList chars).isSome ∨
    (afterWord "show your reasoning step by step".toList chars).isSome

def validateContent (systemPrompt userPromptTemplate : String) : Except RenderFailure Unit :=
  let content := systemPrompt.toList ++ '\n' :: userPromptTemplate.toList
  if search isSecret content then
    .error (.validation "Managed prompts cannot contain secrets")
  else if search isHiddenReasoning content then
    .error (.validation "Managed prompts cannot request hidden reasoning")
  else if maxRenderedPromptCharacters < content.length then
    .error (.validation "Managed prompt exceeds the size limit")
  else .ok ()

/-- The names that the template refers to; fields within specifications are not among them. -/
def referenced (template : String) : List String :=
  (((Format.fields template.toList).map (·.name)).filter (· ≠ [])).dedup.map String.ofList

def variablesOf (template : String) : Except RenderFailure (List String) :=
  if (Format.pieces template.toList).2 then
    .error (.validation "Prompt template syntax is invalid")
  else .ok (referenced template)

structure PromptVersionCreate where
  systemPrompt : String
  userPromptTemplate : String
  declaredVariables : List (String × Json) := []

/-- The content of a stored version. -/
structure PromptContent where
  systemPrompt : String
  userPromptTemplate : String
  declaredVariables : List (String × Json)

/-- The content that `create_version` stores. -/
def PromptVersionCreate.content (data : PromptVersionCreate) :
    Except RenderFailure PromptContent := do
  validateContent data.systemPrompt data.userPromptTemplate
  let names ← variablesOf data.userPromptTemplate
  if names.all (· ∈ data.declaredVariables.map Prod.fst) then
    .ok { data with declaredVariables := sanitizeEntries 2000 [] data.declaredVariables }
  else .error (.validation "Every prompt variable must be declared")

/-! ### Rendering -/

section
variable {Obj α : Type} (objects : Format.Objects Obj) (str : α → Except Format.Failure (List Char))

/-- The names, in order, behind a message. -/
def listed (message : String) (names : List String) : RenderFailure :=
  .validation (message ++ ", ".intercalate (names.dedup.insertionSort (· ≤ ·)))

/-- The values as texts. -/
def safeValues (values : List (String × α)) : Except RenderFailure (List (String × List Char)) :=
  values.mapM fun (name, value) =>
    match str value with
    | .error failure => .error (.other failure)
    | .ok text => .ok (name, text)

/-- The template filled in, within the limit. -/
def filled (template : String) (safe : List (String × List Char)) : Except RenderFailure String :=
  match objects.formatMap (fun name => safe.lookup (String.ofList name)) template.toList with
  | .error failure =>
    if failure = .keyError ∨ failure = .valueError then
      .error (.validation "Prompt rendering failed")
    else .error (.other failure)
  | .ok text =>
    if maxRenderedPromptCharacters < text.length then
      .error (.validation "Rendered prompt exceeds the size limit")
    else .ok (String.ofList text)

def render (template : String) (values : List (String × α)) (allowedVariables : List String)
    (allowUnknown : Bool) : Except RenderFailure String := do
  let names ← variablesOf template
  let given := values.map Prod.fst
  let missing := names.filter (· ∉ given)
  let unknown := given.filter (· ∉ allowedVariables)
  if missing ≠ [] then .error (listed "Missing prompt variables: " missing)
  else if unknown ≠ [] ∧ allowUnknown = false then
    .error (listed "Unknown prompt variables: " unknown)
  else do
    let safe ← safeValues str values
    filled objects template safe

namespace PromptContent

/-- Names with two underscores at the front are settings of the version. -/
def isSetting (name : String) : Bool := ['_', '_'].isPrefixOf name.toList

def allowedVariables (content : PromptContent) : List String :=
  (content.declaredVariables.map Prod.fst).filter fun name => !isSetting name

def allowUnknown (content : PromptContent) : Bool :=
  ((content.declaredVariables.lookup "__allow_unknown__").map truthy).getD false

/-- The user prompt of the stored version, with these values. -/
def resolve (content : PromptContent) (values : List (String × α)) : Except RenderFailure String :=
  render objects str content.userPromptTemplate values content.allowedVariables content.allowUnknown

end PromptContent

end

/-! ### The names of a version -/

theorem PromptVersionCreate.content_eq_ok {data : PromptVersionCreate} {content : PromptContent}
    (accepted : data.content = .ok content) :
    (Format.pieces data.userPromptTemplate.toList).2 = false ∧
      (∀ name ∈ referenced data.userPromptTemplate, name ∈ data.declaredVariables.map Prod.fst) ∧
      { data with declaredVariables := sanitizeEntries 2000 [] data.declaredVariables }
        = content := by
  simp only [PromptVersionCreate.content, bind_eq_ok] at accepted
  obtain ⟨-, -, names, read, stored⟩ := accepted
  unfold variablesOf at read
  split at read
  · cases read
  · rename_i closed
    obtain rfl : referenced data.userPromptTemplate = names := by simpa using read
    split at stored
    · rename_i declared
      refine ⟨by simpa using closed, ?_, by simpa using stored⟩
      simpa using declared
    · cases stored

theorem mem_setKey {entries : List (String × Json)} {key key' : String} {item : Json} :
    key' ∈ (setKey entries key item).map Prod.fst ↔ key' = key ∨ key' ∈ entries.map Prod.fst := by
  unfold setKey
  split
  · rename_i there
    have same : (entries.map fun entry => if entry.1 = key then (key, item) else entry).map Prod.fst
        = entries.map Prod.fst := by
      rw [List.map_map]
      refine List.map_congr_left fun entry _ => ?_
      by_cases h : entry.1 = key <;> simp [h]
    rw [same]
    constructor
    · exact .inr
    · rintro (rfl | kept)
      · exact there
      · exact kept
  · rw [List.map_append, List.mem_append, List.map_singleton, List.mem_singleton, or_comm]

/-- Texts without attributes, and no other object. -/
def texts : Format.Objects Empty where
  digit := decimalDigit
  allocates length := length < 4294967296
  reprText text := '\'' :: text ++ ['\'']
  asciiText text := '\'' :: text ++ ['\'']
  getattr _ _ := .error (.other "AttributeError")
  getitem := Empty.elim
  str := Empty.elim
  repr := Empty.elim
  ascii := Empty.elim
  format := Empty.elim

/-- A version with an escaped brace, a conversion and a specification. -/
def briefing : PromptVersionCreate where
  systemPrompt := "Describe the game."
  userPromptTemplate := "\x7b\x7b\x7bname!s:>6\x7d\x7d\x7d \x7bgoal\x7d"
  declaredVariables := [("name", .null), ("goal", .null), ("token", .null)]

def storedBriefing : PromptContent where
  systemPrompt := "Describe the game."
  userPromptTemplate := "\x7b\x7b\x7bname!s:>6\x7d\x7d\x7d \x7bgoal\x7d"
  declaredVariables := [("name", .null), ("goal", .null)]

theorem briefing_content : briefing.content = .ok storedBriefing := by rfl

theorem briefing_fields : ∀ field ∈ Format.fields briefing.userPromptTemplate.toList,
    Format.first field.name = field.name ∧ '\x7b' ∉ field.spec ∧ field.IsSimple texts := by
  have read : Format.fields briefing.userPromptTemplate.toList
      = [⟨['n', 'a', 'm', 'e'], some 's', ['>', '6']⟩, ⟨['g', 'o', 'a', 'l'], none, []⟩] := by
    decide +kernel
  rw [read]
  simp only [List.forall_mem_cons]
  refine ⟨⟨by decide, by decide, ?_⟩, ⟨by decide, by decide, ?_⟩, by simp⟩
  · exact ⟨by decide +kernel, by simp [Format.Objects.conversions], by decide +kernel⟩
  · exact ⟨by decide +kernel, by simp [Format.Objects.conversions], by decide +kernel⟩

section
variable {Obj α : Type} {objects : Format.Objects Obj}
  {str : α → Except Format.Failure (List Char)} {values : List (String × α)}

/-- The template has been filled in, if only to a prompt that is too long. -/
def IsFilled (result : Except RenderFailure String) : Prop :=
  result = .error (.validation "Rendered prompt exceeds the size limit") ∨ ∃ text, result = .ok text

theorem listed_ne {message text : String} {names : List String}
    (front : message.toList.head? ≠ text.toList.head?) (nonempty : message.toList ≠ []) :
    listed message names ≠ .validation text := by
  intro same
  have chars := congrArg String.toList (RenderFailure.validation.inj same)
  rw [String.toList_append] at chars
  apply front
  rw [← chars, List.head?_append_of_ne_nil _ nonempty]

theorem lookup_map {β : Type} (f : α → β) (values : List (String × α)) (name : String) :
    (values.map fun value => (value.1, f value.2)).lookup name = (values.lookup name).map f := by
  induction values with
  | nil => rfl
  | cons value values ih =>
    obtain ⟨name', a⟩ := value
    by_cases same : name == name'
    · simp [List.lookup_cons, same]
    · simpa [List.lookup_cons, same] using ih

/-- Values that all have a text keep their names. -/
theorem safeValues_eq_ok (texts : ∀ value ∈ values, ∃ text, str value.2 = .ok text) :
    ∃ safe, safeValues str values = .ok safe ∧ safe.map Prod.fst = values.map Prod.fst := by
  induction values with
  | nil => exact ⟨[], rfl, rfl⟩
  | cons value values ih =>
    obtain ⟨text, shown⟩ := texts value List.mem_cons_self
    obtain ⟨safe, rest, same⟩ := ih fun value member => texts value (List.mem_cons_of_mem _ member)
    refine ⟨(value.1, text) :: safe, ?_, by simp [same]⟩
    unfold safeValues at rest ⊢
    rw [List.mapM_cons, rest]
    simp only [shown]
    rfl

/-- A template that is well formed is filled in once the names are right. -/
theorem render_cases (objects : Format.Objects Obj) {template : String}
    (allowedVariables : List String) (allowUnknown : Bool) {safe : List (String × List Char)}
    (closed : (Format.pieces template.toList).2 = false)
    (shown : safeValues str values = .ok safe) :
    (∃ names, render objects str template values allowedVariables allowUnknown
        = .error (listed "Missing prompt variables: " names)) ∧
      ¬ (∀ name ∈ referenced template, name ∈ values.map Prod.fst) ∨
    (∃ names, render objects str template values allowedVariables allowUnknown
        = .error (listed "Unknown prompt variables: " names)) ∧
      ¬ (allowUnknown = true ∨ ∀ name ∈ values.map Prod.fst, name ∈ allowedVariables) ∨
    render objects str template values allowedVariables allowUnknown
        = filled objects template safe ∧
      (∀ name ∈ referenced template, name ∈ values.map Prod.fst) ∧
      (allowUnknown = true ∨ ∀ name ∈ values.map Prod.fst, name ∈ allowedVariables) := by
  have read : variablesOf template = .ok (referenced template) := by
    simp only [variablesOf, closed]
    rfl
  have none_left : ∀ {names others : List String},
      names.filter (· ∉ others) = [] ↔ ∀ name ∈ names, name ∈ others := by
    intro names others
    simp [List.filter_eq_nil_iff]
  simp only [render, read, ok_bind, shown, ← none_left]
  by_cases missing : (referenced template).filter (· ∉ values.map Prod.fst) = []
  · by_cases unknown : (values.map Prod.fst).filter (· ∉ allowedVariables) ≠ [] ∧ allowUnknown = false
    · refine .inr (.inl ⟨⟨_, by rw [if_neg (not_not_intro missing), if_pos unknown]⟩, ?_⟩)
      rintro (permitted | allowed)
      · rw [permitted] at unknown
        cases unknown.2
      · exact unknown.1 allowed
    · refine .inr (.inr ⟨by rw [if_neg (not_not_intro missing), if_neg unknown], missing, ?_⟩)
      rw [not_and_or, not_not, Bool.not_eq_false] at unknown
      exact unknown.symm
  · exact .inl ⟨⟨_, by rw [if_pos missing]⟩, missing⟩

theorem filled_isFilled_iff {template : String} {safe : List (String × List Char)} :
    IsFilled (filled objects template safe)
      ↔ ∃ text, objects.formatMap (fun name => safe.lookup (String.ofList name)) template.toList
        = .ok text := by
  unfold filled
  split
  · rename_i failure failed
    rw [failed]
    split
    · simp [IsFilled]
    · simp [IsFilled]
  · rename_i text built
    rw [built]
    split
    · simp [IsFilled]
    · simp [IsFilled]

theorem not_isFilled_listed {names : List String} {message : String}
    (known : message = "Missing prompt variables: " ∨ message = "Unknown prompt variables: ") :
    ¬ IsFilled (.error (listed message names)) := by
  have different : listed message names
      ≠ .validation "Rendered prompt exceeds the size limit" := by
    obtain rfl | rfl := known <;> exact listed_ne (by decide) (by decide)
  rintro (same | ⟨text, none⟩)
  · exact different (Except.error.inj same)
  · cases none

/-- What a rendering with the right names comes to depends on the template alone, if its fields are
names with specifications that have no fields. -/
theorem render_isFilled_iff {template : String} {allowedVariables : List String}
    {allowUnknown : Bool} (closed : (Format.pieces template.toList).2 = false)
    (simple : ∀ field ∈ Format.fields template.toList,
      Format.first field.name = field.name ∧ '\x7b' ∉ field.spec)
    (texts : ∀ value ∈ values, ∃ text, str value.2 = .ok text) :
    IsFilled (render objects str template values allowedVariables allowUnknown)
      ↔ (∀ name ∈ referenced template, name ∈ values.map Prod.fst) ∧
        (allowUnknown = true ∨ ∀ name ∈ values.map Prod.fst, name ∈ allowedVariables) ∧
        ∀ field ∈ Format.fields template.toList, field.IsSimple objects := by
  obtain ⟨safe, shown, same⟩ := safeValues_eq_ok texts
  obtain ⟨⟨names, failed⟩, missing⟩ | ⟨⟨names, failed⟩, unknown⟩ | ⟨shows, given, permitted⟩ :=
    render_cases objects _ _ closed shown
  · rw [failed]
    exact iff_of_false (not_isFilled_listed (.inl rfl)) fun all => missing all.1
  · rw [failed]
    exact iff_of_false (not_isFilled_listed (.inr rfl)) fun all => unknown all.2.1
  · rw [shows, filled_isFilled_iff]
    have known : ∀ field ∈ Format.fields template.toList, objects.isNamed field.name = true →
        (safe.lookup (String.ofList field.name)).isSome := by
      intro field member named
      have nonempty : field.name ≠ [] := (of_decide_eq_true named).1
      have listed : String.ofList field.name ∈ referenced template :=
        List.mem_map_of_mem (List.mem_dedup.mpr (List.mem_filter.mpr
          ⟨List.mem_map_of_mem member, by simpa using nonempty⟩))
      have key := given _ listed
      rw [← same] at key
      obtain ⟨entry, among, name⟩ := List.mem_map.mp key
      rw [List.lookup_isSome_iff]
      exact ⟨entry, among, by simpa using name.symm⟩
    rw [Format.Objects.formatMap,
      Format.Objects.build_ok_iff (fun field member => (simple field member).1) (fun field member => (simple field member).2) known]
    exact ⟨fun all => ⟨given, permitted, all.2⟩, fun all => ⟨closed, all.2.2⟩⟩

/-- No exception but that of a memory that is used up leaves the rendering of a stored version whose
fields are names alone; and whether it is filled in depends on the names and on the template, never
on the texts of the values. -/
theorem resolve_laws {data : PromptVersionCreate} {content : PromptContent}
    (accepted : data.content = .ok content)
    (texts : ∀ value ∈ values, ∃ text, str value.2 = .ok text) :
    (Format.Direct 2 data.userPromptTemplate.toList →
      ∀ failure, content.resolve objects str values = .error (.other failure) →
        failure = .memoryError) ∧
    ((∀ field ∈ Format.fields data.userPromptTemplate.toList,
        Format.first field.name = field.name ∧ '\x7b' ∉ field.spec) →
      (IsFilled (content.resolve objects str values)
        ↔ (∀ name ∈ referenced data.userPromptTemplate, name ∈ values.map Prod.fst) ∧
          (content.allowUnknown = true ∨
            ∀ name ∈ values.map Prod.fst, name ∈ content.allowedVariables) ∧
          ∀ field ∈ Format.fields data.userPromptTemplate.toList, field.IsSimple objects)) := by
  obtain ⟨closed, -, rfl⟩ := PromptVersionCreate.content_eq_ok accepted
  refine ⟨fun direct failure failed => ?_, fun simple => render_isFilled_iff closed simple texts⟩
  obtain ⟨safe, shown, -⟩ := safeValues_eq_ok texts
  obtain ⟨⟨names, missing⟩, -⟩ | ⟨⟨names, unknown⟩, -⟩ | ⟨shows, -⟩ :=
    render_cases objects _ _ closed shown
  · rw [PromptContent.resolve, missing] at failed
    cases failed
  · rw [PromptContent.resolve, unknown] at failed
    cases failed
  · rw [PromptContent.resolve, shows] at failed
    unfold filled at failed
    split at failed
    · rename_i failure' built
      split at failed
      · cases failed
      · rename_i uncommon
        cases failed
        rcases Format.Objects.build_error direct built with missing | unfit | memory
        · exact absurd (.inl missing) uncommon
        · exact absurd (.inr unfit) uncommon
        · exact memory
    · split at failed <;> cases failed

theorem resolve_laws_example :
    IsFilled (storedBriefing.resolve texts Except.ok [("name", ['a']), ("goal", ['\x7b', 'b'])]) :=
  ((resolve_laws briefing_content fun value _ => ⟨value.2, rfl⟩).2
    fun field member => ⟨(briefing_fields field member).1, (briefing_fields field member).2.1⟩).mpr
      ⟨by decide +kernel, by decide +kernel, fun field member => (briefing_fields field member).2.2⟩

/-- A template that is printed from texts and plain names is rendered part by part; braces in a value
are never read. -/
theorem render_printed (text : α → List Char) (parts : List Format.Part)
    {allowedVariables : List String} {allowUnknown : Bool} (plain : ∀ part ∈ parts, part.IsPlain)
    (named : ∀ field ∈ parts.filterMap Format.Part.field, objects.isNamed field.name = true)
    (texts : ∀ value ∈ values, str value.2 = .ok (text value.2))
    (given : ∀ field ∈ parts.filterMap Format.Part.field,
      String.ofList field.name ∈ values.map Prod.fst)
    (permitted : allowUnknown = true ∨ ∀ name ∈ values.map Prod.fst, name ∈ allowedVariables) :
    render objects str (String.ofList (Format.printed parts)) values allowedVariables allowUnknown
      = let prompt := parts.flatMap (Format.Part.filled fun name =>
          ((values.lookup (String.ofList name)).map text).getD [])
        if maxRenderedPromptCharacters < prompt.length then
          .error (.validation "Rendered prompt exceeds the size limit")
        else .ok (String.ofList prompt) := by
  obtain ⟨closed, fields⟩ := Format.fields_printed plain
  have shown : safeValues str values = .ok (values.map fun value => (value.1, text value.2)) := by
    refine Format.Objects.mapM_of_ok fun value member => ?_
    simp only [texts value member]
  have listed : ∀ name ∈ referenced (String.ofList (Format.printed parts)),
      name ∈ values.map Prod.fst := by
    intro name member
    obtain ⟨chars, among, rfl⟩ := List.mem_map.mp member
    have read := (List.mem_filter.mp (List.mem_dedup.mp among)).1
    rw [String.toList_ofList, fields] at read
    obtain ⟨field, there, rfl⟩ := List.mem_map.mp read
    exact given field there
  have closed' : (Format.pieces (String.ofList (Format.printed parts)).toList).2 = false := by
    rw [String.toList_ofList]
    exact closed
  obtain ⟨-, missing⟩ | ⟨-, unknown⟩ | ⟨shows, -⟩ :=
    render_cases objects allowedVariables allowUnknown closed' shown
  · exact absurd listed missing
  · exact absurd permitted unknown
  rw [shows]
  have built : objects.formatMap
      (fun name => (values.map fun value => (value.1, text value.2)).lookup (String.ofList name))
      (String.ofList (Format.printed parts)).toList
        = .ok (parts.flatMap (Format.Part.filled fun name =>
          ((values.lookup (String.ofList name)).map text).getD [])) := by
    rw [String.toList_ofList, Format.Objects.formatMap]
    refine Format.Objects.build_printed plain fun field member => ⟨named field member, ?_⟩
    obtain ⟨value, known⟩ : ∃ value, values.lookup (String.ofList field.name) = some value := by
      obtain ⟨entry, among, name⟩ := List.mem_map.mp (given field member)
      exact Option.isSome_iff_exists.mp
        (List.lookup_isSome_iff.mpr ⟨entry, among, by simpa using name.symm⟩)
    rw [lookup_map, known]
    rfl
  simp only [filled, built]

theorem render_printed_example :
    render texts Except.ok "\x7b\x7b\x7bgoal\x7d\x7d\x7d" [("goal", ['\x7b', 'b'])] ["goal"] false
      = .ok "\x7b\x7bb\x7d" :=
  render_printed id [.text ['\x7b'], .name ['g', 'o', 'a', 'l'], .text ['\x7d']]
    (by decide +kernel) (by decide +kernel) (fun _ _ => rfl) (by decide +kernel) (by decide +kernel)

end

end CyberLegends.Prompts
