import CyberLegends.Agents.Sanitization
import CyberLegends.Lib.Buckets
import Mathlib.Data.Finset.Card
import Mathlib.Data.Rat.Init

/-! What a document says twice and differently: the lines that declare a value, and the findings about
labels, sections and requirements with more than one value. -/

namespace CyberLegends.Documents

open CyberLegends.Core Lib Agents

/-! ### Lines -/

def isLineBreak (c : Char) : Bool :=
  c ∈ ['\n', '\r', '\x0b', '\x0c', '\x1c', '\x1d', '\x1e', '\u0085', '\u2028', '\u2029']

/-- The lines of a text without what ends them. -/
def splitlines : List Char → List (List Char)
  | [] => []
  | '\r' :: '\n' :: rest => [] :: splitlines rest
  | c :: rest =>
    if isLineBreak c then [] :: splitlines rest
    else
      match splitlines rest with
      | [] => [[c]]
      | line :: lines => (c :: line) :: lines

/-- Every run of white space as one blank. -/
def collapse : List Char → List Char
  | [] => []
  | c :: chars =>
    if isSpace c then
      if (chars.head?.map isSpace).getD false then collapse chars else ' ' :: collapse chars
    else c :: collapse chars

/-- What the language makes of letters. -/
structure Builtins where
  lower : String → String
  casefold : String → String

structure Declaration where
  label : String
  value : String
  line : ℕ
  deriving DecidableEq

section
variable (python : Builtins)

/-- The label and the value of a line, if it has a colon behind at most 80 characters. -/
def declared (rawLine : List Char) : Option (String × String) :=
  let line := strip isSpace rawLine
  let label := line.takeWhile (· ≠ ':')
  match line.dropWhile (· ≠ ':') with
  | [] => none
  | _ :: rest =>
    let value := rest.dropWhile isSpace
    if label = [] ∨ 80 < label.length ∨ value = [] then none
    else
      let label := python.lower (String.ofList (strip isSpace label))
      some (String.ofList (collapse label.toList), String.ofList (collapse (strip isSpace value)))

def declarations (text : List Char) : List Declaration :=
  ((splitlines text).zipIdx 1).filterMap fun (rawLine, line) =>
    (declared python rawLine).map fun (label, value) => { label, value, line }

end

/-! ### Labels -/

inductive Kind
  | date
  | deadline
  | budget
  | productName
  | priority
  | total
  | duplicatedSection
  | contradictoryRequirement
  deriving DecidableEq, Repr

namespace Kind

def value : Kind → String
  | date => "DATE"
  | deadline => "DEADLINE"
  | budget => "BUDGET"
  | productName => "PRODUCT_NAME"
  | priority => "PRIORITY"
  | total => "TOTAL"
  | duplicatedSection => "DUPLICATED_SECTION"
  | contradictoryRequirement => "CONTRADICTORY_REQUIREMENT"

def aliases : Kind → List String
  | date => ["date", "launch date", "start date"]
  | deadline => ["deadline", "due date"]
  | budget => ["budget", "campaign budget"]
  | productName => ["product", "product name", "campaign", "campaign name"]
  | priority => ["priority", "priority level"]
  | total => ["total", "grand total"]
  | duplicatedSection | contradictoryRequirement => []

/-- The kinds that have labels of their own. -/
def labelled : List Kind := [date, deadline, budget, productName, priority, total]

/-- The kind in small letters, with blanks. -/
def words (kind : Kind) : String :=
  String.ofList (kind.value.toList.map fun c => if c = '_' then ' ' else c.toLower)

end Kind

/-- What a label names as a requirement. -/
def requirementOf (label : String) : Option String :=
  if "requirement".toList.isPrefixOf label.toList then
    let rest := label.toList.drop 11
    match if rest.head? = some 's' then rest.tail else rest with
    | [] => none
    | c :: name =>
      let name := name.dropWhile isSpace
      if isSpace c ∧ name ≠ [] then some (String.ofList name) else none
  else none

/-- What the loop over the lines has put aside. -/
structure Collected where
  values : List (Kind × List Declaration)
  repeated : List (String × List Declaration)
  requirements : List (String × List Declaration)

namespace Collected

def start : Collected where
  values := Kind.labelled.map fun kind => (kind, [])
  repeated := []
  requirements := []

def add (collected : Collected) (d : Declaration) : Collected where
  values := collected.values.map fun group =>
    if d.label ∈ group.1.aliases then (group.1, group.2 ++ [d]) else group
  repeated := Buckets.add collected.repeated d.label d
  requirements :=
    (requirementOf d.label).elim collected.requirements fun requirement =>
      Buckets.add collected.requirements requirement d

def ofDeclarations (ds : List Declaration) : Collected := ds.foldl add start

end Collected

/-! ### Findings -/

structure DocumentInconsistency where
  type : String
  severity : String
  sourceLocations : List String
  description : String
  evidenceSummary : String
  detectionMethod : String
  confidence : ℚ
  suggestedResolution : String
  deriving DecidableEq

def firstCharacters (n : ℕ) (text : String) : String := String.ofList (text.toList.take n)

def location (d : Declaration) : String := "line " ++ toString d.line

/-- The finding about entries with more than one value. -/
def report (kind : Kind) (entries : List Declaration) (label : Option String) :
    DocumentInconsistency :=
  let evidence := "; ".intercalate
    (entries.map fun d => location d ++ ": " ++ firstCharacters 120 d.value)
  let subject := if label.getD "" = "" then kind.words else label.getD ""
  { type := kind.value
    severity := if kind ∈ [.budget, .deadline, .total] then "HIGH" else "MEDIUM"
    sourceLocations := entries.map location
    description := "Conflicting values were declared for " ++ subject ++ "."
    evidenceSummary := firstCharacters 1000 evidence
    detectionMethod := "DETERMINISTIC"
    confidence := 1
    suggestedResolution :=
      "Confirm one authoritative " ++ subject ++ " value and update duplicates." }

section
variable (python : Builtins)

def conflictFinding (kind : Kind) (entries : List Declaration) (label : Option String) :
    Option DocumentInconsistency :=
  if (entries.map fun d => python.casefold d.value).dedup.length < 2 then none
  else some (report kind entries label)

/-- The labels of all kinds. -/
def aliasNames : List String := Kind.labelled.flatMap Kind.aliases

def findings (collected : Collected) : List DocumentInconsistency :=
  (collected.values.filterMap fun group => conflictFinding python group.1 group.2 none) ++
  ((collected.repeated.filter fun group => group.1 ∉ aliasNames).filterMap fun group =>
    conflictFinding python .duplicatedSection group.2 (some group.1)) ++
  collected.requirements.filterMap fun group =>
    conflictFinding python .contradictoryRequirement group.2 (some group.1)

def deterministicInconsistencies (text : List Char) : List DocumentInconsistency :=
  (findings python (.ofDeclarations (declarations python text))).take 50

end

/-! ### Conflicts -/

/-- What two lines can be at odds about. -/
inductive Subject
  | kind (kind : Kind)
  | label (name : String)
  | requirement (name : String)
  deriving DecidableEq

namespace Subject

/-- Whether a line with the label is about the subject. -/
def covers : Subject → String → Bool
  | kind k, text => text ∈ k.aliases
  | label name, text => text = name ∧ name ∉ aliasNames
  | requirement name, text => requirementOf text = some name

def entries (subject : Subject) (ds : List Declaration) : List Declaration :=
  ds.filter fun d => subject.covers d.label

/-- The finding about the subject. -/
def finding (ds : List Declaration) (subject : Subject) : DocumentInconsistency :=
  match subject with
  | kind k => report k (subject.entries ds) none
  | label name => report .duplicatedSection (subject.entries ds) (some name)
  | requirement name => report .contradictoryRequirement (subject.entries ds) (some name)

/-- Two lines about the subject have different values. -/
def Conflicting (python : Builtins) (ds : List Declaration) (subject : Subject) : Prop :=
  ∃ d ∈ subject.entries ds, ∃ d' ∈ subject.entries ds,
    python.casefold d.value ≠ python.casefold d'.value

instance instDecidableConflicting (python : Builtins) (ds : List Declaration) (subject : Subject) :
    Decidable (subject.Conflicting python ds) :=
  inferInstanceAs (Decidable (∃ d ∈ subject.entries ds, ∃ d' ∈ subject.entries ds,
    python.casefold d.value ≠ python.casefold d'.value))

end Subject

/-- The loop has put aside what each label, section and requirement has. -/
theorem ofDeclarations_eq (ds : List Declaration) :
    Collected.ofDeclarations ds =
      { values := Kind.labelled.map fun kind => (kind, (Subject.kind kind).entries ds)
        repeated := Buckets.collect (fun d => some d.label) ds
        requirements := Buckets.collect (fun d => requirementOf d.label) ds } := by
  induction ds using List.reverseRecOn with
  | nil => rfl
  | append_singleton ds d ih =>
    have step : Collected.ofDeclarations (ds ++ [d]) = (Collected.ofDeclarations ds).add d :=
      List.foldl_append
    rw [step, ih, Buckets.collect_concat, Buckets.collect_concat]
    simp only [Collected.add, Option.elim_some, List.map_map, Collected.mk.injEq, and_true]
    refine List.map_congr_left fun kind _ => ?_
    by_cases named : d.label ∈ kind.aliases
    · simp [Subject.entries, Subject.covers, named]
    · simp [Subject.entries, Subject.covers, named]

/-- A finding is made exactly of entries that are at odds. -/
theorem conflictFinding_eq {python : Builtins} {kind : Kind} {entries : List Declaration}
    {label : Option String} :
    conflictFinding python kind entries label
      = if ∃ d ∈ entries, ∃ d' ∈ entries, python.casefold d.value ≠ python.casefold d'.value then
          some (report kind entries label)
        else none := by
  have several : 1 < (entries.map fun d => python.casefold d.value).dedup.length
      ↔ ∃ d ∈ entries, ∃ d' ∈ entries, python.casefold d.value ≠ python.casefold d'.value := by
    rw [← List.card_toFinset, Finset.one_lt_card]
    simp only [List.mem_toFinset, List.mem_map, exists_exists_and_eq_and, ne_eq]
  unfold conflictFinding
  split
  · rename_i few
    rw [if_neg fun conflict => absurd (several.mpr conflict) (by omega)]
  · rename_i many
    rw [if_pos (several.mp (by omega))]

/-- The labels of no kind, in the order in which they come. -/
def labels (ds : List Declaration) : List String :=
  ((Buckets.collect (fun d => some d.label) ds).map Prod.fst).filter (· ∉ aliasNames)

def requirements (ds : List Declaration) : List String :=
  (Buckets.collect (fun d => requirementOf d.label) ds).map Prod.fst

/-- The subjects of the lines, in the order of their findings. -/
def subjects (ds : List Declaration) : List Subject :=
  Kind.labelled.map .kind ++ ((labels ds).map .label ++ (requirements ds).map .requirement)

theorem subjects_nodup (ds : List Declaration) : (subjects ds).Nodup := by
  have kinds : (Kind.labelled.map Subject.kind).Nodup := by decide
  have distinct : (labels ds).Nodup := Buckets.collect_nodup.filter _
  have named : ((labels ds).map Subject.label).Nodup :=
    distinct.map fun _ _ same => Subject.label.inj same
  have required : ((requirements ds).map Subject.requirement).Nodup :=
    Buckets.collect_nodup.map fun _ _ same => Subject.requirement.inj same
  refine List.nodup_append.mpr ⟨kinds, List.nodup_append.mpr ⟨named, required, ?_⟩, ?_⟩
  · intro subject first other second same
    obtain ⟨name, -, rfl⟩ := List.mem_map.mp first
    obtain ⟨name', -, rfl⟩ := List.mem_map.mp second
    cases same
  · intro subject first other second same
    obtain ⟨kind, -, rfl⟩ := List.mem_map.mp first
    obtain second | second := List.mem_append.mp second
    · obtain ⟨name, -, rfl⟩ := List.mem_map.mp second
      cases same
    · obtain ⟨name, -, rfl⟩ := List.mem_map.mp second
      cases same

section
variable {python : Builtins} {ds : List Declaration} {subject : Subject}

theorem mem_subjects (conflict : subject.Conflicting python ds) : subject ∈ subjects ds := by
  obtain ⟨d, member, -⟩ := conflict
  obtain ⟨listed, covered⟩ := List.mem_filter.mp member
  cases subject with
  | kind k =>
    refine List.mem_append_left _ (List.mem_map_of_mem ?_)
    have named : d.label ∈ k.aliases := by simpa [Subject.covers] using covered
    cases k <;> first | decide | cases named
  | label name =>
    obtain ⟨rfl, plain⟩ : d.label = name ∧ name ∉ aliasNames := by
      simpa [Subject.covers] using covered
    refine List.mem_append_right _ (List.mem_append_left _ (List.mem_map_of_mem ?_))
    refine List.mem_filter.mpr ⟨?_, by simpa using plain⟩
    have bucket : ds.filter (fun d' => some d'.label = some d.label) ≠ [] :=
      List.ne_nil_of_mem (List.mem_filter.mpr ⟨listed, by simp⟩)
    exact List.mem_map_of_mem (f := Prod.fst) (Buckets.mem_collect.mpr ⟨rfl, bucket⟩)
  | requirement name =>
    have required : requirementOf d.label = some name := by simpa [Subject.covers] using covered
    refine List.mem_append_right _ (List.mem_append_right _ (List.mem_map_of_mem ?_))
    have bucket : ds.filter (fun d' => requirementOf d'.label = some name) ≠ [] :=
      List.ne_nil_of_mem (List.mem_filter.mpr ⟨listed, by simpa using required⟩)
    exact List.mem_map_of_mem (f := Prod.fst) (Buckets.mem_collect.mpr ⟨rfl, bucket⟩)

theorem filterMap_findings {β : Type} {l : List β} {f : β → Option DocumentInconsistency}
    {of : β → Subject}
    (each : ∀ b ∈ l, f b = if (of b).Conflicting python ds then some ((of b).finding ds) else none) :
    l.filterMap f = ((l.map of).filter (·.Conflicting python ds)).map (·.finding ds) := by
  induction l with
  | nil => rfl
  | cons b l ih =>
    have rest := ih fun b member => each b (List.mem_cons_of_mem _ member)
    rw [List.filterMap_cons, each b List.mem_cons_self, rest, List.map_cons, List.filter_cons]
    by_cases conflict : (of b).Conflicting python ds <;> simp [conflict]

theorem entries_label {name : String} (plain : name ∉ aliasNames) :
    (Subject.label name).entries ds = ds.filter fun d => some d.label = some name := by
  refine List.filter_congr fun d _ => ?_
  simp [Subject.covers, plain]

/-- The findings are those about the subjects with a conflict. -/
theorem findings_eq : findings python (.ofDeclarations ds)
    = ((subjects ds).filter (·.Conflicting python ds)).map (·.finding ds) := by
  have ofLabels : (labels ds).map Subject.label
      = ((Buckets.collect (fun d => some d.label) ds).filter fun group =>
        group.1 ∉ aliasNames).map fun group => .label group.1 := by
    rw [labels, List.filter_map, List.map_map]
    rfl
  have ofRequirements : (requirements ds).map Subject.requirement
      = (Buckets.collect (fun d => requirementOf d.label) ds).map
        fun group => .requirement group.1 := by
    rw [requirements, List.map_map]
    rfl
  rw [ofDeclarations_eq, findings, subjects, ofLabels, ofRequirements]
  rw [List.filter_append, List.filter_append, List.map_append, List.map_append, List.append_assoc]
  congr 1
  · rw [List.filterMap_map]
    exact filterMap_findings fun kind _ => conflictFinding_eq
  congr 1
  · refine filterMap_findings fun group member => ?_
    obtain ⟨label, entries⟩ := group
    obtain ⟨listed, plain⟩ := List.mem_filter.mp member
    obtain ⟨rfl, -⟩ := Buckets.mem_collect.mp listed
    dsimp only
    rw [conflictFinding_eq, ← entries_label (by simpa using plain)]
    rfl
  · refine filterMap_findings fun group member => ?_
    obtain ⟨requirement, entries⟩ := group
    obtain ⟨rfl, -⟩ := Buckets.mem_collect.mp member
    dsimp only
    rw [conflictFinding_eq]
    rfl

/-- Every conflict has one finding, with all lines about its subject, and nothing else is found;
beyond fifty findings the last ones are left out, but never one about a kind. -/
theorem inconsistencies_laws (python : Builtins) (text : List Char) :
    ∃ found : List Subject, found.Nodup ∧
      (∀ subject, subject ∈ found ↔ subject.Conflicting python (declarations python text)) ∧
      deterministicInconsistencies python text
        = (found.take 50).map (·.finding (declarations python text)) ∧
      ∀ kind, .kind kind ∈ found → .kind kind ∈ found.take 50 := by
  generalize lines : declarations python text = ds
  refine ⟨(subjects ds).filter (·.Conflicting python ds), (subjects_nodup ds).filter _, ?_, ?_, ?_⟩
  · intro subject
    rw [List.mem_filter, decide_eq_true_iff]
    exact ⟨fun both => both.2, fun conflict => ⟨mem_subjects conflict, conflict⟩⟩
  · rw [deterministicInconsistencies, lines, findings_eq, List.map_take]
  · intro kind member
    rw [subjects, List.filter_append] at member ⊢
    generalize kinds : (Kind.labelled.map Subject.kind).filter (·.Conflicting python ds) = first
      at member ⊢
    have few : first.length ≤ 50 := by
      have short := List.length_filter_le (fun s => decide (Subject.Conflicting python ds s))
        (Kind.labelled.map Subject.kind)
      rw [kinds] at short
      exact Nat.le_trans short (by decide)
    rw [List.take_append, List.take_of_length_le few]
    refine List.mem_append_left _ ((List.mem_append.mp member).resolve_right fun later => ?_)
    obtain later | later := List.mem_append.mp (List.mem_filter.mp later).1
    · obtain ⟨name, -, same⟩ := List.mem_map.mp later
      cases same
    · obtain ⟨name, -, same⟩ := List.mem_map.mp later
      cases same

end

end CyberLegends.Documents
