import Dispatch.Foundation.Binary64
import Dispatch.Foundation.JsWords
import Dispatch.Foundation.Json

/-! # Task executors

Four kinds of workers execute tasks, each with its own copy of the code.
-/

namespace Dispatch.Worker

structure Language (Number : Type) where
  toLowerCase : JsString → JsString
  /-- `JSON.parse`, unless it throws. -/
  parse : JsString → Option (Json Number)
  number : ℚ → Number

/-! ## Blocks of JSON -/

def openingBrace : UInt16 := 0x7b

def closingBrace : UInt16 := 0x7d

def blockRest (nested : Bool) : JsString → Option JsString
  | [] => none
  | unit :: rest =>
    if unit = openingBrace then
      if nested then none else (blockRest true rest).map (unit :: ·)
    else if unit = closingBrace then
      if nested then (blockRest false rest).map (unit :: ·) else some [unit]
    else (blockRest nested rest).map (unit :: ·)

def blocksFrom : Nat → JsString → List JsString
  | _, [] => []
  | matched + 1, _ :: rest => blocksFrom matched rest
  | 0, unit :: rest =>
    if unit = openingBrace then
      match blockRest false rest with
      | some block => (unit :: block) :: blocksFrom block.length rest
      | none => blocksFrom 0 rest
    else blocksFrom 0 rest

/-- `input.match(pattern) ?? []` -/
def blocks (input : JsString) : List JsString :=
  blocksFrom 0 input

/-! ## Tasks -/

section Tasks

variable {Number : Type} (language : Language Number)

def object (members : List (String × Json Number)) : Json Number :=
  .object (.ofList (members.map fun member => (↑member.1, member.2)))

def truncated (input : JsString) : JsString :=
  if 200 < input.length then input.take 200 ++ ("..." : String) else input

def summarize (input : JsString) : Json Number :=
  let words := input.trim.split
  object [("summary", .string (truncated input)),
    ("word_count", .number (language.number words.length))]

def score (positive negative : List String) (lower : JsString) : ℤ :=
  let score := positive.foldl (fun (score : ℤ) (word : String) =>
    if lower.includes word then score + 1 else score) 0
  negative.foldl (fun (score : ℤ) (word : String) =>
    if lower.includes word then score - 1 else score) score

def sentiment (score : ℤ) : String :=
  if 0 < score then "positive" else if score < 0 then "negative" else "neutral"

def confidence (score : ℤ) : ℚ :=
  let product := Binary64.mul score.natAbs (Binary64.round (2 / 10))
  min 1 (Binary64.add product (Binary64.round (3 / 10)))

def classify (positive negative : List String) (input : JsString) :
    Json Number :=
  let score := score positive negative (language.toLowerCase input)
  object [("sentiment", .string (sentiment score)),
    ("confidence", .number (language.number (confidence score)))]

def extractJson (input : JsString) : Json Number :=
  let parsed := (blocks input).filterMap language.parse
  object [("extracted", .array (.ofList parsed)),
    ("count", .number (language.number parsed.length))]

def executeTaskWith (summarize : JsString → Json Number)
    (positive negative : List String) (taskType input : JsString) :
    Json Number :=
  if taskType = ("summarize" : String) then summarize input
  else if taskType = ("classify" : String) then
    classify language positive negative input
  else if taskType = ("extract_json" : String) then extractJson language input
  else
    object [("error", .string (("Unknown task_type: " : String) ++ taskType))]

/-! ## Workers -/

def Desktop.executeTask : JsString → JsString → Json Number :=
  executeTaskWith language (summarize language)
    ["good", "great", "excellent", "amazing", "love", "happy", "best",
      "wonderful", "fantastic"]
    ["bad", "terrible", "awful", "hate", "worst", "horrible", "poor",
      "disappointing", "sad"]

def Mobile.executeTask : JsString → JsString → Json Number :=
  executeTaskWith language (summarize language)
    ["good", "great", "excellent", "amazing", "love", "happy", "best",
      "wonderful", "fantastic"]
    ["bad", "terrible", "awful", "hate", "worst", "horrible", "poor",
      "disappointing", "sad"]

def SeekerSimulator.executeTask : JsString → JsString → Json Number :=
  executeTaskWith language (summarize language)
    ["good", "great", "excellent", "amazing", "love", "happy"]
    ["bad", "terrible", "awful", "hate", "worst", "horrible"]

def Cli.summarize (input : JsString) : Json Number :=
  let words := input.trim.split.filter fun word => !word.isEmpty
  object [("summary", .string (truncated input)),
    ("word_count", .number (language.number words.length))]

def Cli.executeTask : JsString → JsString → Json Number :=
  executeTaskWith language (Cli.summarize language)
    ["good", "great", "excellent", "amazing", "love", "happy", "best"]
    ["bad", "terrible", "awful", "hate", "worst", "horrible", "poor"]

inductive Kind
  | desktop
  | mobile
  | simulator
  | cli
  deriving DecidableEq

def executeTask : Kind → JsString → JsString → Json Number
  | .desktop => Desktop.executeTask language
  | .mobile => Mobile.executeTask language
  | .simulator => SeekerSimulator.executeTask language
  | .cli => Cli.executeTask language

end Tasks

/-! ## Summaries -/

theorem object_eq_iff {Number : Type} {first second : String}
    {left right left₂ right₂ : Json Number} :
    object [(first, left), (second, left₂)] =
        object [(first, right), (second, right₂)] ↔
      left = right ∧ left₂ = right₂ := by
  simp [object, JsonMembers.ofList]

section Summaries

variable {Number : Type} {language : Language Number}

structure Language.Distinguishes (language : Language Number) : Prop where
  counts : language.number 0 ≠ language.number 1
  confidences : Set.InjOn language.number (Set.range confidence)

theorem summarize_eq_iff (distinguishes : language.Distinguishes)
    (input : JsString) :
    summarize language input = Cli.summarize language input ↔
      input.trim ≠ [] := by
  rw [summarize, Cli.summarize, object_eq_iff, Json.number.injEq]
  constructor
  · rintro ⟨_, counts⟩ blank
    have one : (JsString.split []).length = 1 := by decide
    have none : ((JsString.split []).filter fun word =>
        !word.isEmpty).length = 0 := by
      decide
    rw [blank, one, none, Nat.cast_one, Nat.cast_zero] at counts
    exact distinguishes.counts counts.symm
  · intro filled
    refine ⟨rfl, ?_⟩
    rw [List.filter_eq_self.mpr]
    intro word member
    have nonempty := JsString.ne_nil_of_mem_split_trim filled member
    simp [nonempty]

end Summaries

/-! ## Scores -/

def occurrences (words : List String) (lower : JsString) : Nat :=
  words.countP fun word : String => lower.includes word

theorem foldl_occurrences (weight : ℤ) (words : List String) (lower : JsString)
    (start : ℤ) :
    words.foldl (fun (score : ℤ) (word : String) =>
        if lower.includes word then score + weight else score) start =
      start + weight * occurrences words lower := by
  induction words generalizing start with
  | nil => simp [occurrences]
  | cons word rest induction =>
    rw [List.foldl_cons, induction, occurrences, occurrences,
      List.countP_cons]
    split
    · rw [Nat.cast_succ, mul_add, mul_one]
      omega
    · rfl

theorem score_eq (positive negative : List String) (lower : JsString) :
    score positive negative lower =
      (occurrences positive lower : ℤ) - occurrences negative lower := by
  have up := foldl_occurrences 1 positive lower 0
  have down := foldl_occurrences (-1) negative lower
  simp only [← sub_eq_add_neg] at down
  rw [score, up, down]
  omega

theorem score_append (positive negative morePositive moreNegative : List String)
    (lower : JsString) :
    score (positive ++ morePositive) (negative ++ moreNegative) lower =
      score positive negative lower +
        score morePositive moreNegative lower := by
  simp only [score_eq, occurrences, List.countP_append]
  omega

theorem natAbs_score_le {positive negative : List String} {bound : Nat}
    (few : positive.length ≤ bound) (fewNegative : negative.length ≤ bound)
    (lower : JsString) : (score positive negative lower).natAbs ≤ bound := by
  have up : occurrences positive lower ≤ bound :=
    List.countP_le_length.trans few
  have down : occurrences negative lower ≤ bound :=
    List.countP_le_length.trans fewNegative
  rw [score_eq]
  omega

def Alike (left right : ℤ) : Prop :=
  left = right ∨ (4 ≤ left ∧ 4 ≤ right) ∨ (left ≤ -4 ∧ right ≤ -4)

instance (left right : ℤ) : Decidable (Alike left right) :=
  inferInstanceAs (Decidable (_ ∨ _))

theorem sentiment_eq_iff (left right : ℤ) :
    (sentiment left : JsString) = sentiment right ↔
      (0 < left ↔ 0 < right) ∧ (left < 0 ↔ right < 0) := by
  have distinct : ([("positive" : String), ("negative" : String),
      ("neutral" : String)].map JsString.ofString).Nodup := by
    decide
  simp only [List.map_cons, List.map_nil, List.nodup_cons, List.mem_cons,
    List.not_mem_nil, or_false, not_or] at distinct
  rcases distinct with ⟨⟨first, second⟩, third, _⟩
  unfold sentiment
  split_ifs <;>
    simp only [first, second, third, Ne.symm first, Ne.symm second,
      Ne.symm third, true_iff, false_iff] <;> omega

theorem confidence_eq_iff {left right : ℤ} (leftBound : left.natAbs ≤ 9)
    (rightBound : right.natAbs ≤ 9) :
    confidence left = confidence right ↔
      left.natAbs = right.natAbs ∨ (4 ≤ left.natAbs ∧ 4 ≤ right.natAbs) := by
  have table : ∀ left right : Fin 10,
      confidence left.val = confidence right.val ↔
        left.val = right.val ∨ (4 ≤ left.val ∧ 4 ≤ right.val) := by
    decide +kernel
  have entry := table ⟨left.natAbs, by omega⟩ ⟨right.natAbs, by omega⟩
  simp only [confidence, Int.natAbs_natCast] at entry ⊢
  exact entry

section Classifications

variable {Number : Type} {language : Language Number}

theorem classify_eq_iff (distinguishes : language.Distinguishes)
    {positive negative otherPositive otherNegative : List String}
    (few : positive.length ≤ 9 ∧ negative.length ≤ 9)
    (otherFew : otherPositive.length ≤ 9 ∧ otherNegative.length ≤ 9)
    (input : JsString) :
    classify language positive negative input =
        classify language otherPositive otherNegative input ↔
      Alike (score positive negative (language.toLowerCase input))
        (score otherPositive otherNegative (language.toLowerCase input)) := by
  have bound := natAbs_score_le few.1 few.2 (language.toLowerCase input)
  have otherBound := natAbs_score_le otherFew.1 otherFew.2
    (language.toLowerCase input)
  rw [classify, classify, object_eq_iff, Json.string.injEq, Json.number.injEq,
    distinguishes.confidences.eq_iff ⟨_, rfl⟩ ⟨_, rfl⟩, sentiment_eq_iff,
    confidence_eq_iff bound otherBound]
  unfold Alike
  omega

/-! ## All kinds of workers -/

def commonScore (lower : JsString) : ℤ :=
  score ["good", "great", "excellent", "amazing", "love", "happy"]
    ["bad", "terrible", "awful", "hate", "worst", "horrible"] lower

variable (language) in
def Interchangeable (taskType input : JsString) : Prop :=
  (taskType = ("summarize" : String) → input.trim ≠ []) ∧
    (taskType = ("classify" : String) →
      let lower := language.toLowerCase input
      Alike (commonScore lower)
          (commonScore lower + score ["best"] ["poor"] lower) ∧
        Alike (commonScore lower)
          (commonScore lower + score ["best", "wonderful", "fantastic"]
            ["poor", "disappointing", "sad"] lower))

variable (language) in
theorem executeTask_all_iff (taskType input : JsString) :
    (∀ first second, executeTask language first taskType input =
        executeTask language second taskType input) ↔
      SeekerSimulator.executeTask language taskType input =
          Cli.executeTask language taskType input ∧
        SeekerSimulator.executeTask language taskType input =
          Desktop.executeTask language taskType input := by
  constructor
  · intro same
    exact ⟨same .simulator .cli, same .simulator .desktop⟩
  · rintro ⟨cli, desktop⟩ first second
    have common : ∀ kind, executeTask language kind taskType input =
        SeekerSimulator.executeTask language taskType input := by
      intro kind
      cases kind with
      | simulator => rfl
      | cli => exact cli.symm
      | desktop | mobile => exact desktop.symm
    rw [common, common]

theorem cli_score (lower : JsString) :
    score ["good", "great", "excellent", "amazing", "love", "happy", "best"]
        ["bad", "terrible", "awful", "hate", "worst", "horrible", "poor"]
        lower =
      commonScore lower + score ["best"] ["poor"] lower := by
  rw [commonScore, ← score_append]
  rfl

theorem desktop_score (lower : JsString) :
    score ["good", "great", "excellent", "amazing", "love", "happy", "best",
          "wonderful", "fantastic"]
        ["bad", "terrible", "awful", "hate", "worst", "horrible", "poor",
          "disappointing", "sad"] lower =
      commonScore lower + score ["best", "wonderful", "fantastic"]
        ["poor", "disappointing", "sad"] lower := by
  rw [commonScore, ← score_append]
  rfl

/-- All workers give the same output for a task exactly if it is
interchangeable. -/
theorem executors_agree_iff (distinguishes : language.Distinguishes)
    (taskType input : JsString) :
    (∀ first second, executeTask language first taskType input =
        executeTask language second taskType input) ↔
      Interchangeable language taskType input := by
  rw [executeTask_all_iff]
  unfold SeekerSimulator.executeTask Cli.executeTask Desktop.executeTask
    executeTaskWith
  by_cases summary : taskType = ("summarize" : String)
  · have other : taskType ≠ ("classify" : String) := by
      rw [summary]
      decide
    simp only [if_pos summary, summarize_eq_iff distinguishes, and_true]
    exact ⟨fun filled => ⟨fun _ => filled, fun same => absurd same other⟩,
      fun conditions => conditions.1 summary⟩
  simp only [if_neg summary]
  by_cases classification : taskType = ("classify" : String)
  · simp only [if_pos classification]
    rw [classify_eq_iff distinguishes (by decide) (by decide),
      classify_eq_iff distinguishes (by decide) (by decide), cli_score,
      desktop_score]
    exact ⟨fun alike => ⟨fun same => absurd same summary, fun _ => alike⟩,
      fun conditions => conditions.2 classification⟩
  · simp only [if_neg classification, true_and, true_iff]
    exact ⟨fun same => absurd same summary,
      fun same => absurd same classification⟩

end Classifications

namespace Sample

def lowerUnit (unit : UInt16) : UInt16 :=
  if 0x41 ≤ unit.toNat ∧ unit.toNat ≤ 0x5a then unit + 0x20 else unit

@[reducible] def digits : JsonNumber ℚ where
  text value := (toString value.num).toList
  read? text := (String.ofList text).toNat?.map Nat.cast

def language : Language ℚ where
  toLowerCase := List.map lowerUnit
  parse text := text.text?.bind (@Json.parse ℚ digits)
  number := id

theorem distinguishes : language.Distinguishes where
  counts := zero_ne_one
  confidences := Function.injective_id.injOn

end Sample

theorem executors_agree_on_words :
    Interchangeable Sample.language "summarize" "a b" ∧
      executeTask Sample.language .desktop "summarize" "a b" =
        executeTask Sample.language .cli "summarize" "a b" := by
  have alike : Interchangeable Sample.language "summarize" "a b" :=
    ⟨fun _ => by decide, fun same => absurd same (by decide)⟩
  exact ⟨alike, (executors_agree_iff Sample.distinguishes _ _).mpr alike _ _⟩

theorem sample_outputs_differ :
    executeTask Sample.language .desktop "classify" "best" =
        object [("sentiment", .string "positive"),
          ("confidence", .number (confidence 1))] ∧
      executeTask Sample.language .simulator "classify" "best" =
        object [("sentiment", .string "neutral"),
          ("confidence", .number (confidence 0))] ∧
      executeTask Sample.language .desktop "summarize" " " =
        object [("summary", .string " "), ("word_count", .number 1)] ∧
      executeTask Sample.language .cli "summarize" " " =
        object [("summary", .string " "), ("word_count", .number 0)] ∧
      ¬ ∀ first second,
        executeTask Sample.language first "classify" "best" =
          executeTask Sample.language second "classify" "best" := by
  refine ⟨rfl, rfl, rfl, rfl, ?_⟩
  intro same
  have outputs : object [("sentiment", .string "positive"),
        ("confidence", .number (confidence 1))] =
      object [("sentiment", .string "neutral"),
        ("confidence", .number (confidence 0))] := same .desktop .simulator
  have sentiments := Json.string.inj (object_eq_iff.mp outputs).1
  revert sentiments
  decide

end Dispatch.Worker
