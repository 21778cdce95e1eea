import DecisionCenter.Data.Rounding
import DecisionCenter.Py.Runtime
import Mathlib.Data.NNRat.Floor

/-!
# A call of the language model

`_CostTracker` and `call_llm` (`apps/edr/llm.py`), as far as they deal with cost. A call runs in
one piece up to the request to the provider, which it awaits; with the answer it runs to its end.
What a call costs is estimated twice: before the request, from the words of the prompt and the most
the answer may have, and after it, from the tokens the provider says it used. The first estimate is
compared with the cap, the second is recorded.

Costs are floats: numbers of dollars among the rationals that a rounding leaves as they are, with
every operation rounded. The rounding is a parameter; `binary64` is the interpreter's own. So two
sums of the same costs in different orders need not be equal here either.

The texts of prompts and answers matter by their number of words alone, and of the days only whether
they are the same.
-/

namespace DecisionCenter.Llm

open Py

/-! ### Providers, models and rates -/

/-- The providers `active_provider` chooses between. -/
inductive Provider where
  | anthropic
  | deepseek
  deriving DecidableEq, Repr

/-- An entry of `_TIER_CAPS`. -/
structure Caps where
  input : ℕ
  output : ℕ
  deriving DecidableEq, Repr

/-- `_resolve_model_and_caps` -/
def resolveModelAndCaps : Provider → String → String × Caps
  | .deepseek, tier =>
    if tier = "light" then ("deepseek-v4-flash", ⟨56000, 8000⟩)
    else (if tier = "heavy" then "deepseek-v4-pro" else "deepseek-v4-flash", ⟨56000, 12000⟩)
  | .anthropic, tier =>
    if tier = "light" then ("claude-haiku-4-5", ⟨200000, 10000⟩)
    else (if tier = "heavy" then "claude-sonnet-4-6" else tier, ⟨60000, 8000⟩)

/-! ### Costs -/

section Costs

variable [Rounding ℚ≥0]

/-- A float that is no less than zero. -/
abbrev Usd : Type := Rounded ℚ≥0

/-- An entry of `_COST_RATES`, in dollars per million tokens. -/
structure Rates where
  input : Usd
  output : Usd

/-- `_COST_RATES.get(model, …)` -/
def costRates (model : String) : Rates :=
  match model with
  | "claude-haiku-4-5" => ⟨.of (25 / 100), .of (125 / 100)⟩
  | "claude-sonnet-4-6" => ⟨.of 3, .of 15⟩
  | "deepseek-v4-flash" => ⟨.of (27 / 100), .of (110 / 100)⟩
  | "deepseek-v4-pro" => ⟨.of (55 / 100), .of (219 / 100)⟩
  | _ => ⟨.of 3, .of 15⟩

/-- `_estimate_cost` -/
def estimateCost (model : String) (inputTokens outputTokens : ℕ) : Usd :=
  (inputTokens * (costRates model).input + outputTokens * (costRates model).output) /
    (1000000 : ℕ)

end Costs

/-- `len(text.split())`, with whether a word has begun. -/
def wordCount [Text] : Bool → List Char → ℕ
  | _, [] => 0
  | inWord, c :: cs =>
    if Text.isSpace c then wordCount false cs
    else (if inWord then 0 else 1) + wordCount true cs

/-- `_estimate_tokens_from_text` -/
def estimateTokensFromText [Text] [Rounding ℚ≥0] (text : String) : ℕ :=
  ⌊((wordCount false text.toList : Usd) * .of (13 / 10)).val⌋₊

/-! ### The cost tracker -/

variable [Rounding ℚ≥0]

/-- `_CostTracker`; of the day only its identity matters. -/
structure CostTracker where
  dailyCost : Usd
  lastReset : ℕ

/-- What a call raises before it reaches the provider. -/
inductive CallError where
  | costCapExceeded
  | tokenCapExceeded
  deriving DecidableEq, Repr

namespace CostTracker

/-- `_check_reset` -/
def checkReset (today : ℕ) (t : CostTracker) : CostTracker :=
  if today ≠ t.lastReset then ⟨0, today⟩ else t

/-- `check_budget` -/
def checkBudget (cap : Usd) (today : ℕ) (estimatedCost : Usd) (t : CostTracker) :
    Except CallError Unit × CostTracker :=
  let t := t.checkReset today
  (if cap ≤ t.dailyCost + estimatedCost then .error .costCapExceeded else .ok (), t)

/-- `record_cost` -/
def recordCost (today : ℕ) (cost : Usd) (t : CostTracker) : CostTracker :=
  let t := t.checkReset today
  { t with dailyCost := t.dailyCost + cost }

/-- `daily_cost`: what has been recorded on a day. -/
def recorded (today : ℕ) (t : CostTracker) : Usd := (t.checkReset today).dailyCost

/-- The check resets the counter of another day, and raises if the estimate reaches the cap. -/
theorem checkBudget_eq (cap : Usd) (today : ℕ) (estimatedCost : Usd) (t : CostTracker) :
    t.checkBudget cap today estimatedCost =
      (if cap ≤ t.recorded today + estimatedCost then .error .costCapExceeded else .ok (),
        t.checkReset today) := rfl

@[simp] theorem recorded_checkReset (today : ℕ) (t : CostTracker) :
    (t.checkReset today).recorded today = t.recorded today := by
  unfold recorded checkReset
  split
  · simp
  · rfl

@[simp] theorem recorded_recordCost (today : ℕ) (cost : Usd) (t : CostTracker) :
    (t.recordCost today cost).recorded today = t.recorded today + cost := by
  have hday : (t.checkReset today).lastReset = today := by
    unfold checkReset
    split
    · rfl
    · next h => exact (not_not.mp h).symm
  rw [recorded, checkReset, recordCost, if_neg (not_not.mpr hday.symm)]
  rfl

end CostTracker

/-! ### `call_llm` -/

/-- The settings a call reads. -/
structure Settings where
  provider : Provider
  /-- `_provider_key_available` of the provider. -/
  keyAvailable : Bool
  dailyCostCapUsd : Usd
  dailyCostCapUsd_pos : 0 < dailyCostCapUsd

/-- The arguments of a call, after the prompt has been sanitized. -/
structure LlmCall where
  prompt : String
  tier : String
  maxTokens : Option ℕ
  /-- What `_deterministic_output` gives for it. -/
  fallbackContent : String

variable [Text]

namespace LlmCall

/-- The model a call is routed to. -/
def model (cfg : Settings) (c : LlmCall) : String := (resolveModelAndCaps cfg.provider c.tier).1

/-- The caps of its tier. -/
def caps (cfg : Settings) (c : LlmCall) : Caps := (resolveModelAndCaps cfg.provider c.tier).2

/-- `est_input_tokens` -/
def estInputTokens (c : LlmCall) : ℕ := estimateTokensFromText c.prompt

/-- `max_tokens or caps["output"]` -/
def estOutputTokens (cfg : Settings) (c : LlmCall) : ℕ :=
  match c.maxTokens with
  | some n => if n = 0 then (c.caps cfg).output else n
  | none => (c.caps cfg).output

/-- `est_cost` -/
def estCost (cfg : Settings) (c : LlmCall) : Usd :=
  estimateCost (c.model cfg) c.estInputTokens (c.estOutputTokens cfg)

/-- What `_fallback_result` records. -/
def fallbackCost (cfg : Settings) (c : LlmCall) : Usd :=
  estimateCost (c.model cfg) c.estInputTokens (estimateTokensFromText c.fallbackContent)

end LlmCall

/-- How far a call gets before it first awaits. -/
inductive Started where
  | raised (e : CallError)
  | fallback
  | awaiting
  deriving DecidableEq, Repr

/-- `call_llm` up to the request to the provider. -/
def startCall (cfg : Settings) (today : ℕ) (c : LlmCall) (t : CostTracker) :
    Started × CostTracker :=
  match t.checkBudget cfg.dailyCostCapUsd today (c.estCost cfg) with
  | (.error e, t) => (.raised e, t)
  | (.ok (), t) =>
    if (c.caps cfg).input < c.estInputTokens then (.raised .tokenCapExceeded, t)
    else if cfg.keyAvailable then (.awaiting, t)
    else (.fallback, t.recordCost today (c.fallbackCost cfg))

/-- The tokens the provider says it used, or nothing if the request raised. -/
abbrev Reply : Type := Option (ℕ × ℕ)

/-- What a reply costs. -/
def replyCost (cfg : Settings) (c : LlmCall) : Reply → Usd
  | some (inputTokens, outputTokens) => estimateCost (c.model cfg) inputTokens outputTokens
  | none => 0

/-- `call_llm` from the provider's reply on. -/
def finishCall (cfg : Settings) (today : ℕ) (c : LlmCall) (reply : Reply) (t : CostTracker) :
    CostTracker :=
  match reply with
  | some _ => t.recordCost today (replyCost cfg c reply)
  | none => t

end DecisionCenter.Llm
