import DecisionCenter.Llm.DailyCap
import Mathlib.Algebra.Order.Monoid.Prod

/-!
# The accounts of the language model

The cost of a call is booked three times: under its day and under its model in the cost tracker,
and in the total of the request that made it. Its tokens are booked under a key that the call site
chooses, and the audit row of a request takes the tokens under the request's id and its total.

Three things part the accounts. The repair call of the draft node books its tokens under another
key than the total its cost goes to. A change of the day clears the daily cost but not the costs of
the models. And costs are floats: what is added to the daily cost and to the cost of a model is the
same, but the two sums are rounded on their own, and need not lose the same.

The costs of the models sum to the daily cost in every state of a run exactly when no step of it
parts them, which can be told from the state before the step (`KeepsModels`). Tokens are whole
numbers, so the tokens of a request are those of its own calls exactly when repair calls have used
none.
-/

namespace DecisionCenter.Llm

open Async.Run Py

/-! ### Call sites -/

/-- The places in the workflow that call the model. -/
inductive CallSite where
  | intent
  | scope
  | plan
  | selfCorrect
  | draft
  | repair
  deriving DecidableEq, Repr

namespace CallSite

def tier : CallSite → String
  | intent | scope | plan | selfCorrect => "light"
  | draft | repair => "heavy"

def maxTokens : CallSite → ℕ
  | intent | scope | plan | selfCorrect => 2000
  | draft | repair => 12000

/-- The `request_id` that the call is made with. -/
def tokenKey (site : CallSite) (requestId : String) : String :=
  match site with
  | repair => requestId ++ "-repair"
  | _ => requestId

end CallSite

/-- A call of a request. -/
structure RequestCall where
  requestId : String
  site : CallSite
  prompt : String
  /-- What `_deterministic_output` gives for it. -/
  fallbackContent : String

def RequestCall.llmCall (c : RequestCall) : LlmCall where
  prompt := c.prompt
  tier := c.site.tier
  maxTokens := some c.site.maxTokens
  fallbackContent := c.fallbackContent

section Accounts

variable [Rounding ℚ≥0]

/-! ### The tracker with its accounts -/

/-- `_CostTracker` -/
structure UsageTracker extends CostTracker where
  tokenUsage : Tally String (ℕ × ℕ)
  modelCalls : Tally String ℕ
  modelCosts : Tally String Usd

namespace UsageTracker

/-- `_check_reset` -/
def checkReset (today : ℕ) (t : UsageTracker) : UsageTracker :=
  { t with toCostTracker := t.toCostTracker.checkReset today }

/-- `record_cost` -/
def recordCost (today : ℕ) (cost : Usd) (model : String) (t : UsageTracker) : UsageTracker where
  toCostTracker := t.toCostTracker.recordCost today cost
  tokenUsage := t.tokenUsage
  modelCalls := if model = "" then t.modelCalls else t.modelCalls.add model 1
  modelCosts := if model = "" then t.modelCosts else t.modelCosts.add model cost

/-- `record_tokens` -/
def recordTokens (requestId : String) (inputTokens outputTokens : ℕ) (t : UsageTracker) :
    UsageTracker :=
  { t with tokenUsage := t.tokenUsage.add requestId (inputTokens, outputTokens) }

/-- `get_tokens` -/
def getTokens (requestId : String) (t : UsageTracker) : ℕ × ℕ := t.tokenUsage.get requestId

end UsageTracker

/-! ### The system -/

/-- The tracker, `cost_accumulated_usd` of the requests, and the calls that await the provider. -/
structure Books where
  tracker : UsageTracker
  costs : Tally String Usd
  inFlight : List RequestCall

/-- A call is made; the provider answers the call at position `i`, or its request raises; the
daily cost or the models' costs are read. -/
inductive BookAction where
  | call (today : ℕ) (c : RequestCall)
  | reply (today : ℕ) (i : ℕ) (inputTokens outputTokens : ℕ)
  | fail (i : ℕ)
  | read (today : ℕ)

/-- A call that has been answered, as it is booked. -/
structure Entry where
  requestId : String
  site : CallSite
  model : String
  inputTokens : ℕ
  outputTokens : ℕ
  cost : Usd
  today : ℕ

namespace Entry

def tokens (e : Entry) : ℕ × ℕ := (e.inputTokens, e.outputTokens)

def tokenKey (e : Entry) : String := e.site.tokenKey e.requestId

end Entry

/-! ### The tokens of a request -/

private theorem tokenKey_eq {e : Entry} (h : e.site ≠ .repair) : e.tokenKey = e.requestId := by
  rw [Entry.tokenKey]
  cases hsite : e.site <;> first | rfl | exact absurd hsite h

/-- The tokens under every request id are those of the request's own calls if and only if the
repair calls have used none. -/
theorem tokens_iff (es : List Entry) :
    (∀ requestId,
        (es.map fun e => if e.tokenKey = requestId then e.tokens else 0).sum =
          (es.map fun e => if e.requestId = requestId then e.tokens else 0).sum) ↔
      ∀ e ∈ es, e.site = .repair → e.tokens = 0 := by
  constructor
  · intro hsum
    -- by induction on the length of the id: under it are the tokens of repair calls with shorter
    -- ids
    have hlength : ∀ n, ∀ e ∈ es, e.site = .repair → e.requestId.length = n → e.tokens = 0 := by
      intro n
      induction n using Nat.strong_induction_on with
      | _ n ih =>
        intro e he hrepair hn
        let ordinary (x : Entry) : ℕ × ℕ :=
          if x.site ≠ .repair ∧ x.requestId = e.requestId then x.tokens else 0
        let repair (x : Entry) : ℕ × ℕ :=
          if x.site = .repair ∧ x.requestId = e.requestId then x.tokens else 0
        have hleft : (es.map fun x => if x.tokenKey = e.requestId then x.tokens else 0) =
            es.map ordinary := by
          refine List.map_congr_left fun x hx => ?_
          by_cases hsite : x.site = .repair
          · simp only [ordinary, hsite, ne_eq, not_true_eq_false, false_and, if_false,
              ite_eq_right_iff]
            intro hkey
            refine ih _ ?_ x hx hsite rfl
            rw [Entry.tokenKey, hsite] at hkey
            rw [← hn, ← hkey, CallSite.tokenKey, String.length_append]
            exact Nat.lt_add_of_pos_right (by decide)
          · simp only [ordinary, hsite, tokenKey_eq hsite, ne_eq, not_false_eq_true, true_and]
        have hright : (es.map fun x => if x.requestId = e.requestId then x.tokens else 0) =
            es.map fun x => ordinary x + repair x := by
          refine List.map_congr_left fun x _ => ?_
          by_cases hsite : x.site = .repair
          · simp only [ordinary, repair, hsite, ne_eq, not_true_eq_false, false_and, if_false,
              true_and, zero_add]
          · simp only [ordinary, repair, hsite, ne_eq, not_false_eq_true, false_and, if_false,
              true_and, add_zero]
        have hzero : (es.map repair).sum = 0 := by
          have htotal := hsum e.requestId
          rw [hleft, hright, List.sum_map_add] at htotal
          exact left_eq_add.mp htotal
        rw [List.sum_eq_zero_iff, List.forall_mem_map] at hzero
        exact (if_pos ⟨hrepair, rfl⟩).symm.trans (hzero e he)
    exact fun e he hrepair => hlength _ e he hrepair rfl
  · intro hrepair requestId
    congr 1
    refine List.map_congr_left fun e he => ?_
    by_cases hsite : e.site = .repair
    · rw [hrepair e he hsite, ite_self, ite_self]
    · rw [tokenKey_eq hsite]

section System

variable [Text] (cfg : Settings)

/-- What is booked for a call that has used these tokens. -/
def entryOf (today : ℕ) (c : RequestCall) (inputTokens outputTokens : ℕ) : Entry where
  requestId := c.requestId
  site := c.site
  model := c.llmCall.model cfg
  inputTokens := inputTokens
  outputTokens := outputTokens
  cost := estimateCost (c.llmCall.model cfg) inputTokens outputTokens
  today := today

/-- `record_cost`, `record_tokens`, and the caller's `cost_accumulated_usd += cost`. -/
def book (e : Entry) (s : Books) : Books where
  tracker := (s.tracker.recordCost e.today e.cost e.model).recordTokens e.tokenKey e.inputTokens
    e.outputTokens
  costs := s.costs.add e.requestId e.cost
  inFlight := s.inFlight

/-- The step from one await to the next, and what it books. -/
def bookStep (s : Books) : BookAction → Books × Option Entry
  | .call today c =>
    let checked := { s with tracker := s.tracker.checkReset today }
    match (startCall cfg today c.llmCall s.tracker.toCostTracker).1 with
    | .raised _ => (checked, none)
    | .awaiting => ({ checked with inFlight := s.inFlight ++ [c] }, none)
    | .fallback =>
      let e := entryOf cfg today c c.llmCall.estInputTokens
        (estimateTokensFromText c.fallbackContent)
      (book e checked, some e)
  | .reply today i inputTokens outputTokens =>
    match s.inFlight[i]? with
    | some c =>
      let e := entryOf cfg today c inputTokens outputTokens
      (book e { s with inFlight := s.inFlight.eraseIdx i }, some e)
    | none => (s, none)
  | .fail i => ({ s with inFlight := s.inFlight.eraseIdx i }, none)
  | .read today => ({ s with tracker := s.tracker.checkReset today }, none)

def stepBooks (s : Books) (a : BookAction) : Books := (bookStep cfg s a).1

def booked (s : Books) (a : BookAction) : Option Entry := (bookStep cfg s a).2

/-- The entries of a run, in order. -/
def entries : Books → List BookAction → List Entry
  | _, [] => []
  | s, a :: run => (booked cfg s a).toList ++ entries (stepBooks cfg s a) run

/-- What the day is when the step looks at the clock. -/
def clock (s : Books) : BookAction → Option ℕ
  | .call today _ | .read today => some today
  | .reply today i _ _ => (s.inFlight[i]?).map fun _ => today
  | .fail _ => none

/-! ### The tracker's own steps -/

/-- What the calls in flight and the daily cost are without the accounts. -/
def Books.llmState (s : Books) : LlmState :=
  ⟨s.tracker.toCostTracker, s.inFlight.map RequestCall.llmCall⟩

/-- Within a day the daily cost and the calls in flight are those of `step`. -/
theorem llmState_call (today : ℕ) (s : Books) (c : RequestCall) :
    (stepBooks cfg s (.call today c)).llmState = step cfg today s.llmState (.call c.llmCall) := by
  simp only [stepBooks, bookStep, step, Books.llmState]
  rcases startCall_cases cfg today c.llmCall s.tracker.toCostTracker with
    ⟨e, h⟩ | ⟨-, -, h⟩ | ⟨-, h⟩
  · rw [h]
    rfl
  · rw [h]
    rfl
  · rw [h]
    simp only [List.map_append, List.map_cons, List.map_nil]
    rfl

/-- A reply is booked as the state of the daily cap has it: the two descriptions of a call agree. -/
theorem llmState_reply (today : ℕ) (s : Books) (i inputTokens outputTokens : ℕ) :
    (stepBooks cfg s (.reply today i inputTokens outputTokens)).llmState =
      step cfg today s.llmState (.reply i (some (inputTokens, outputTokens))) := by
  simp only [stepBooks, bookStep, step, Books.llmState, List.getElem?_map]
  cases s.inFlight[i]? with
  | none => rfl
  | some c =>
    simp only [Option.map_some, List.eraseIdx_map]
    rfl

/-! ### What one step books -/

variable {cfg}

omit [Text] in
private theorem model_ne_empty (c : RequestCall) : c.llmCall.model cfg ≠ "" := by
  have htier (p : Provider) (site : CallSite) : (resolveModelAndCaps p site.tier).1 ≠ "" := by
    cases p <;> cases site <;> decide
  exact htier cfg.provider c.site

omit [Text] in
private theorem modelCosts_book (today : ℕ) (c : RequestCall) (inputTokens outputTokens : ℕ)
    (s : Books) : (book (entryOf cfg today c inputTokens outputTokens) s).tracker.modelCosts =
      s.tracker.modelCosts.add (c.llmCall.model cfg)
        (entryOf cfg today c inputTokens outputTokens).cost :=
  if_neg (model_ne_empty c)

/-- What is booked goes to the three accounts of its call. -/
structure Booked (e : List Entry) (s s' : Books) : Prop where
  tokens : s'.tracker.tokenUsage = Tally.addAll Entry.tokenKey Entry.tokens e s.tracker.tokenUsage
  costs : s'.costs = Tally.addAll Entry.requestId Entry.cost e s.costs
  models : s'.tracker.modelCosts = Tally.addAll Entry.model Entry.cost e s.tracker.modelCosts

private theorem booked_stepBooks (s : Books) (a : BookAction) :
    Booked (booked cfg s a).toList s (stepBooks cfg s a) := by
  cases a with
  | call today c =>
    simp only [booked, stepBooks, bookStep]
    cases (startCall cfg today c.llmCall s.tracker.toCostTracker).1 with
    | raised => exact ⟨rfl, rfl, rfl⟩
    | awaiting => exact ⟨rfl, rfl, rfl⟩
    | fallback => exact ⟨rfl, rfl, modelCosts_book today c _ _ _⟩
  | reply today i inputTokens outputTokens =>
    simp only [booked, stepBooks, bookStep]
    cases s.inFlight[i]? with
    | none => exact ⟨rfl, rfl, rfl⟩
    | some c => exact ⟨rfl, rfl, modelCosts_book today c _ _ _⟩
  | fail i => exact ⟨rfl, rfl, rfl⟩
  | read today => exact ⟨rfl, rfl, rfl⟩

/-- The daily cost once the step has looked at the clock. -/
def afterClock (s : Books) (a : BookAction) : Usd :=
  (clock s a).elim s.tracker.dailyCost fun today => s.tracker.recorded today

private theorem dailyCost_stepBooks (s : Books) (a : BookAction) :
    (stepBooks cfg s a).tracker.dailyCost =
      (booked cfg s a).elim (afterClock s a) fun e => afterClock s a + e.cost := by
  cases a with
  | call today c =>
    simp only [booked, stepBooks, bookStep]
    cases (startCall cfg today c.llmCall s.tracker.toCostTracker).1 with
    | raised => rfl
    | awaiting => rfl
    | fallback => exact congrArg (· + _) (CostTracker.recorded_checkReset today _)
  | reply today i inputTokens outputTokens =>
    simp only [booked, stepBooks, bookStep, afterClock, clock]
    cases s.inFlight[i]? with
    | none => rfl
    | some c => rfl
  | fail i => rfl
  | read today => rfl

omit [Text] in
/-- A look at the clock leaves the daily cost, or clears it on another day. -/
theorem afterClock_eq (s : Books) (a : BookAction) :
    afterClock s a = if ∃ today ∈ clock s a, today ≠ s.tracker.lastReset then 0
      else s.tracker.dailyCost := by
  rw [afterClock]
  cases clock s a with
  | none => simp
  | some today =>
    simp only [Option.elim_some, Option.mem_some_iff, exists_eq_left', CostTracker.recorded,
      CostTracker.checkReset]
    split_ifs <;> rfl

/-! ### Runs -/

private theorem entries_cons (s : Books) (a : BookAction) (run : List BookAction) :
    entries cfg s (a :: run) = (booked cfg s a).toList ++ entries cfg (stepBooks cfg s a) run := rfl

private theorem booked_exec (s : Books) (run : List BookAction) :
    Booked (entries cfg s run) s (exec (stepBooks cfg) s run) := by
  induction run generalizing s with
  | nil => exact ⟨rfl, rfl, rfl⟩
  | cons a run ih =>
    have hstep : Booked (booked cfg s a).toList s (stepBooks cfg s a) := booked_stepBooks s a
    have hrun := ih (stepBooks cfg s a)
    rw [entries_cons, exec_cons]
    refine ⟨?_, ?_, ?_⟩
    · rw [Tally.addAll_append, ← hstep.tokens, hrun.tokens]
    · rw [Tally.addAll_append, ← hstep.costs, hrun.costs]
    · rw [Tally.addAll_append, ← hstep.models, hrun.models]

private theorem along_booked {P : Entry → Prop} {s : Books} {run : List BookAction} :
    Along (stepBooks cfg) (fun s a => ∀ e ∈ booked cfg s a, P e) s run ↔
      ∀ e ∈ entries cfg s run, P e := by
  induction run generalizing s with
  | nil => simp [Along, entries]
  | cons a run ih =>
    simp only [Along, ih, entries_cons, List.mem_append, Option.mem_toList, or_imp, forall_and]
    rfl

/-! ### The costs of the models -/

/-- The step does not come to another day with a cost on the tracker. -/
def ResetsNothing (s : Books) (a : BookAction) : Prop :=
  ∀ today ∈ clock s a, today ≠ s.tracker.lastReset → s.tracker.dailyCost = 0

omit [Text] in
private theorem afterClock_eq_iff (s : Books) (a : BookAction) :
    afterClock s a = s.tracker.dailyCost ↔ ResetsNothing s a := by
  rw [afterClock_eq]
  split_ifs with hreset
  · obtain ⟨today, htoday, hne⟩ := hreset
    exact ⟨fun hzero _ _ _ => hzero.symm, fun hnothing => (hnothing today htoday hne).symm⟩
  · exact iff_of_true rfl fun today htoday hne => absurd ⟨today, htoday, hne⟩ hreset

/-- The costs of the models sum to the daily cost; the sum is the exact one. -/
def Books.ModelsAgree (s : Books) : Prop :=
  s.tracker.modelCosts.totalBy Rounded.val = s.tracker.dailyCost.val

instance (s : Books) : Decidable s.ModelsAgree := inferInstanceAs (Decidable (_ = _))

variable (cfg) in
/-- The step changes the daily cost and the cost of its model by the same. If it books a call, the
cost is added to each of the two, and each sum is rounded; the daily cost is the one after a look at
the clock. If it books nothing, it does not come to another day with a cost on the tracker. -/
def KeepsModels (s : Books) (a : BookAction) : Prop :=
  match booked cfg s a with
  | none => ResetsNothing s a
  | some e =>
    s.tracker.dailyCost.val + (s.tracker.modelCosts.get e.model + e.cost).val =
      (afterClock s a + e.cost).val + (s.tracker.modelCosts.get e.model).val

/-- Where neither sum is rounded, only a change of the day parts the two. -/
theorem keepsModels_of_exact {s : Books} {a : BookAction} {e : Entry} (h : booked cfg s a = some e)
    (hmodel : (s.tracker.modelCosts.get e.model + e.cost).val =
      (s.tracker.modelCosts.get e.model).val + e.cost.val)
    (hdaily : (afterClock s a + e.cost).val = (afterClock s a).val + e.cost.val) :
    KeepsModels cfg s a ↔ ResetsNothing s a := by
  have hsame : s.tracker.dailyCost.val + ((s.tracker.modelCosts.get e.model).val + e.cost.val) =
      (afterClock s a).val + e.cost.val + (s.tracker.modelCosts.get e.model).val ↔
      (afterClock s a).val = s.tracker.dailyCost.val := by
    rw [add_comm _ e.cost.val, ← add_assoc, add_left_inj, add_left_inj, eq_comm]
  rw [← afterClock_eq_iff, ← Rounded.val_injective.eq_iff, ← hsame, ← hmodel, ← hdaily, KeepsModels,
    h]

/-- A step leaves the costs of the models at the daily cost exactly when it changes both by the
same. -/
theorem modelsAgree_stepBooks_iff {s : Books} (h : s.ModelsAgree) (a : BookAction) :
    (stepBooks cfg s a).ModelsAgree ↔ KeepsModels cfg s a := by
  have hmodels : (stepBooks cfg s a).tracker.modelCosts = _ := (booked_stepBooks s a).models
  have hdaily : (stepBooks cfg s a).tracker.dailyCost = _ := dailyCost_stepBooks s a
  rw [Books.ModelsAgree, hdaily, hmodels, KeepsModels]
  cases booked cfg s a with
  | none =>
    rw [← afterClock_eq_iff, ← Rounded.val_injective.eq_iff, ← h, eq_comm]
    rfl
  | some e =>
    have htotal := Tally.totalBy_add (f := Rounded.val) Rounded.val_zero s.tracker.modelCosts
      e.model e.cost
    rw [h] at htotal
    dsimp only
    rw [← htotal, add_left_inj]
    rfl

private theorem modelsAgree_throughout_iff {s : Books} (h : s.ModelsAgree) (run : List BookAction) :
    Throughout (stepBooks cfg) Books.ModelsAgree s run ↔
      Along (stepBooks cfg) (KeepsModels cfg) s run := by
  have hstep (s : Books) (a : BookAction) (_ : True) (hs : s.ModelsAgree) :
      (stepBooks cfg s a).ModelsAgree ↔ KeepsModels cfg s a := modelsAgree_stepBooks_iff hs a
  exact throughout_iff_along (fun _ _ _ => trivial) hstep trivial h run

/-! ### The accounts of a run -/

/-- What the audit row of a request takes from the books: `get_token_usage` and
`cost_accumulated_usd`. -/
structure AuditRow where
  tokenCounts : ℕ × ℕ
  costTotalUsd : Usd

def Books.auditRow (s : Books) (requestId : String) : AuditRow :=
  ⟨s.tracker.getTokens requestId, s.costs.get requestId⟩

/-- The books when the process starts. -/
def freshBooks (today : ℕ) : Books where
  tracker := { dailyCost := 0, lastReset := today, tokenUsage := [], modelCalls := [],
               modelCosts := [] }
  costs := []
  inFlight := []

/-- The calls of a request. -/
def callsOf (requestId : String) (es : List Entry) : List Entry :=
  es.filter fun e => e.requestId = requestId

variable (cfg) in
/-- In the state after the run, the audit row of every request has the tokens and the cost of the
same calls, its own, and the models' costs sum to the daily cost. -/
structure Accounted (today : ℕ) (run : List BookAction) : Prop where
  tokens : ∀ requestId,
    ((exec (stepBooks cfg) (freshBooks today) run).auditRow requestId).tokenCounts =
      ((callsOf requestId (entries cfg (freshBooks today) run)).map Entry.tokens).sum
  cost : ∀ requestId,
    ((exec (stepBooks cfg) (freshBooks today) run).auditRow requestId).costTotalUsd =
      runningTotal 0 ((callsOf requestId (entries cfg (freshBooks today) run)).map Entry.cost)
  models : (exec (stepBooks cfg) (freshBooks today) run).ModelsAgree

variable (cfg) in
/-- The step books no tokens of a repair call and changes the daily cost and the cost of its model
by the same. -/
def KeepsAccounts (s : Books) (a : BookAction) : Prop :=
  (∀ e ∈ booked cfg s a, e.site = .repair → e.tokens = 0) ∧ KeepsModels cfg s a

/-- After a run the costs of every request are accounted for. What is left is about the tokens of
its repair calls and the sum over the models. -/
theorem accounted_run_iff (today : ℕ) (run : List BookAction) :
    Accounted cfg today run ↔
      (∀ e ∈ entries cfg (freshBooks today) run, e.site = .repair → e.tokens = 0) ∧
        (exec (stepBooks cfg) (freshBooks today) run).ModelsAgree := by
  have hbooked : Booked (entries cfg (freshBooks today) run) (freshBooks today)
      (exec (stepBooks cfg) (freshBooks today) run) := booked_exec _ run
  have htokens (requestId : String) :
      ((exec (stepBooks cfg) (freshBooks today) run).auditRow requestId).tokenCounts =
        ((entries cfg (freshBooks today) run).map fun e =>
          if e.tokenKey = requestId then e.tokens else 0).sum := by
    rw [Books.auditRow, UsageTracker.getTokens, hbooked.tokens, Tally.get_addAll]
    exact zero_add _
  have hcost (requestId : String) :
      ((exec (stepBooks cfg) (freshBooks today) run).auditRow requestId).costTotalUsd =
        runningTotal 0
          ((callsOf requestId (entries cfg (freshBooks today) run)).map Entry.cost) := by
    rw [Books.auditRow, hbooked.costs, Tally.get_addAll_eq_runningTotal]
    rfl
  rw [← tokens_iff]
  constructor
  · refine fun h => ⟨fun requestId => ?_, h.models⟩
    rw [← htokens, h.tokens, callsOf, sum_map_filter]
  · rintro ⟨hsum, hmodels⟩
    refine ⟨fun requestId => ?_, hcost, hmodels⟩
    rw [htokens, hsum, callsOf, sum_map_filter]

/-- In every state that a run reaches the accounts agree if and only if every step of the run keeps
them: no repair call has used tokens, and every step changes the daily cost and the cost of its
model by the same. -/
theorem accounted_iff (cfg : Settings) (today : ℕ) (run : List BookAction) :
    (∀ before after, run = before ++ after → Accounted cfg today before) ↔
      Along (stepBooks cfg) (KeepsAccounts cfg) (freshBooks today) run := by
  have hfresh : (freshBooks today).ModelsAgree := rfl
  have hmodels : Throughout (stepBooks cfg) Books.ModelsAgree (freshBooks today) run ↔
      Along (stepBooks cfg) (KeepsModels cfg) (freshBooks today) run :=
    modelsAgree_throughout_iff hfresh run
  have hsteps : Along (stepBooks cfg) (KeepsAccounts cfg) (freshBooks today) run ↔
      Along (stepBooks cfg) (fun s a => ∀ e ∈ booked cfg s a, e.site = .repair → e.tokens = 0)
        (freshBooks today) run ∧ Along (stepBooks cfg) (KeepsModels cfg) (freshBooks today) run :=
    along_and
  rw [hsteps, ← hmodels]
  constructor
  · intro h
    refine ⟨?_, fun before after hrun => (h before after hrun).models⟩
    rw [along_booked]
    exact ((accounted_run_iff today run).mp (h run [] (List.append_nil run).symm)).1
  · rintro ⟨hrepair, hagree⟩ before after rfl
    refine (accounted_run_iff today before).mpr ⟨?_, hagree before after rfl⟩
    rw [← along_booked]
    exact (along_append.mp hrepair).1

end System

end Accounts

section Whole

open Py.Whole Binary64

/-- A provider that answers, under a cap of thirty dollars. -/
def openCap : Settings := ⟨.anthropic, true, .of 30, by decide +kernel⟩

/-- The first draft is no JSON, and the repair call answers with 900 and 400 tokens; the daily cost
is read on the day after a call; the costs of three calls of two models on one day, which add up to
0.010695, are added to 0.010695000000000001. -/
theorem not_accounted :
    ¬ Accounted openCap 0
        [.call 0 ⟨"r1", .draft, "draft", ""⟩, .reply 0 0 1000 500,
          .call 0 ⟨"r1", .repair, "repair", ""⟩, .reply 0 0 900 400] ∧
      ¬ Accounted openCap 0
        [.call 0 ⟨"r1", .draft, "draft", ""⟩, .reply 0 0 1000 500, .read 1] ∧
      ¬ Accounted openCap 0
        [.call 0 ⟨"r1", .intent, "intent", ""⟩, .reply 0 0 100 51,
          .call 0 ⟨"r1", .draft, "draft", ""⟩, .reply 0 0 1004 500,
          .call 0 ⟨"r2", .intent, "intent", ""⟩, .reply 0 0 107 54] := by
  refine ⟨fun h => ?_, fun h => ?_, fun h => ?_⟩
  · exact absurd (h.tokens "r1") (by decide +kernel)
  · exact absurd h.models (by decide +kernel)
  · exact absurd h.models (by decide +kernel)

end Whole

end DecisionCenter.Llm
