import DecisionCenter.Async.Run
import DecisionCenter.Data.BinaryFormat
import DecisionCenter.Data.Tally
import DecisionCenter.Llm.Call
import DecisionCenter.Py.Whole
import Mathlib.Data.List.Permutation

/-!
# The daily cap with calls in flight

Any number of calls within one day, each admitted by `check_budget` against what has been recorded
and its own estimate, while other admitted calls still await the provider and have recorded
nothing. The provider answers them in an order of its own, or their requests raise.

What the day may cost in the end is the running total that begins with what has been recorded and
goes on with the estimates of the calls in flight. As it is a total of floats it depends on the
order in which the answers come, so `Covered` asks it of every order. The cap is kept, however the
provider answers, exactly when it is covered: answers that use up their estimates realise the total
of any order, and rounded addition is monotone, so that no other answers come to more.

A call that goes on to the provider keeps the estimates covered exactly when they leave room for its
own. That is the comparison `check_budget` would have to make; it compares with the recorded cost
alone.
-/

namespace DecisionCenter.Llm

open Async.Run Py

section System

variable [Text] [Rounding ℚ≥0] (cfg : Settings) (today : ℕ)

/-! ### The system -/

/-- The tracker, and the calls that await the provider. -/
structure LlmState where
  tracker : CostTracker
  inFlight : List LlmCall

/-- A call is made, or the provider answers the call at position `i`. -/
inductive Action where
  | call (c : LlmCall)
  | reply (i : ℕ) (r : Reply)

/-- The step from one await to the next. -/
def step (s : LlmState) : Action → LlmState
  | .call c =>
    match startCall cfg today c s.tracker with
    | (.awaiting, t) => ⟨t, s.inFlight ++ [c]⟩
    | (_, t) => { s with tracker := t }
  | .reply i r =>
    match s.inFlight[i]? with
    | some c => ⟨finishCall cfg today c r s.tracker, s.inFlight.eraseIdx i⟩
    | none => s

/-- The day's recorded cost. -/
def LlmState.recorded (s : LlmState) : Usd := s.tracker.recorded today

/-- The recorded cost once the calls have cost what they are estimated at, one after another. -/
def projected (s : LlmState) (calls : List LlmCall) : Usd :=
  runningTotal (s.recorded today) (calls.map (LlmCall.estCost cfg))

/-- What the step records does not exceed the estimate the call was admitted with. -/
def WithinEstimate (s : LlmState) : Action → Prop
  | .call c => (startCall cfg today c s.tracker).1 = .fallback → c.fallbackCost cfg ≤ c.estCost cfg
  | .reply i r => ∀ c ∈ s.inFlight[i]?, replyCost cfg c r ≤ c.estCost cfg

instance (s : LlmState) : (a : Action) → Decidable (WithinEstimate cfg today s a)
  | .call _ => inferInstanceAs (Decidable (_ → _))
  | .reply i _ => inferInstanceAs (Decidable (∀ c ∈ s.inFlight[i]?, _))

/-- However the provider answers the calls in flight, in whatever order and within their estimates,
the recorded cost does not exceed the cap. -/
def CapKept (s : LlmState) : Prop :=
  ∀ replies : List (ℕ × Reply),
    Along (step cfg today) (WithinEstimate cfg today) s (replies.map fun p => .reply p.1 p.2) →
      (exec (step cfg today) s (replies.map fun p => .reply p.1 p.2)).recorded today ≤
        cfg.dailyCostCapUsd

/-- The estimates of these calls fit under the cap, in whatever order they are added to the recorded
cost. -/
def FitsCap (s : LlmState) (calls : List LlmCall) : Prop :=
  ∀ order : List LlmCall, order.Perm calls → projected cfg today s order ≤ cfg.dailyCostCapUsd

instance (s : LlmState) (calls : List LlmCall) : Decidable (FitsCap cfg today s calls) :=
  decidable_of_iff
    (∀ order ∈ calls.permutations', projected cfg today s order ≤ cfg.dailyCostCapUsd)
    (forall_congr' fun _ => by rw [List.mem_permutations'])

/-- An admitted call leaves room for its estimate next to those of the calls in flight. -/
def RoomLeft (s : LlmState) : Action → Prop
  | .call c => (startCall cfg today c s.tracker).1 = .awaiting →
      FitsCap cfg today s (s.inFlight ++ [c])
  | .reply _ _ => True

instance (s : LlmState) : (a : Action) → Decidable (RoomLeft cfg today s a)
  | .call _ => inferInstanceAs (Decidable (_ → _))
  | .reply _ _ => isTrue trivial

/-! ### What one step does -/

variable {cfg} {today}

variable (cfg) (today) in
/-- What `startCall` can do: it raises and records nothing, it records the fallback within the
cap, or it goes on to the provider. -/
theorem startCall_cases (c : LlmCall) (t : CostTracker) :
    (∃ e, startCall cfg today c t = (.raised e, t.checkReset today)) ∨
      (cfg.keyAvailable = false ∧ t.recorded today + c.estCost cfg < cfg.dailyCostCapUsd ∧
        startCall cfg today c t =
          (.fallback, (t.checkReset today).recordCost today (c.fallbackCost cfg))) ∨
      (cfg.keyAvailable = true ∧ startCall cfg today c t = (.awaiting, t.checkReset today)) := by
  rw [startCall, CostTracker.checkBudget_eq]
  by_cases hcap : cfg.dailyCostCapUsd ≤ t.recorded today + c.estCost cfg
  · rw [if_pos hcap]
    exact .inl ⟨.costCapExceeded, rfl⟩
  · rw [if_neg hcap]
    dsimp only
    split
    · exact .inl ⟨.tokenCapExceeded, rfl⟩
    · split
      · next hkey => exact .inr (.inr ⟨hkey, rfl⟩)
      · next hkey =>
        exact .inr (.inl ⟨Bool.not_eq_true _ ▸ hkey, lt_of_not_ge hcap, rfl⟩)

/-- Without a key no call ever awaits the provider. -/
def NoKeyIdle (cfg : Settings) (s : LlmState) : Prop := cfg.keyAvailable = false → s.inFlight = []

/-- Without a key nothing is ever in flight. -/
theorem NoKeyIdle.step {s : LlmState} (h : NoKeyIdle cfg s) (a : Action) :
    NoKeyIdle cfg (step cfg today s a) := by
  intro hkey
  have hidle := h hkey
  cases a with
  | call c =>
    rcases startCall_cases cfg today c s.tracker with
      ⟨e, hstart⟩ | ⟨-, -, hstart⟩ | ⟨havailable, -⟩
    · rw [Llm.step, hstart]
      exact hidle
    · rw [Llm.step, hstart]
      exact hidle
    · rw [hkey] at havailable
      cases havailable
  | reply i r =>
    rw [Llm.step, hidle]
    exact hidle

variable (cfg) (today) in
/-- An answer records what it costs; whatever it is, it takes its call out of flight. -/
theorem step_reply {s : LlmState} {i : ℕ} {c : LlmCall} (hget : s.inFlight[i]? = some c)
    (r : Reply) :
    (step cfg today s (.reply i r)).recorded today = s.recorded today + replyCost cfg c r ∧
      (step cfg today s (.reply i r)).inFlight = s.inFlight.eraseIdx i := by
  have hstep : step cfg today s (.reply i r) =
      ⟨finishCall cfg today c r s.tracker, s.inFlight.eraseIdx i⟩ := by rw [step, hget]
  rw [hstep]
  refine ⟨?_, rfl⟩
  cases r with
  | none => exact (add_zero _).symm
  | some p => exact CostTracker.recorded_recordCost _ _ _

private theorem step_reply_of_none {s : LlmState} {i : ℕ} (hget : s.inFlight[i]? = none)
    (r : Reply) : step cfg today s (.reply i r) = s := by rw [step, hget]

omit [Text] [Rounding ℚ≥0] in
private theorem perm_of_getElem? {calls : List LlmCall} {i : ℕ} {c : LlmCall}
    (h : calls[i]? = some c) : (c :: calls.eraseIdx i).Perm calls := by
  obtain ⟨hi, rfl⟩ := List.getElem?_eq_some_iff.mp h
  exact List.getElem_cons_eraseIdx_perm hi

/-! ### The cap -/

/-- The estimates of the calls in flight fit under the cap. -/
def Covered (cfg : Settings) (today : ℕ) (s : LlmState) : Prop := FitsCap cfg today s s.inFlight

private theorem Covered.recorded_le {s : LlmState} (h : Covered cfg today s) :
    s.recorded today ≤ cfg.dailyCostCapUsd := by
  have htotal : s.recorded today ≤ projected cfg today s s.inFlight :=
    le_runningTotal _ fun _ _ => Rounded.nonneg _
  exact htotal.trans (h s.inFlight (.refl _))

/-- An answer within its estimate leaves the others covered. -/
theorem Covered.reply {s : LlmState} {i : ℕ} {r : Reply} (h : Covered cfg today s)
    (hcost : WithinEstimate cfg today s (.reply i r)) :
    Covered cfg today (step cfg today s (.reply i r)) := by
  cases hget : s.inFlight[i]? with
  | none =>
    rw [step_reply_of_none hget]
    exact h
  | some c =>
    obtain ⟨hrecorded, hflight⟩ := step_reply cfg today hget r
    intro order horder
    rw [hflight] at horder
    have hfull : projected cfg today s (c :: order) ≤ cfg.dailyCostCapUsd :=
      h (c :: order) ((horder.cons c).trans (perm_of_getElem? hget))
    have hless : replyCost cfg c r ≤ c.estCost cfg := hcost c hget
    refine (runningTotal_mono ?_ _).trans hfull
    rw [hrecorded]
    exact add_le_add_right hless _

/-- Answers that use up their estimates come to the total of any order. So each order in which the
calls in flight may be answered is a run, and the cap has to hold for its sum. -/
theorem exists_fullReplies (order : List LlmCall) {s : LlmState} (h : order.Perm s.inFlight) :
    ∃ replies : List (ℕ × Reply),
      Along (step cfg today) (WithinEstimate cfg today) s
          (replies.map fun p => .reply p.1 p.2) ∧
        (exec (step cfg today) s (replies.map fun p => .reply p.1 p.2)).recorded today =
          projected cfg today s order := by
  induction order generalizing s with
  | nil => exact ⟨[], trivial, rfl⟩
  | cons c order ih =>
    obtain ⟨i, hi, hc⟩ := List.mem_iff_getElem.mp (h.subset List.mem_cons_self)
    have hget : s.inFlight[i]? = some c := List.getElem?_eq_some_iff.mpr ⟨hi, hc⟩
    let full : Reply := some (c.estInputTokens, c.estOutputTokens cfg)
    obtain ⟨hrecorded, hflight⟩ := step_reply cfg today hget full
    have hrest : order.Perm (step cfg today s (.reply i full)).inFlight := by
      rw [hflight]
      exact ((perm_of_getElem? hget).trans h.symm).cons_inv.symm
    obtain ⟨replies, halong, hsum⟩ := ih hrest
    refine ⟨(i, full) :: replies, ⟨?_, halong⟩, ?_⟩
    · intro c' hc'
      rw [hget] at hc'
      cases hc'
      exact le_rfl
    · rw [List.map_cons, exec_cons, hsum, projected, hrecorded]
      rfl

/-- The cap is kept however the provider answers exactly when the estimates are covered. -/
theorem capKept_iff_covered {s : LlmState} : CapKept cfg today s ↔ Covered cfg today s := by
  constructor
  · intro h order horder
    obtain ⟨replies, halong, hsum⟩ := exists_fullReplies order horder
    exact hsum ▸ h replies halong
  · intro h replies
    induction replies generalizing s with
    | nil => exact fun _ => h.recorded_le
    | cons p replies ih =>
      rintro ⟨hfirst, hrest⟩
      exact ih (h.reply hfirst) hrest

/-- A step keeps the estimates covered exactly when it leaves room. An answer takes a call out of
flight for no more than its estimate; an admitted call is the one that adds to them. -/
theorem covered_step {s : LlmState} {a : Action} (hidle : NoKeyIdle cfg s)
    (hcost : WithinEstimate cfg today s a) (h : Covered cfg today s) :
    Covered cfg today (step cfg today s a) ↔ RoomLeft cfg today s a := by
  cases a with
  | reply i r => exact iff_of_true (h.reply hcost) trivial
  | call c =>
    rcases startCall_cases cfg today c s.tracker with
      ⟨e, hstart⟩ | ⟨hkey, hadmitted, hstart⟩ | ⟨-, hstart⟩
    · refine iff_of_true ?_ ?_
      · simp only [step, hstart, Covered, FitsCap, projected, LlmState.recorded,
          CostTracker.recorded_checkReset]
        exact h
      · rw [RoomLeft, hstart]
        exact nofun
    · -- the fallback is recorded at once, and no other call is in flight
      have hwithin : c.fallbackCost cfg ≤ c.estCost cfg := hcost (by rw [hstart])
      refine iff_of_true ?_ ?_
      · intro order horder
        have hempty : order = [] := by
          rw [step, hstart] at horder
          exact List.perm_nil.mp (hidle hkey ▸ horder)
        rw [hempty, projected, List.map_nil, runningTotal_nil, step, hstart, LlmState.recorded,
          CostTracker.recorded_recordCost, CostTracker.recorded_checkReset]
        exact (add_le_add_right hwithin _).trans hadmitted.le
      · rw [RoomLeft, hstart]
        exact nofun
    · have hroom : RoomLeft cfg today s (.call c) ↔
          FitsCap cfg today s (s.inFlight ++ [c]) := by
        rw [RoomLeft, hstart]
        exact ⟨fun hleft => hleft rfl, fun hleft _ => hleft⟩
      rw [hroom]
      simp only [step, hstart, Covered, FitsCap, projected, LlmState.recorded,
        CostTracker.recorded_checkReset]

/-- Along a run of calls and answers within one day, with every cost within its estimate, the cap is
kept, however the provider answers the calls still in flight, exactly when every admitted call
leaves room for the estimates of those in flight. Room is judged by the sum as it is rounded in the
order of the answers, so that the condition is exact for floats. -/
theorem capKept_throughout_iff {t : CostTracker} (ht : t.recorded today ≤ cfg.dailyCostCapUsd)
    {run : List Action} (hrun : Along (step cfg today) (WithinEstimate cfg today) ⟨t, []⟩ run) :
    Throughout (step cfg today) (CapKept cfg today) ⟨t, []⟩ run ↔
      Along (step cfg today) (RoomLeft cfg today) ⟨t, []⟩ run := by
  have hstart : CapKept cfg today ⟨t, []⟩ := by
    refine capKept_iff_covered.mpr fun order horder => ?_
    rw [List.perm_nil.mp horder]
    exact ht
  have hinv : ∀ s a, NoKeyIdle cfg s → NoKeyIdle cfg (step cfg today s a) := fun s a hs => hs.step a
  refine throughout_iff_along_of_along hinv ?_ (fun _ => rfl) hstart hrun
  intro s a hidle hcost hkept
  rw [capKept_iff_covered] at hkept ⊢
  exact covered_step hidle hcost hkept

end System

/-! ### Two calls at once -/

section Whole

open Py.Whole Binary64

/-- A cap of twenty cents. -/
def smallCap : Settings := ⟨.anthropic, true, .of (1 / 5), by decide +kernel⟩

/-- A call of the heavy tier, estimated at twelve cents. -/
def heavyCall : LlmCall := ⟨"Summarise", "heavy", none, ""⟩

/-- An answer that uses the tier's whole output. -/
def longReply : Reply := some (1, 8000)

/-- Made one after the other, with an answer of moderate length to the first, both calls are
admitted, and the cap is kept. -/
theorem capKept_oneByOne :
    Throughout (step smallCap 0) (CapKept smallCap 0) ⟨⟨0, 0⟩, []⟩
      [.call heavyCall, .reply 0 (some (1, 1000)), .call heavyCall, .reply 0 longReply] :=
  (capKept_throughout_iff (by decide +kernel) (by decide +kernel)).mpr (by decide +kernel)

/-- Made at the same time, both are admitted as well, and exceed the cap together. -/
theorem not_capKept_overlapping :
    ¬ ∀ (cfg : Settings) (today : ℕ) (t : CostTracker) (run : List Action),
      t.recorded today = 0 → Along (step cfg today) (WithinEstimate cfg today) ⟨t, []⟩ run →
        Throughout (step cfg today) (fun s => s.recorded today ≤ cfg.dailyCostCapUsd) ⟨t, []⟩
          run := by
  intro h
  have hrun : Along (step smallCap 0) (WithinEstimate smallCap 0) ⟨⟨0, 0⟩, []⟩
      [.call heavyCall, .call heavyCall, .reply 0 longReply, .reply 0 longReply] := by
    decide +kernel
  have hcap := h smallCap 0 ⟨0, 0⟩ _ (by decide +kernel) hrun _ [] (List.append_nil _).symm
  exact absurd hcap (by decide +kernel)

end Whole

end DecisionCenter.Llm
