import DecisionCenter.Graph.GateSpec
import DecisionCenter.Graph.NonFabrication

/-!
# Selected checks

Node 13 runs the checks that the policy of the report's type selects, where it used to run all
of them. A check that is left out has nothing to say of a report of that type, save that the one
on the intent reads the decision memo before it looks at the type, and raises when the answer
there is no text.

`PlainlyChecked` compares the gate as it is with the gate that runs every check: the same
verdict and the same findings, and an exception in the one just if there is one in the other.
For a report that names its type, as every report of node 12 does, this comes down to the
skipped checks: they find nothing just if the answer can be read, or the policy does not leave
out the check on the intent (`skipped_iff`).

`plainlyChecked_iff` is exact for every drafted report, and the condition is on its decision
memo and its type. The failing ones are drafts whose executive answer is a list or a number: the
plain gate raises on them, and the selected one goes on.

That runners which find nothing may be left out is a fact about lists of runners
(`found_filter`); everything else is about the check on the intent, as the other skipped checks
return at once for the types that skip them.
-/

namespace DecisionCenter

open Py

/-! ### Leaving out checks -/

section Skipping

variable {κ α : Type}

/-- What the runners find, one after the other. -/
def found (runners : List (κ × Except Error (List α))) : Except Error (List α) := do
  pure (← runners.mapM fun r => r.2).flatten

private theorem found_cons (r : κ × Except Error (List α))
    (runners : List (κ × Except Error (List α))) :
    found (r :: runners) = (do pure ((← r.2) ++ (← found runners))) := by
  rw [found, List.mapM_cons, found]
  cases r.2 with
  | error e => rfl
  | ok xs => cases runners.mapM fun r => r.2 <;> rfl

/-- Runners that find nothing may be left out. -/
theorem found_filter {keep : κ → Bool} {runners : List (κ × Except Error (List α))}
    (h : ∀ r ∈ runners, keep r.1 = false → r.2 = .ok []) :
    found (runners.filter fun r => keep r.1) = found runners := by
  induction runners with
  | nil => rfl
  | cons r runners ih =>
    obtain ⟨hr, hrunners⟩ := List.forall_mem_cons.mp h
    rw [List.filter_cons, found_cons]
    split
    · rw [found_cons, ih hrunners]
    · next hskip =>
      rw [ih hrunners, hr (by simpa using hskip)]
      cases found runners <;> rfl

end Skipping

/-! ### The policies -/

/-- The types whose policy runs the checks of the intent and of irrelevant sections. -/
def intentTypes : List ReportType := [.salaryPayroll, .dataReport, .documentSearch]

private theorem runsCheck_intent (t : ReportType) :
    (policyOf t).runsCheck .intentCorrectness = decide (t ∈ intentTypes) := by
  cases t <;> decide

private theorem runsCheck_irrelevant (t : ReportType) :
    (policyOf t).runsCheck .irrelevantSections = decide (t ∈ intentTypes) := by
  cases t <;> decide

private theorem runsCheck_memo (t : ReportType) :
    (policyOf t).runsCheck .managementQuestionAnswer = decide (t = .managementQuestion) := by
  cases t <;> decide

private theorem runsCheck_baseline {family : CheckFamily} (h : family ∈ baselineChecks)
    (t : ReportType) : (policyOf t).runsCheck family = true :=
  decide_eq_true (baseline_subset_policyOf t h)

section Selection

variable {F : Type} [Floats F] [Text]

/-! ### All checks -/

/-- The steps of `run` behind the checks. -/
def concludeGate (report : Dict F) (state : DecisionState F) (checks : List ClaimCheck) :
    Except Error GateResult := do
  let claims ← collectClaims report
  let empty := claims.isEmpty && state.evidence.isEmpty
  let verdict := if empty then .failed else verdictOf checks
  let emptyCheck : List ClaimCheck := if empty then
      [⟨"global", .unsupported, [], "No evidence retrieved and no claims generated."⟩]
    else []
  let blocking := coverageBlocking state.outputs.sourceCoverage
  let coverageCheck : List ClaimCheck := if blocking = [] then []
    else [⟨"connector_coverage", .needsReview, [],
      "Enabled source(s) not satisfied (errored or not attempted): " ++
        (Value.list (blocking.map fun s => .str s.toStr) : Value F).toStr ++ "."⟩]
  let verdict := if blocking ≠ [] ∧ verdict = .passed then .needsReview else verdict
  pure ⟨verdict, checks ++ emptyCheck ++ coverageCheck⟩

private theorem gateResult_eq (report : Dict F) (state : DecisionState F) :
    gateResult report state = runChecks report state >>= concludeGate report state := rfl

/-- The gate without a policy: all thirteen checks in order. -/
def plainGateResult (report : Dict F) (state : DecisionState F) : Except Error GateResult :=
  found (checkRunners report state) >>= concludeGate report state

/-- The gate with the checks of the policy comes to the same verdict and the same list of checks as
with all of them, since those that the policy leaves out find nothing. -/
structure PlainlyChecked (report : Dict F) (state : DecisionState F) : Prop where
  same : gateResult report state = plainGateResult report state
  skipped : ∀ policy, policyFor ((report.get "report_type").orElse
      (.str (classifyReportType state.query).toStr)) = .ok policy →
    ∀ r ∈ checkRunners report state, policy.runsCheck r.1 = false → r.2 = .ok []

/-- The executive answer of the decision memo is a text, or there is none. -/
def ReadableAnswer (report : Dict F) : Prop :=
  ∀ memo, dictOrEmpty? report "management_question_answer" = some memo →
    (memo.get "executive_answer").truthy = false ∨ ∃ s, memo.get "executive_answer" = .str s

/-! ### The checks that are left out -/

omit [Floats F] in
private theorem completes_stripText [Floats F] {v : Value F} :
    Completes v.stripText ↔ v.truthy = false ∨ ∃ s, v = .str s := by
  rw [Value.stripText, Value.orElse]
  cases htruthy : v.truthy with
  | false => exact iff_of_true ⟨_, rfl⟩ (.inl rfl)
  | true =>
    rw [if_pos rfl]
    constructor
    · rintro ⟨text, h⟩
      obtain ⟨s, hs, -⟩ := bind_eq_ok.mp h
      cases v with
      | str s => exact .inr ⟨s, rfl⟩
      | _ => cases hs
    · rintro (hfalse | ⟨s, rfl⟩)
      · cases hfalse
      · exact ⟨_, rfl⟩

private theorem completes_hasMemoAnswer {report : Dict F} :
    Completes (hasMemoAnswer report) ↔ ReadableAnswer report := by
  rw [hasMemoAnswer, ReadableAnswer]
  cases dictOrEmpty? report "management_question_answer" with
  | none => exact iff_of_true ⟨_, rfl⟩ nofun
  | some memo =>
    rw [completes_bind]
    constructor
    · rintro ⟨text, h, -⟩ memo' hmemo
      cases hmemo
      exact completes_stripText.mp ⟨text, h⟩
    · intro h
      obtain ⟨text, htext⟩ := completes_stripText.mpr (h memo rfl)
      exact ⟨text, htext, _, rfl⟩

omit [Floats F] [Text] in
private theorem isOneOf_intentTypes (t : ReportType) :
    isOneOf (.str t.toStr : Value F) intentTypes = decide (t ∈ intentTypes) := by
  cases t <;> rfl

section Typed

variable {report : Dict F} {t : ReportType}
  (ht : report.get "report_type" = .str t.toStr)

include ht

omit [Floats F] in
private theorem typeOfReport_eq (query : String) : typeOfReport report query = .str t.toStr := by
  rw [typeOfReport, Dict.getD, Dict.get?_of_getD ht (by rintro ⟨⟩), Option.getD_some]

omit [Text] in
private theorem orElse_type (v : Value F) : (report.get "report_type").orElse v = .str t.toStr := by
  rw [ht]
  cases t <;> rfl

private theorem checkMemo_skipped (hskip : t ≠ .managementQuestion) (query : String) :
    checkManagementQuestionAnswer report query = .ok [] := by
  rw [checkManagementQuestionAnswer, orElse_type ht]
  cases t <;> first | rfl | exact absurd rfl hskip

private theorem checkIrrelevant_skipped (hskip : t ∉ intentTypes) (query : String) :
    checkIrrelevantSections report query = [] := by
  have hnone : isOneOf (.str t.toStr : Value F) intentTypes = false := by
    rw [isOneOf_intentTypes]
    exact decide_eq_false hskip
  rw [checkIrrelevantSections, typeOfReport_eq ht]
  exact if_neg (by rw [← intentTypes, hnone]; exact Bool.false_ne_true)

/-- The check on the intent reads the memo before it looks at the type. -/
theorem checkIntent_skipped (hskip : t ∉ intentTypes) (query : String) :
    checkIntentCorrectness report query = .ok [] ↔ ReadableAnswer report := by
  have hnone : isOneOf (.str t.toStr : Value F) intentTypes = false := by
    rw [isOneOf_intentTypes]
    exact decide_eq_false hskip
  have hframing : checkSalaryFraming report (.str t.toStr) = .ok [] := by
    rw [checkSalaryFraming]
    cases t <;> first | rfl | exact absurd (by decide) hskip
  rw [← completes_hasMemoAnswer, checkIntentCorrectness, typeOfReport_eq ht, hframing]
  constructor
  · intro h
    obtain ⟨answer, hanswer, -⟩ := bind_eq_ok.mp h
    exact ⟨answer, hanswer⟩
  · rintro ⟨answer, hanswer⟩
    refine bind_eq_ok.mpr ⟨answer, hanswer, ?_⟩
    rw [← intentTypes, hnone]
    rfl

variable {state : DecisionState F}

/-- The checks that the policy leaves out find nothing just if the answer can be read, or the policy
does not leave out the check on the intent. -/
theorem skipped_iff :
    (∀ r ∈ checkRunners report state, (policyOf t).runsCheck r.1 = false → r.2 = .ok []) ↔
      t ∈ intentTypes ∨ ReadableAnswer report := by
  constructor
  · intro h
    by_cases hskip : t ∈ intentTypes
    · exact .inl hskip
    · refine .inr ((checkIntent_skipped ht hskip state.query).mp ?_)
      have hmem : (CheckFamily.intentCorrectness, checkIntentCorrectness report state.query) ∈
          checkRunners report state := by
        simp only [checkRunners, List.mem_cons, true_or, or_true]
      exact h _ hmem ((runsCheck_intent t).trans (decide_eq_false hskip))
  · intro h r hr hskip
    by_cases hbaseline : r.1 ∈ baselineChecks
    · rw [runsCheck_baseline hbaseline] at hskip
      cases hskip
    · simp only [checkRunners, List.mem_cons, List.not_mem_nil, or_false] at hr
      rcases hr with rfl | rfl | rfl | rfl | rfl | rfl | rfl | rfl | rfl | rfl | rfl | rfl | rfl <;>
        try (refine absurd ?_ hbaseline; simp [baselineChecks]; done)
      · rw [runsCheck_memo] at hskip
        exact checkMemo_skipped ht (of_decide_eq_false hskip) _
      · rw [runsCheck_intent] at hskip
        have hnot := of_decide_eq_false hskip
        exact (checkIntent_skipped ht hnot _).mpr (h.resolve_left hnot)
      · rw [runsCheck_irrelevant] at hskip
        exact congrArg Except.ok (checkIrrelevant_skipped ht (of_decide_eq_false hskip) _)

/-- On a report that names its type, the selected checks come to the same as all of them just if the
answer can be read, or the policy does not leave out the check on the intent. -/
theorem plainlyChecked_of_type :
    PlainlyChecked report state ↔ t ∈ intentTypes ∨ ReadableAnswer report := by
  have hpolicy : policyFor ((report.get "report_type").orElse
      (.str (classifyReportType state.query).toStr)) = .ok (policyOf t) := by
    rw [orElse_type ht, policyFor_toStr]
  rw [← skipped_iff ht]
  constructor
  · exact fun h => h.skipped _ hpolicy
  · intro h
    refine ⟨?_, fun policy hpolicy' => ?_⟩
    · have hruns : runChecks report state = found (checkRunners report state) := by
        rw [← found_filter h, runChecks, hpolicy]
        rfl
      rw [gateResult_eq, plainGateResult, hruns]
    · rw [hpolicy] at hpolicy'
      cases hpolicy'
      exact h

end Typed

/-- The report is one that node 12 drafts, in some state and for some answers of the LLM. -/
def Drafted (report : Dict F) : Prop :=
  ∃ mapping replies state drafted, draftRun mapping replies state = .ok drafted ∧
    drafted.reportJson = some report

/-- Selecting the checks of a drafted report by its policy comes to the same as running all of them
just if the executive answer of its decision memo can be read, or its type is one of those whose
policy runs the check on the intent. All other checks that a policy leaves out find nothing in a
report of its type. -/
theorem plainlyChecked_iff {report : Dict F} (hdrafted : Drafted report) (state : DecisionState F) :
    PlainlyChecked report state ↔
      (∃ t ∈ intentTypes, report.get "report_type" = .str t.toStr) ∨ ReadableAnswer report := by
  obtain ⟨mapping, replies, state', drafted, hrun, hreport⟩ := hdrafted
  obtain ⟨report', t, hreport', ht⟩ := reportType_draftRun hrun
  obtain rfl : report = report' := Option.some.inj (hreport.symm.trans hreport')
  rw [plainlyChecked_of_type ht]
  refine or_congr_left ⟨fun hmem => ⟨t, hmem, ht⟩, ?_⟩
  rintro ⟨t', hmem, ht'⟩
  have hsame : some t = some t' := by
    rw [← ReportType.ofStr?_toStr t, ← ReportType.ofStr?_toStr t',
      Value.str.inj (ht.symm.trans ht')]
  rwa [Option.some.inj hsame]

end Selection

section Whole

open Py.Whole

/-- A report of the LLM with a decision memo that gives this answer. -/
def answerDraft (answer : Value ℤ) : Dict ℤ :=
  figureDraft "actual_cost" 999 ++
    [("management_question_answer", .dict [("executive_answer", answer)])]

/-- Node 12 on one posting, when the LLM returns this report. -/
def answerRun (answer : Value ℤ) : Except Error (DecisionState ℤ) :=
  draftRun (fun _ => none) ⟨some (.dict (answerDraft answer)), none, none⟩ (statusState onePosting)

/-- The report that is drafted then. -/
def answerReport (answer : Value ℤ) : Dict ℤ :=
  ((answerRun answer).toOption.bind (·.reportJson)).getD []

private theorem drafted_answerReport {answer : Value ℤ}
    (h : (answerRun answer).toOption.isSome = true) : Drafted (answerReport answer) := by
  obtain ⟨drafted, hrun⟩ := completes_of_isSome h
  obtain ⟨report, -, hreport, -⟩ := reportType_draftRun hrun
  refine ⟨_, _, _, drafted, hrun, ?_⟩
  rw [answerReport, hrun]
  exact hreport.trans (congrArg some (congrArg (·.getD []) hreport).symm)

/-- A draft whose executive answer is a text is judged the same either way. -/
theorem plainlyChecked_textAnswer :
    PlainlyChecked (answerReport (.str "Concrete was posted.")) (statusState onePosting) := by
  refine (plainlyChecked_iff (drafted_answerReport (by decide)) _).mpr (.inr fun memo hmemo => ?_)
  have hanswer : (dictOrEmpty? (answerReport (.str "Concrete was posted."))
      "management_question_answer").all fun memo =>
        (memo.get "executive_answer").eqStr "Concrete was posted." := by
    decide
  rw [hmemo] at hanswer
  exact .inr ⟨_, Value.eqStr_iff.mp hanswer⟩

/-- An answer in the form of a list is no text for the check that is left out. -/
theorem not_plainlyChecked_listAnswer :
    Drafted (answerReport (.list [.str "Concrete was posted."])) ∧
      ¬ PlainlyChecked (answerReport (.list [.str "Concrete was posted."]))
        (statusState onePosting) := by
  refine ⟨drafted_answerReport (by decide), fun h => ?_⟩
  have hselected : (gateResult (answerReport (.list [.str "Concrete was posted."]))
      (statusState onePosting)).toOption.isSome = true := by
    decide
  have hall : (plainGateResult (answerReport (.list [.str "Concrete was posted."]))
      (statusState onePosting)).toOption.isSome = false := by
    decide
  rw [h.same, hall] at hselected
  cases hselected

end Whole

end DecisionCenter
