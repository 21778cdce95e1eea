import DecisionCenter.Graph.CheckSelection

/-!
# What the gate reads of the pack

Node 13 asks of the evidence pack whether it has an id, and whether it is empty. So the verdict
is the same for packs with the same ids, and a report that passes over a pack passes over a
larger one.

The first is a congruence: each of the checks is gone through once, and whatever it does with
the pack it does through the ids (`gateResult_congr`). This holds of checks that raise as well,
since an exception is a result of the run like any other.

The second cannot be had check by check in the form of the verdict, which is a cascade over the
findings of all checks. `Spotless` says that a run of checks ends with nothing to object to, and
that is monotone: an id that is missing from the larger pack is missing from the smaller one,
and no other check asks for ids. A pack that is empty is a case of its own, as the checks are
then told so.

`verdict_pack` has both for the run of node 13. It is about a report that stays the same over
both packs; what node 12 writes over a larger pack is another report, of which it says nothing.
The posted report at the end shows that there are reports which pass.
-/

namespace DecisionCenter

open Py

section Pack

variable {F : Type} [Floats F] [Text]

/-! ### The same ids -/

/-- The two packs have the same ids, in any order and number. -/
def SameIds (evidence evidence' : List (Evidence F)) : Prop :=
  ∀ e, e ∈ evidenceIds evidence ↔ e ∈ evidenceIds evidence'

section Same

variable {ids ids' : List String}

omit [Floats F] [Text] in
private theorem inSet_congr (h : ∀ e, e ∈ ids ↔ e ∈ ids') (v : Value F) :
    v.inSet ids = v.inSet ids' := by
  cases v with
  | str s => simp only [Value.inSet_str, h]
  | _ => rfl

omit [Floats F] [Text] in
private theorem missingIds_congr (h : ∀ e, e ∈ ids ↔ e ∈ ids') (v : Value F) :
    missingIds ids v = missingIds ids' v := by
  simp only [missingIds, inSet_congr h]

omit [Text] in
private theorem checkClaims_congr (h : ∀ e, e ∈ ids ↔ e ∈ ids') (report : Dict F) :
    checkClaims report ids = checkClaims report ids' := by
  have hclaim : checkClaim ids = (checkClaim ids' : String × Dict F → _) := by
    funext claim
    simp only [checkClaim, missingIds_congr h]
  rw [checkClaims, hclaim, checkClaims]

omit [Text] in
private theorem checkFinancials_congr (h : ∀ e, e ∈ ids ↔ e ∈ ids') (report : Dict F) :
    checkFinancials report ids = checkFinancials report ids' := by
  have hfigure (fs : Dict F) : checkFigure fs ids = checkFigure fs ids' := by
    funext field
    simp only [checkFigure, inSet_congr h]
  have hvariance (fs : Dict F) : checkVariance fs ids = checkVariance fs ids' := by
    simp only [checkVariance, missingIds_congr h]
  simp only [checkFinancials, hfigure, hvariance]

end Same

omit [Floats F] [Text] in
private theorem SameIds.isEmpty_eq {evidence evidence' : List (Evidence F)}
    (h : SameIds evidence evidence') : evidence.isEmpty = evidence'.isEmpty := by
  cases evidence with
  | nil =>
    cases evidence' with
    | nil => rfl
    | cons ev evidence' => exact absurd ((h _).mpr List.mem_cons_self) List.not_mem_nil
  | cons ev evidence =>
    cases evidence' with
    | nil => exact absurd ((h _).mp List.mem_cons_self) List.not_mem_nil
    | cons ev' evidence' => rfl

private theorem checkRunners_congr (report : Dict F) {state : DecisionState F}
    {evidence : List (Evidence F)} (h : SameIds evidence state.evidence) :
    checkRunners report { state with evidence := evidence } = checkRunners report state := by
  have hsummary : checkExecutiveSummary report evidence =
      checkExecutiveSummary report state.evidence := by
    simp only [checkExecutiveSummary, h.isEmpty_eq]
  simp only [checkRunners, checkClaims_congr h, checkFinancials_congr h, hsummary]

/-- What the gate finds depends on the ids of the pack alone. -/
theorem gateResult_congr (report : Dict F) {state : DecisionState F} {evidence : List (Evidence F)}
    (h : SameIds evidence state.evidence) :
    gateResult report { state with evidence := evidence } = gateResult report state := by
  have hruns : runChecks report { state with evidence := evidence } = runChecks report state := by
    simp only [runChecks, checkRunners_congr report h]
  simp only [gateResult, hruns, h.isEmpty_eq]

/-! ### A larger pack -/

/-- The checks do not raise, and object to nothing. -/
def Spotless (found : Except Error (List ClaimCheck)) : Prop :=
  ∃ checks, found = .ok checks ∧ ∀ c ∈ checks, c.verdict = .supported

omit [Floats F] [Text] in
private theorem verdictOf_eq_passed {checks : List ClaimCheck} :
    verdictOf checks = .passed ↔ ∀ c ∈ checks, c.verdict = .supported := by
  refine ⟨supported_of_passed, fun h => ?_⟩
  have hnone (v : CheckVerdict) (hv : v ≠ .supported) :
      (checks.any fun c => decide (c.verdict = v)) = false := by
    rw [List.any_eq_false]
    intro c hc
    rw [h c hc, decide_eq_true_eq]
    exact hv.symm
  rw [verdictOf, hnone .unsupported (by decide), hnone .needsReview (by decide)]
  rfl

/-- The checks of the content are spotless just if those are that the policy selects. A check that
raises is not spotless. -/
theorem spotless_runChecks {report : Dict F} {state : DecisionState F} :
    Spotless (runChecks report state) ↔ ∃ policy, policyFor ((report.get "report_type").orElse
        (.str (classifyReportType state.query).toStr)) = .ok policy ∧
      ∀ r ∈ checkRunners report state, policy.runsCheck r.1 = true → Spotless r.2 := by
  constructor
  · rintro ⟨checks, h, hs⟩
    obtain ⟨policy, hpolicy, h⟩ := bind_eq_ok.mp h
    obtain ⟨results, hresults, h⟩ := bind_eq_ok.mp h
    cases h
    refine ⟨policy, hpolicy, fun r hr hruns => ?_⟩
    have hkept : r ∈ (checkRunners report state).filter fun r => policy.runsCheck r.1 :=
      List.mem_filter.mpr ⟨hr, hruns⟩
    obtain ⟨found, hfound⟩ := completes_mapM.mp ⟨results, hresults⟩ r hkept
    exact ⟨found, hfound, fun c hc => hs c (List.mem_flatten.mpr
      ⟨found, (mem_of_mapM hresults).mpr ⟨r, hkept, hfound⟩, hc⟩)⟩
  · rintro ⟨policy, hpolicy, h⟩
    have hall : ∀ r ∈ (checkRunners report state).filter fun r => policy.runsCheck r.1,
        Spotless r.2 := fun r hr => h r (List.mem_filter.mp hr).1 (List.mem_filter.mp hr).2
    obtain ⟨results, hresults⟩ : Completes
        (((checkRunners report state).filter fun r => policy.runsCheck r.1).mapM fun r => r.2) :=
      completes_mapM.mpr fun r hr => (hall r hr).imp fun _ hfound => hfound.1
    refine ⟨results.flatten, bind_eq_ok.mpr ⟨policy, hpolicy, bind_eq_ok.mpr
      ⟨results, hresults, rfl⟩⟩, fun c hc => ?_⟩
    obtain ⟨found, hfound, hc⟩ := List.mem_flatten.mp hc
    obtain ⟨r, hr, hrfound⟩ := (mem_of_mapM hresults).mp hfound
    obtain ⟨found', hfound', hs⟩ := hall r hr
    obtain rfl : found = found' := Except.ok.inj (hrfound.symm.trans hfound')
    exact hs c hc

section Larger

variable {ids ids' : List String}

omit [Floats F] [Text] in
/-- No id is missing from a larger pack. -/
theorem missingIds_mono (hsub : ids ⊆ ids') {v : Value F} (h : missingIds ids v = .ok []) :
    missingIds ids' v = .ok [] := by
  obtain ⟨xs, hxs, hall⟩ := missingIds_eq_nil.mp h
  refine missingIds_eq_nil.mpr ⟨xs, hxs, fun x hx => ?_⟩
  obtain ⟨e, he, hxe⟩ := hall x hx
  exact ⟨e, hsub he, hxe⟩

omit [Text] in
private theorem checkClaim_mono (hsub : ids ⊆ ids') {claim : String × Dict F} {c : ClaimCheck}
    (h : checkClaim ids claim = .ok c) (hc : c.verdict = .supported) :
    checkClaim ids' claim = .ok c := by
  unfold checkClaim at h ⊢
  dsimp only at h ⊢
  split at h
  · cases h
    cases hc
  · next htruthy =>
    obtain ⟨missing, hmissing, h⟩ := bind_eq_ok.mp h
    rw [if_neg htruthy]
    cases missing with
    | nil => exact bind_eq_ok.mpr ⟨[], missingIds_mono hsub hmissing, h⟩
    | cons e es =>
      obtain ⟨eids, -, h⟩ := bind_eq_ok.mp h
      cases h
      cases hc

omit [Text] in
private theorem checkClaims_mono (hsub : ids ⊆ ids') {report : Dict F}
    (h : Spotless (checkClaims report ids)) : Spotless (checkClaims report ids') := by
  obtain ⟨checks, h, hs⟩ := h
  obtain ⟨claims, hclaims, h⟩ := bind_eq_ok.mp h
  have hsteps := mapM_eq_ok.mp h
  have hmono (claims : List (String × Dict F)) (checks : List ClaimCheck)
      (hsteps : List.Forall₂ (fun claim c => checkClaim ids claim = .ok c) claims checks)
      (hs : ∀ c ∈ checks, c.verdict = .supported) :
      List.Forall₂ (fun claim c => checkClaim ids' claim = .ok c) claims checks := by
    induction hsteps with
    | nil => exact .nil
    | cons hc _ ih =>
      obtain ⟨hsc, hs⟩ := List.forall_mem_cons.mp hs
      exact .cons (checkClaim_mono hsub hc hsc) (ih hs)
  exact ⟨checks, bind_eq_ok.mpr ⟨claims, hclaims, mapM_eq_ok.mpr (hmono _ _ hsteps hs)⟩, hs⟩

omit [Text] in
/-- A figure that cites an id of the pack cites one of a larger pack. -/
private theorem checkFigure_mono (hsub : ids ⊆ ids') {fs : Dict F} {field : String}
    (h : Spotless (checkFigure fs ids field)) : checkFigure fs ids' field = .ok [] := by
  obtain ⟨checks, h, hs⟩ := h
  unfold checkFigure at h ⊢
  split at h
  · rfl
  · next node hnode =>
    split at h
    · next hstatus =>
      rw [if_pos hstatus]
      dsimp only at h ⊢
      split at h
      · cases h
        cases hs _ List.mem_cons_self
      · next htruthy =>
        obtain ⟨found, hfound, h⟩ := bind_eq_ok.mp h
        -- an id of the smaller pack is one of the larger; any other is reported
        cases found with
        | true =>
          obtain ⟨e, he, hid⟩ := Value.inSet_eq_true hfound
          rw [if_neg htruthy, hid, bind_eq_ok]
          exact ⟨true, by rw [Value.inSet_str, decide_eq_true (hsub he)], rfl⟩
        | false =>
          obtain ⟨c, hc, h⟩ := bind_eq_ok.mp h
          obtain ⟨eids, -, hc⟩ := bind_eq_ok.mp hc
          cases hc
          cases h
          cases hs _ List.mem_cons_self
    · next hstatus =>
      rw [if_neg hstatus]
      rfl

omit [Text] in
/-- A variance that cites ids of the pack cites ids of a larger one. -/
private theorem checkVariance_mono (hsub : ids ⊆ ids') {fs : Dict F}
    (h : Spotless (checkVariance fs ids)) : checkVariance fs ids' = .ok [] := by
  obtain ⟨checks, h, hs⟩ := h
  unfold checkVariance at h ⊢
  split at h
  · rfl
  · next variance hvariance =>
    dsimp only at h ⊢
    split at h
    · next hempty =>
      rw [if_pos hempty]
      rfl
    · next hsome =>
      obtain ⟨missing, hmissing, h⟩ := bind_eq_ok.mp h
      rw [if_neg hsome, bind_eq_ok]
      cases missing with
      | nil => exact ⟨[], missingIds_mono hsub hmissing, rfl⟩
      | cons e es =>
        obtain ⟨c, hc, h⟩ := bind_eq_ok.mp h
        obtain ⟨eids, -, hc⟩ := bind_eq_ok.mp hc
        cases hc
        cases h
        cases hs _ List.mem_cons_self

omit [Text] in
/-- The check on the figures has no more to say over a larger pack. -/
private theorem checkFinancials_mono (hsub : ids ⊆ ids') {report : Dict F}
    (h : Spotless (checkFinancials report ids)) : Spotless (checkFinancials report ids') := by
  obtain ⟨checks, h, hs⟩ := h
  unfold checkFinancials at h ⊢
  split at h
  · exact ⟨[], rfl, nofun⟩
  · next fs hfs =>
    obtain ⟨figures, hfigures, h⟩ := bind_eq_ok.mp h
    obtain ⟨variance, hvariance, h⟩ := bind_eq_ok.mp h
    cases h
    have hfigure : ∀ field ∈ gatedFigures, checkFigure fs ids' field = .ok [] := by
      intro field hfield
      obtain ⟨found, hfound⟩ := completes_mapM.mp ⟨figures, hfigures⟩ field hfield
      refine checkFigure_mono hsub ⟨found, hfound, fun c hc => hs c (List.mem_append_left _ ?_)⟩
      exact List.mem_flatten.mpr ⟨found, (mem_of_mapM hfigures).mpr ⟨field, hfield, hfound⟩, hc⟩
    have hvariance' := checkVariance_mono hsub
      ⟨variance, hvariance, fun c hc => hs c (List.mem_append_right _ hc)⟩
    obtain ⟨figures', hfigures'⟩ : Completes (gatedFigures.mapM (checkFigure fs ids')) :=
      completes_mapM.mpr fun field hfield => ⟨[], hfigure field hfield⟩
    refine ⟨figures'.flatten ++ [], bind_eq_ok.mpr ⟨figures', hfigures', bind_eq_ok.mpr
      ⟨[], hvariance', rfl⟩⟩, fun c hc => ?_⟩
    rw [List.append_nil] at hc
    obtain ⟨found, hfound, hc⟩ := List.mem_flatten.mp hc
    obtain ⟨field, hfield, hnil⟩ := (mem_of_mapM hfigures').mp hfound
    rw [hfigure field hfield] at hnil
    cases hnil
    cases hc

end Larger

/-- Further items in a pack that is not empty leave every check without an objection. -/
theorem spotless_checkRunners {report : Dict F} {state : DecisionState F}
    {evidence : List (Evidence F)} (hpack : state.evidence ≠ []) (hsub : state.evidence ⊆ evidence)
    {keep : CheckFamily → Bool}
    (h : ∀ r ∈ checkRunners report state, keep r.1 = true → Spotless r.2) :
    ∀ r ∈ checkRunners report { state with evidence := evidence }, keep r.1 = true →
      Spotless r.2 := by
  have hids : evidenceIds state.evidence ⊆ evidenceIds evidence := List.map_subset _ hsub
  have hempty : evidence.isEmpty = state.evidence.isEmpty := by
    rw [List.isEmpty_eq_false_iff.mpr hpack, List.isEmpty_eq_false_iff]
    rintro rfl
    exact hpack (List.subset_nil.mp hsub)
  have hsummary : checkExecutiveSummary report evidence =
      checkExecutiveSummary report state.evidence := by
    simp only [checkExecutiveSummary, hempty]
  simp only [checkRunners, List.forall_mem_cons, hsummary] at h ⊢
  obtain ⟨hclaims, hfinancials, hrest⟩ := h
  exact ⟨fun hkeep => checkClaims_mono hids (hclaims hkeep),
    fun hkeep => checkFinancials_mono hids (hfinancials hkeep), hrest⟩

/-- A report that passes over a pack passes over a larger one. -/
theorem gatePasses_mono {state : DecisionState F} {evidence : List (Evidence F)}
    (hpack : state.evidence ≠ []) (hsub : state.evidence ⊆ evidence) (h : GatePasses state) :
    GatePasses { state with evidence := evidence } := by
  obtain ⟨⟨checks, claims, hchecks, hverdict, hclaims, -⟩, hnone⟩ := gatePasses_iff.mp h
  obtain ⟨policy, hpolicy, hspotless⟩ :=
    spotless_runChecks.mp ⟨checks, hchecks, verdictOf_eq_passed.mp hverdict⟩
  obtain ⟨checks', hchecks', hs⟩ : Spotless (runChecks (state.reportJson.getD [])
      { state with evidence := evidence }) :=
    spotless_runChecks.mpr ⟨policy, hpolicy, spotless_checkRunners hpack hsub hspotless⟩
  refine gatePasses_iff.mpr
    ⟨⟨checks', claims, hchecks', verdictOf_eq_passed.mpr hs, hclaims, fun hnothing => ?_⟩, hnone⟩
  exact hpack (List.subset_nil.mp (hnothing.2 ▸ hsub))

/-- The verdict of node 13. -/
def verdictOfRun (state : DecisionState F) : Except Error (Option Verdict) := do
  pure (← gateRun state).outputs.qualityGate

private theorem verdictOfRun_congr {state : DecisionState F} {evidence : List (Evidence F)}
    (h : SameIds evidence state.evidence) :
    verdictOfRun { state with evidence := evidence } = verdictOfRun state := by
  rw [verdictOfRun, gateRun, verdictOfRun, gateRun, gateResult_congr _ h]
  cases gateResult (state.reportJson.getD []) state <;> rfl

private theorem gatePasses_iff_verdict {state : DecisionState F} :
    GatePasses state ↔ verdictOfRun state = .ok (some .passed) := by
  rw [verdictOfRun, bind_eq_ok]
  exact exists_congr fun state' => and_congr_right fun _ =>
    ⟨fun h => congrArg Except.ok h, Except.ok.inj⟩

/-- A report that passes over some evidence passes over more, and its verdict depends on the pack
through the set of its ids alone. The pack it passes over must not be empty, as the checks are told
whether it is. -/
theorem verdict_pack (state : DecisionState F) (evidence : List (Evidence F)) :
    (verdictOfRun state = .ok (some .passed) → state.evidence ≠ [] → state.evidence ⊆ evidence →
      verdictOfRun { state with evidence := evidence } = .ok (some .passed)) ∧
      (SameIds evidence state.evidence →
        verdictOfRun { state with evidence := evidence } = verdictOfRun state) :=
  ⟨fun h hpack hsub => gatePasses_iff_verdict.mp
    (gatePasses_mono hpack hsub (gatePasses_iff_verdict.mpr h)), verdictOfRun_congr⟩

end Pack

section Whole

open Py.Whole

/-- A report with one claim, on one posting. -/
def postedReport : Dict ℤ :=
  [("report_type", .str "general_project_status"),
    ("project_identity", .dict [("project_code", .str "P1"), ("project_name", .str "Depot"),
      ("identity_confidence", .str "verified")]),
    ("executive_summary", .list [.dict [("claim", .str "Concrete supply was posted."),
      ("evidence_ids", .list [.str "odoo-account-analytic-line-1"])]])]

/-- The report over the posting it cites. -/
def postedState : DecisionState ℤ := { statusState onePosting with reportJson := some postedReport }

/-- The posted report passes over a larger pack, and over one with its posting twice. -/
theorem verdict_postings :
    verdictOfRun { postedState with
        evidence := analyticLine "2" "Steel supply" (-50) :: onePosting } = .ok (some .passed) ∧
      verdictOfRun { postedState with evidence := onePosting ++ onePosting } =
        verdictOfRun postedState := by
  have hpassed : verdictOfRun postedState = .ok (some .passed) := eq_ok_of_toOption (by decide)
  refine ⟨(verdict_pack postedState _).1 hpassed nofun (List.subset_cons_self _ _),
    (verdict_pack postedState _).2 fun e => ?_⟩
  simp [evidenceIds, postedState, statusState]

end Whole

end DecisionCenter
