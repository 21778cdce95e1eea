import DecisionCenter.Graph.QualityGate

/-!
# What a passed gate says

Which conditions the verdict `passed` of node 13 comes down to, and what the checks on claims
and figures, which every policy runs, then say about the report.

A verdict is lowered step by step, by the findings of the checks, by the sources that block and
by the evidence that is missing; `gatePasses_iff` takes the steps apart, so that `passed` means
that no step has lowered it. The checks of a family that every policy runs are among those of
the gate (`runChecks_baseline`), and with the verdict `passed` none has found a fault
(`supported_of_passed`).

Two of the checks are then read as statements about the report. The claims of the claim sections
that are objects cite ids of the pack, at least one and no others: `Cited`, in both directions,
so that the same lemma shows that a report whose objects cite the pack is not objected to
(`checkClaims_of_cited`, `cited_of_checkClaims`). And a figure that is marked available cites
the pack under an id that is not empty.

`PassedReport` collects this, and `passedReport_of_gateRun` has it of every run of node 13 on a
report of a known type that ends with `passed`. What is not an object in a claim section is not
collected by the check, and nothing is said about it.
-/

namespace DecisionCenter

open Py

variable {F : Type} [Floats F] [Text]

/-! ### The verdict -/

/-- The checks of the content find no fault, and there is a claim or an item of evidence. -/
def ContentPasses (state : DecisionState F) : Prop :=
  ∃ checks claims, runChecks (state.reportJson.getD []) state = .ok checks ∧
    verdictOf checks = .passed ∧ collectClaims (state.reportJson.getD []) = .ok claims ∧
    ¬ (claims = [] ∧ state.evidence = [])

/-- Node 13 ends with the verdict `passed`. -/
def GatePasses (state : DecisionState F) : Prop :=
  ∃ state', gateRun state = .ok state' ∧ state'.outputs.qualityGate = some .passed

omit [Floats F] [Text] in
/-- The step of `run` that downgrades a passed verdict. -/
theorem downgrade_eq_passed_iff {p : Prop} [Decidable p] {v : Verdict} :
    (if p ∧ v = .passed then Verdict.needsReview else v) = .passed ↔ v = .passed ∧ ¬ p := by
  split
  · next h => simp [h.1]
  · next h => exact ⟨fun hv => ⟨hv, fun hp => h ⟨hp, hv⟩⟩, And.left⟩

/-- Over the checks of the content, the gate asks that no source block. An empty report on an empty
pack fails by itself. -/
theorem gatePasses_iff {state : DecisionState F} :
    GatePasses state ↔
      ContentPasses state ∧ coverageBlocking state.outputs.sourceCoverage = [] := by
  have hverdict : ∀ {checks : List ClaimCheck} {claims : List (String × Dict F)},
      (if claims.isEmpty && state.evidence.isEmpty then Verdict.failed else verdictOf checks) =
        .passed ↔ verdictOf checks = .passed ∧ ¬ (claims = [] ∧ state.evidence = []) := by
    intro checks claims
    rw [← List.isEmpty_iff, ← List.isEmpty_iff (l := state.evidence), ← Bool.and_eq_true]
    split
    · next h => simp [h]
    · next h => simp [h]
  constructor
  · rintro ⟨state', hrun, hpassed⟩
    obtain ⟨result, hresult, hstate⟩ := bind_eq_ok.mp hrun
    obtain ⟨checks, hchecks, hresult⟩ := bind_eq_ok.mp hresult
    obtain ⟨claims, hclaims, hresult⟩ := bind_eq_ok.mp hresult
    cases hstate
    cases hresult
    obtain ⟨hcontent, hnone⟩ := downgrade_eq_passed_iff.mp (Option.some.inj hpassed)
    obtain ⟨hpassed, hsome⟩ := hverdict.mp hcontent
    exact ⟨⟨checks, claims, hchecks, hpassed, hclaims, hsome⟩, not_ne_iff.mp hnone⟩
  · rintro ⟨⟨checks, claims, hchecks, hpassed, hclaims, hsome⟩, hnone⟩
    refine ⟨_, bind_eq_ok.mpr ⟨_, bind_eq_ok.mpr ⟨checks, hchecks, bind_eq_ok.mpr
      ⟨claims, hclaims, rfl⟩⟩, rfl⟩, congrArg some (downgrade_eq_passed_iff.mpr ⟨?_, ?_⟩)⟩
    · exact hverdict.mpr ⟨hpassed, hsome⟩
    · exact not_ne_iff.mpr hnone

omit [Floats F] [Text] in
/-- With the verdict `passed`, no check has found a fault. -/
theorem supported_of_passed {checks : List ClaimCheck} (h : verdictOf checks = .passed) :
    ∀ c ∈ checks, c.verdict = .supported := by
  intro c hc
  unfold verdictOf at h
  split at h
  · cases h
  · next hunsupported =>
    split at h
    · cases h
    · next hreview =>
      simp only [List.any_eq_true, decide_eq_true_eq, not_exists, not_and] at hunsupported hreview
      cases hverdict : c.verdict with
      | supported => rfl
      | unsupported => exact absurd hverdict (hunsupported c hc)
      | needsReview => exact absurd hverdict (hreview c hc)

/-- The checks of a family that every policy runs are among those of the gate. What the other
families find depends on the type of the report. -/
theorem runChecks_baseline {report : Dict F} {state : DecisionState F} {checks : List ClaimCheck}
    {t : ReportType} (ht : report.get "report_type" = .str t.toStr)
    (h : runChecks report state = .ok checks) {family : CheckFamily}
    {runner : Except Error (List ClaimCheck)} (hfamily : family ∈ baselineChecks)
    (hrunner : (family, runner) ∈ checkRunners report state) :
    ∃ found, runner = .ok found ∧ found ⊆ checks := by
  obtain ⟨policy, hpolicy, h⟩ := bind_eq_ok.mp h
  obtain ⟨results, hresults, h⟩ := bind_eq_ok.mp h
  cases h
  have htype : (report.get "report_type").orElse
      (.str (classifyReportType state.query).toStr) = .str t.toStr := by
    rw [ht]
    cases t <;> rfl
  rw [htype, policyFor_toStr] at hpolicy
  cases hpolicy
  have hruns : (policyOf t).runsCheck family = true :=
    decide_eq_true (baseline_subset_policyOf t hfamily)
  have hkept : (family, runner) ∈ (checkRunners report state).filter fun r =>
      (policyOf t).runsCheck r.1 := List.mem_filter.mpr ⟨hrunner, hruns⟩
  obtain ⟨found, hfound⟩ := completes_mapM.mp ⟨results, hresults⟩ _ hkept
  refine ⟨found, hfound, fun c hc => ?_⟩
  exact List.mem_flatten.mpr ⟨found, (mem_of_mapM hresults).mpr ⟨_, hkept, hfound⟩, hc⟩

/-! ### Cited claims -/

omit [Floats F] [Text] in
/-- The item is an object with a nonempty list of ids, all among the given ones. -/
def Cited (ids : List String) (item : Value F) : Prop :=
  ∃ (d : Dict F) (eids : List String), item = .dict d ∧
    d.get "evidence_ids" = .list (eids.map .str) ∧ eids ≠ [] ∧ ∀ e ∈ eids, e ∈ ids

omit [Floats F] [Text] in
private theorem validatedIds_eq_ok {v : Value F} {eids : List String}
    (h : validatedIds v = .ok eids) : v = .list (eids.map .str) := by
  unfold validatedIds at h
  split at h
  · next xs =>
    have hsteps := mapM_eq_ok.mp h
    clear h
    congr 1
    induction hsteps with
    | nil => rfl
    | cons hx _ ih =>
      rw [List.map_cons, ih]
      unfold strictStr at hx
      split at hx
      · cases hx
        rfl
      · cases hx
  · cases h

omit [Floats F] [Text] in
/-- No id is missing just if all are ids of the pack. -/
theorem missingIds_eq_nil {ids : List String} {v : Value F} :
    missingIds ids v = .ok [] ↔ ∃ xs, v.iter = .ok xs ∧ ∀ x ∈ xs, ∃ e ∈ ids, x = .str e := by
  rw [missingIds, bind_eq_ok]
  refine exists_congr fun xs => and_congr_right fun _ => ?_
  rw [filterM_eq_nil]
  refine forall₂_congr fun x _ => ?_
  constructor
  · intro h
    obtain ⟨b, hb, h⟩ := bind_eq_ok.mp h
    cases b with
    | true => exact Value.inSet_eq_true hb
    | false => cases h
  · rintro ⟨e, he, rfl⟩
    rw [Value.inSet_str, decide_eq_true he]
    rfl

omit [Floats F] [Text] in
private theorem mem_of_missingIds {ids eids : List String}
    (h : missingIds ids (.list (eids.map .str) : Value F) = .ok []) : ∀ e ∈ eids, e ∈ ids := by
  intro e he
  obtain ⟨xs, hxs, hall⟩ := missingIds_eq_nil.mp h
  cases hxs
  obtain ⟨e', he', heq⟩ := hall (.str e) (List.mem_map_of_mem he)
  rwa [Value.str.inj heq]

omit [Floats F] [Text] in
private theorem validatedIds_map_str (eids : List String) :
    validatedIds (.list (eids.map .str) : Value F) = .ok eids := by
  rw [validatedIds, mapM_eq_ok, List.forall₂_map_left_iff]
  exact List.forall₂_same.mpr fun _ _ => rfl

omit [Text] in
/-- A claim that cites the pack is supported. -/
theorem checkClaim_of_cited {ids : List String} {d : Dict F} (h : Cited ids (.dict d))
    (name : String) :
    ∃ c, checkClaim ids (name, d) = .ok c ∧ c.verdict = .supported := by
  obtain ⟨d', eids, hd, hget, hne, hids⟩ := h
  cases hd
  have hgetD : d.getD "evidence_ids" (.list []) = .list (eids.map .str) := by
    rw [Dict.getD, Dict.get?_of_getD hget (by rintro ⟨⟩)]
    rfl
  have hmissing : missingIds ids (.list (eids.map .str) : Value F) = .ok [] :=
    missingIds_eq_nil.mpr ⟨_, rfl, fun x hx => by
      obtain ⟨e, he, rfl⟩ := List.mem_map.mp hx
      exact ⟨e, hids e he, rfl⟩⟩
  refine ⟨⟨name, .supported, eids, "All evidence_ids present in evidence pack."⟩, ?_, rfl⟩
  rw [checkClaim]
  dsimp only
  rw [hgetD, if_neg (by simpa [Value.truthy] using hne), bind_eq_ok]
  exact ⟨[], hmissing, bind_eq_ok.mpr ⟨eids, validatedIds_map_str eids, rfl⟩⟩

omit [Text] in
/-- A supported claim cites the pack. The check asks that it cites at all, and that no id is missing
from the pack. -/
theorem cited_of_supported {ids : List String} {name : String} {d : Dict F} {c : ClaimCheck}
    (h : checkClaim ids (name, d) = .ok c) (hc : c.verdict = .supported) :
    Cited ids (.dict d) := by
  unfold checkClaim at h
  dsimp only at h
  split at h
  · cases h
    cases hc
  · next htruthy =>
    obtain ⟨missing, hmissing, h⟩ := bind_eq_ok.mp h
    cases missing with
    | cons e es =>
      obtain ⟨eids, -, h⟩ := bind_eq_ok.mp h
      cases h
      cases hc
    | nil =>
      obtain ⟨eids, heids, -⟩ := bind_eq_ok.mp h
      have hlist := validatedIds_eq_ok heids
      rw [hlist] at hmissing htruthy
      have hne : eids ≠ [] := by
        rintro rfl
        exact htruthy rfl
      refine ⟨d, eids, rfl, ?_, hne, mem_of_missingIds hmissing⟩
      -- a list of ids is not the default
      rw [Dict.getD] at hlist
      rw [Dict.get, Dict.getD]
      cases hget : Dict.get? d "evidence_ids" with
      | some v =>
        rw [hget] at hlist
        exact hlist
      | none =>
        rw [hget, Option.getD_none, Value.list.injEq] at hlist
        exact absurd (List.map_eq_nil_iff.mp hlist.symm) hne

omit [Floats F] [Text] in
/-- Every object of a section is collected. -/
theorem mem_collectSection {report : Dict F} {sec : String} {claims : List (String × Dict F)}
    (h : collectSection report sec = .ok claims) {items : List (Value F)}
    (hitems : (report.getD sec (.list [])).iter = .ok items) {d : Dict F}
    (hd : Value.dict d ∈ items) : ∃ name, (name, d) ∈ claims := by
  obtain ⟨items', hitems', h⟩ := bind_eq_ok.mp h
  rw [hitems] at hitems'
  cases hitems'
  cases h
  obtain ⟨i, hi, hget⟩ := List.mem_iff_getElem.mp hd
  refine ⟨sec ++ "[" ++ toString i ++ "]", ?_⟩
  rw [List.mem_filterMap]
  refine ⟨some (sec ++ "[" ++ toString i ++ "]", d), ?_, rfl⟩
  rw [List.mem_mapIdx]
  exact ⟨i, hi, by rw [hget]; rfl⟩

omit [Floats F] [Text] in
/-- What is collected are objects of the section. -/
theorem of_mem_collectSection {report : Dict F} {sec : String} {claims : List (String × Dict F)}
    (h : collectSection report sec = .ok claims) {claim : String × Dict F}
    (hclaim : claim ∈ claims) :
    ∃ items, (report.getD sec (.list [])).iter = .ok items ∧ .dict claim.2 ∈ items := by
  obtain ⟨items, hitems, h⟩ := bind_eq_ok.mp h
  cases h
  obtain ⟨entry, hentry, rfl⟩ := List.mem_filterMap.mp hclaim
  obtain ⟨i, hi, heq⟩ := List.mem_mapIdx.mp hentry
  obtain ⟨d, hd, rfl⟩ := Option.map_eq_some_iff.mp heq
  refine ⟨items, hitems, ?_⟩
  rw [← Value.asDict?_eq_some.mp hd]
  exact List.getElem_mem hi

omit [Text] in
/-- Where the claim sections are lists of objects that cite the pack, all claims are supported. No
section can raise, as all of them are lists. -/
theorem checkClaims_of_cited {report : Dict F} {ids : List String}
    (h : ∀ sec ∈ claimSections, ∃ items, report.get? sec = some (.list items) ∧
      ∀ item ∈ items, Cited ids item) :
    ∃ checks, checkClaims report ids = .ok checks ∧ ∀ c ∈ checks, c.verdict = .supported := by
  have hgetD {sec : String} {items : List (Value F)}
      (hitems : report.get? sec = some (.list items)) :
      report.getD sec (.list []) = .list items := by rw [Dict.getD, hitems, Option.getD_some]
  obtain ⟨sections, hsections⟩ : Completes (claimSections.mapM (collectSection report)) := by
    refine completes_mapM.mpr fun sec hsec => ?_
    obtain ⟨items, hitems, -⟩ := h sec hsec
    exact ⟨_, bind_eq_ok.mpr ⟨items, by rw [hgetD hitems]; rfl, rfl⟩⟩
  have hcited : ∀ claim ∈ sections.flatten, Cited ids (.dict claim.2) := by
    intro claim hclaim
    obtain ⟨claims, hclaims, hclaim⟩ := List.mem_flatten.mp hclaim
    obtain ⟨sec, hsec, hcollected⟩ := (mem_of_mapM hsections).mp hclaims
    obtain ⟨items, hitems, hall⟩ := h sec hsec
    obtain ⟨items', hitems', hmem⟩ := of_mem_collectSection hcollected hclaim
    rw [hgetD hitems] at hitems'
    cases hitems'
    exact hall _ hmem
  obtain ⟨checks, hchecks⟩ : Completes (sections.flatten.mapM (checkClaim ids)) :=
    completes_mapM.mpr fun claim hclaim =>
      (checkClaim_of_cited (hcited claim hclaim) claim.1).imp fun _ hc => hc.1
  refine ⟨checks, bind_eq_ok.mpr ⟨_, bind_eq_ok.mpr ⟨sections, hsections, rfl⟩, hchecks⟩, ?_⟩
  intro c hc
  obtain ⟨claim, hclaim, hcheck⟩ := (mem_of_mapM hchecks).mp hc
  obtain ⟨c', hcheck', hc'⟩ := checkClaim_of_cited (hcited claim hclaim) claim.1
  obtain rfl : c = c' := Except.ok.inj (hcheck.symm.trans hcheck')
  exact hc'

omit [Text] in
/-- When all claims are supported, every object of a claim section cites the pack. -/
theorem cited_of_checkClaims {report : Dict F} {ids : List String} {checks : List ClaimCheck}
    (h : checkClaims report ids = .ok checks) (hs : ∀ c ∈ checks, c.verdict = .supported)
    {sec : String} (hsec : sec ∈ claimSections) {items : List (Value F)}
    (hitems : (report.getD sec (.list [])).iter = .ok items) {d : Dict F}
    (hd : Value.dict d ∈ items) : Cited ids (.dict d) := by
  obtain ⟨claims, hclaims, hchecks⟩ := bind_eq_ok.mp h
  obtain ⟨sections, hsections, hclaims⟩ := bind_eq_ok.mp hclaims
  cases hclaims
  obtain ⟨collected, hcollected⟩ := completes_mapM.mp ⟨sections, hsections⟩ sec hsec
  obtain ⟨name, hname⟩ := mem_collectSection hcollected hitems hd
  have hmem : (name, d) ∈ sections.flatten := List.mem_flatten.mpr
    ⟨collected, (mem_of_mapM hsections).mpr ⟨sec, hsec, hcollected⟩, hname⟩
  obtain ⟨c, hc⟩ := completes_mapM.mp ⟨checks, hchecks⟩ (name, d) hmem
  exact cited_of_supported hc (hs c ((mem_of_mapM hchecks).mpr ⟨_, hmem, hc⟩))

/-! ### Cited figures -/

omit [Text] in
/-- An available figure that is not objected to cites the pack under a nonempty id. One without an
id is objected to. -/
theorem citesPack_of_checkFigure {fs node : Dict F} {ids : List String} {field : String}
    {checks : List ClaimCheck} (h : checkFigure fs ids field = .ok checks)
    (hs : ∀ c ∈ checks, c.verdict = .supported) (hnode : fs.dict? field = some node)
    (hstatus : node.get "status" = .str "available") :
    ∃ e ∈ ids, node.get "evidence_id" = .str e ∧ e ≠ "" := by
  unfold checkFigure at h
  rw [hnode] at h
  dsimp only at h
  rw [if_pos (Value.eqStr_iff.mpr hstatus)] at h
  split at h
  · -- an available figure without an id is objected to
    cases h
    cases hs _ List.mem_cons_self
  · next htruthy =>
    obtain ⟨found, hfound, h⟩ := bind_eq_ok.mp h
    cases found with
    | true =>
      obtain ⟨e, he, hid⟩ := Value.inSet_eq_true hfound
      refine ⟨e, he, hid, ?_⟩
      rintro rfl
      rw [hid] at htruthy
      exact htruthy rfl
    | false =>
      obtain ⟨c, hc, h⟩ := bind_eq_ok.mp h
      obtain ⟨eids, -, hc⟩ := bind_eq_ok.mp hc
      cases hc
      cases h
      cases hs _ List.mem_cons_self

omit [Text] in
private theorem citesPack_of_checkFinancials {report fs node : Dict F} {ids : List String}
    {field : String} {checks : List ClaimCheck} (h : checkFinancials report ids = .ok checks)
    (hs : ∀ c ∈ checks, c.verdict = .supported) (hfs : report.dict? "financial_snapshot" = some fs)
    (hfield : field ∈ gatedFigures) (hnode : fs.dict? field = some node)
    (hstatus : node.get "status" = .str "available") :
    ∃ e ∈ ids, node.get "evidence_id" = .str e ∧ e ≠ "" := by
  unfold checkFinancials at h
  rw [hfs] at h
  obtain ⟨figures, hfigures, h⟩ := bind_eq_ok.mp h
  obtain ⟨variance, -, h⟩ := bind_eq_ok.mp h
  cases h
  obtain ⟨found, hfound⟩ := completes_mapM.mp ⟨figures, hfigures⟩ field hfield
  refine citesPack_of_checkFigure hfound (fun c hc => hs c ?_) hnode hstatus
  exact List.mem_append_left _ (List.mem_flatten.mpr
    ⟨found, (mem_of_mapM hfigures).mpr ⟨field, hfield, hfound⟩, hc⟩)

/-! ### The passed report -/

/-- What the verdict `passed` says of a report: its claims and its available figures cite the
pack. -/
structure PassedReport (ids : List String) (report : Dict F) : Prop where
  claims : ∀ sec ∈ claimSections, ∀ items, (report.getD sec (.list [])).iter = .ok items →
    ∀ d, Value.dict d ∈ items → Cited ids (.dict d)
  figures : ∀ fs, report.dict? "financial_snapshot" = some fs → ∀ field ∈ gatedFigures, ∀ node,
    fs.dict? field = some node → node.get "status" = .str "available" →
      ∃ e ∈ ids, node.get "evidence_id" = .str e ∧ e ≠ ""

/-- A report of a known type that passes, and what node 13 leaves of it. The baseline checks run for
every type, and the stamps are three keys of their own. -/
theorem passedReport_of_gateRun {state state' : DecisionState F} {report : Dict F}
    {t : ReportType} (hreport : state.reportJson = some report)
    (ht : report.get "report_type" = .str t.toStr) (h : gateRun state = .ok state')
    (hpassed : state'.outputs.qualityGate = some .passed) :
    PassedReport (evidenceIds state.evidence) report ∧
      ∃ stamped, state'.reportJson = some stamped ∧
        Dict.Frame ["quality_gate_status", "evidence_completeness", "analytical_completeness"]
          report stamped := by
  have hcontent := (gatePasses_iff.mp ⟨state', h, hpassed⟩).1
  obtain ⟨checks, -, hchecks, hverdict, -⟩ := hcontent
  rw [hreport, Option.getD_some] at hchecks
  have hs := supported_of_passed hverdict
  constructor
  · constructor
    -- the two baseline checks run for every type of report
    · intro sec hsec items hitems d hd
      obtain ⟨found, hfound, hsub⟩ := runChecks_baseline ht hchecks
        (by decide) List.mem_cons_self
      exact cited_of_checkClaims hfound (fun c hc => hs c (hsub hc)) hsec hitems hd
    · intro fs hfs field hfield node hnode hstatus
      obtain ⟨found, hfound, hsub⟩ := runChecks_baseline ht hchecks
        (by decide) (List.mem_cons_of_mem _ List.mem_cons_self)
      exact citesPack_of_checkFinancials hfound (fun c hc => hs c (hsub hc)) hfs hfield hnode
        hstatus
  · obtain ⟨result, -, h⟩ := bind_eq_ok.mp h
    cases h
    have hne : report.isEmpty = false := by
      cases report with
      | nil => cases ht
      | cons kv report => rfl
    refine ⟨stampReport report result.verdict state.outputs.sourceCoverage, ?_, ?_⟩
    · simp only [hreport, Option.getD_some, hne, if_neg Bool.false_ne_true]
    · exact ((Dict.Frame.set _ _ (by simp)).trans (Dict.Frame.set _ _ (by simp))).trans
        (Dict.Frame.set _ _ (by simp))

end DecisionCenter
