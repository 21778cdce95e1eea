import DecisionCenter.Admin.ConnectorStatus
import DecisionCenter.Py.Whole

/-!
# Readiness and blocking connectors

The banner and the list of blocking connectors are computed by two rules. The list leaves out
the dormant connectors, those turned off and the inactive generation provider; the banner asks
of every required connector that it is proven, dormant or not. So the two agree exactly when no
dormant connector is required, or some active one is blocking anyway
(`readiness_iff_blocking_nil`).

The banner asks first whether the shell is up: the connectors of the core platform and the edge
live, and Entra configured. Without these it says something else, whatever the list has, and the
comparison is made where they are there (`ShellUp`).

`Proven` is what go-live comes to in the end, settings and facts of a probe: a connector
satisfies go-live when it is active and proven (`satisfiesGoLive_classify`), and blocks when it
is active, required and not proven (`blocksGoLive_classify`). Both are read off `classify` once,
for all specifications, and everything after that is about the registry as a list.

In the registry as it stands both generation providers are required and one of them is always
dormant: the banner never says that the system is ready (`readiness_connectorSpecs_ne_ready`).
-/

namespace DecisionCenter.Admin

open Py

/-- The probe has established live data, or current evidence of it. -/
structure ProbeFacts.Live (facts : ProbeFacts) : Prop where
  not_mock : facts.dataSource ≠ .mock
  not_fixture : facts.dataSource ≠ .fixture
  live : facts.liveDataOk = some true
  no_failure : facts.dataSource = .evidence ∨ facts.networkOk ≠ some false ∧
    facts.authOk ≠ some false ∧ facts.permissionOk ≠ some false

private theorem satisfiesGoLive_stateFromFacts (facts : ProbeFacts) :
    satisfiesGoLive (stateFromFacts facts) = true ↔ facts.Live := by
  rw [stateFromFacts]
  split_ifs with hmock hevidence hnetwork hauth hpermission hlive hempty
  · refine iff_of_false (by decide) fun h => ?_
    exact hmock.elim h.not_mock h.not_fixture
  · rw [not_or] at hmock
    exact iff_of_true rfl ⟨hmock.1, hmock.2, hevidence.2, .inl hevidence.1⟩
  · refine iff_of_false (by decide) fun h => ?_
    exact h.no_failure.elim (fun he => hevidence ⟨he, h.live⟩) fun hok => hok.1 hnetwork
  · refine iff_of_false (by decide) fun h => ?_
    exact h.no_failure.elim (fun he => hevidence ⟨he, h.live⟩) fun hok => hok.2.1 hauth
  · refine iff_of_false (by decide) fun h => ?_
    exact h.no_failure.elim (fun he => hevidence ⟨he, h.live⟩) fun hok => hok.2.2 hpermission
  · rw [not_or] at hmock
    exact iff_of_true rfl ⟨hmock.1, hmock.2, hlive, .inr ⟨hnetwork, hauth, hpermission⟩⟩
  · exact iff_of_false (by decide) fun h => hlive h.live
  · exact iff_of_false (by decide) fun h => hlive h.live

private theorem satisfiesGoLive_probedState (name : String) (facts : ProbeFacts) :
    satisfiesGoLive (probedState name facts) = true ↔ facts.Live := by
  rw [probedState]
  split_ifs with hvalid hexpired
  · obtain ⟨-, hsource, hlive⟩ := hvalid
    exact iff_of_true rfl ⟨by rw [hsource]; decide, by rw [hsource]; decide, hlive, .inl hsource⟩
  · refine iff_of_false (by decide) fun h => ?_
    have hboth := h.live.symm.trans hexpired.2.2
    exact absurd hboth (by decide)
  · exact satisfiesGoLive_stateFromFacts facts

/-- All core-platform and edge connectors are live, and Entra is configured. -/
structure ShellUp (ts : List ConnectorTruth) : Prop where
  live : ∀ t ∈ ts, t.group = .corePlatform ∨ t.group = .edge → t.state = .liveOk
  entra : ∀ t ∈ byName ts "entra_auth", t.configured = true

private theorem readiness_of_shellUp {ts : List ConnectorTruth} (h : ShellUp ts) :
    (computeReadiness ts).1 = .readyForUat ↔ notLive ts = [] := by
  have hdown : coreEdgeDown ts = [] := by
    rw [coreEdgeDown, List.map_eq_nil_iff, List.filter_eq_nil_iff]
    intro t ht
    rw [decide_eq_true_eq]
    rintro ⟨hgroup, hstate⟩
    exact hstate (h.live t ht hgroup)
  have hauth : authUnconfigured ts = false := by
    rw [authUnconfigured]
    cases hentra : byName ts "entra_auth" with
    | none => rfl
    | some auth => rw [Option.any_some, h.entra auth hentra]; rfl
  rw [computeReadiness, if_neg (by simp [hdown, hauth])]
  split_ifs with hlive
  · exact iff_of_true rfl hlive
  · exact iff_of_false (by simp) hlive

private theorem readiness_ne_ready_of_notLive {ts : List ConnectorTruth} (h : notLive ts ≠ []) :
    (computeReadiness ts).1 ≠ .readyForUat := by
  rw [computeReadiness]
  simp only [h, if_false]
  split_ifs <;> simp

section Report

variable [Text] {settings : Settings} {specs : List ConnectorSpec}
  {answers : ℕ → Option ProbeFacts} {runProbes : Bool} {now : String}

/-- The connector is configured, and a probe of it has established live data. -/
structure Proven (settings : Settings) (runProbes : Bool) (spec : ConnectorSpec)
    (answer : Option ProbeFacts) : Prop where
  configured : configured settings spec = true
  probed : runProbes = true ∧ spec.probe.isSome = true
  live : ∃ facts, answer = some facts ∧ facts.Live

/-- A connector satisfies the gate just if it is proven. The cases follow the branches of the
assessment: whether the settings are there, whether probes are run, and what they find. -/
private theorem satisfiesGoLive_assess (spec : ConnectorSpec) (answer : Option ProbeFacts) :
    satisfiesGoLive (assess settings spec (probeFacts settings spec answer runProbes)).1 = true ↔
      Proven settings runProbes spec answer := by
  simp only [assess, probeFacts]
  cases hconf : configured settings spec with
  | false =>
    refine iff_of_false (by simp [satisfiesGoLive]) fun h => ?_
    exact Bool.false_ne_true (hconf.symm.trans h.configured)
  | true =>
    cases hprobed : runProbes && spec.probe.isSome with
    | false =>
      simp only [Bool.not_true, Bool.true_and, hprobed, Bool.false_eq_true, if_false]
      refine iff_of_false (by decide) fun h => ?_
      rw [h.probed.1, h.probed.2] at hprobed
      exact Bool.noConfusion hprobed
    | true =>
      simp only [Bool.not_true, Bool.true_and, hprobed, Bool.false_eq_true, if_false, if_true]
      rw [satisfiesGoLive_probedState]
      rw [Bool.and_eq_true] at hprobed
      constructor
      · intro h
        cases answer with
        | none => exact absurd h.live (by decide)
        | some facts => exact ⟨hconf, hprobed, facts, rfl, h⟩
      · rintro ⟨-, -, facts, rfl, h⟩
        exact h

/-- A connector satisfies go-live when it is active and proven. -/
theorem satisfiesGoLive_classify (spec : ConnectorSpec) (answer : Option ProbeFacts) :
    satisfiesGoLive (classify settings spec answer runProbes).state = true ↔
      dormant settings spec = false ∧ Proven settings runProbes spec answer := by
  rw [classify]
  split_ifs with hdormant
  · refine iff_of_false (by simp [disabledTruth, satisfiesGoLive]) fun h => ?_
    exact Bool.false_ne_true (h.1.symm.trans hdormant)
  · rw [← satisfiesGoLive_assess, and_iff_right (Bool.eq_false_iff.mpr hdormant)]

private theorem requiredForGoLive_classify (spec : ConnectorSpec) (answer : Option ProbeFacts) :
    (classify settings spec answer runProbes).requiredForGoLive = spec.requiredForGoLive := by
  rw [classify]
  split_ifs <;> rfl

/-- It is blocking when it is active, required and not proven. -/
theorem blocksGoLive_classify (spec : ConnectorSpec) (answer : Option ProbeFacts) :
    (classify settings spec answer runProbes).blocksGoLive = true ↔
      dormant settings spec = false ∧ spec.requiredForGoLive = true ∧
        ¬ Proven settings runProbes spec answer := by
  rw [classify]
  split_ifs with hdormant
  · refine iff_of_false (by simp [disabledTruth]) fun h => ?_
    exact Bool.false_ne_true (h.1.symm.trans hdormant)
  · rw [← satisfiesGoLive_assess, and_iff_right (Bool.eq_false_iff.mpr hdormant), Bool.and_eq_true,
      Bool.not_eq_true', Bool.not_eq_true]

/-- A dormant connector is not blocking. -/
theorem not_blocksGoLive_of_dormant {spec : ConnectorSpec} (answer : Option ProbeFacts)
    (h : dormant settings spec = true) :
    (classify settings spec answer runProbes).blocksGoLive = false := by
  rw [Bool.eq_false_iff, Ne, blocksGoLive_classify, h]
  exact fun hblocks => Bool.noConfusion hblocks.1

private theorem mem_truths {t : ConnectorTruth} : t ∈ truths settings specs answers runProbes ↔
    ∃ i spec, specs[i]? = some spec ∧ t = classify settings spec (answers i) runProbes := by
  rw [truths, List.mem_mapIdx]
  constructor
  · rintro ⟨i, hi, rfl⟩
    exact ⟨i, specs[i], List.getElem?_eq_getElem hi, rfl⟩
  · rintro ⟨i, spec, hspec, rfl⟩
    obtain ⟨hi, rfl⟩ := List.getElem?_eq_some_iff.mp hspec
    exact ⟨i, hi, rfl⟩

private theorem notLive_eq_nil : notLive (truths settings specs answers runProbes) = [] ↔
    ∀ i spec, specs[i]? = some spec → spec.requiredForGoLive = true →
      dormant settings spec = false ∧ Proven settings runProbes spec (answers i) := by
  rw [notLive, List.map_eq_nil_iff, List.filter_eq_nil_iff]
  constructor
  · intro h i spec hspec hrequired
    rw [← satisfiesGoLive_classify]
    have hno := h _ (List.mem_filter.mpr ⟨mem_truths.mpr ⟨i, spec, hspec, rfl⟩,
      (requiredForGoLive_classify spec _).trans hrequired⟩)
    rwa [Bool.not_eq_true', Bool.not_eq_false] at hno
  · intro h t ht
    obtain ⟨hmem, hrequired⟩ := List.mem_filter.mp ht
    obtain ⟨i, spec, hspec, rfl⟩ := mem_truths.mp hmem
    rw [requiredForGoLive_classify] at hrequired
    rw [Bool.not_eq_true', Bool.not_eq_false, satisfiesGoLive_classify]
    exact h i spec hspec hrequired

private theorem blocking_eq_nil : blocking (truths settings specs answers runProbes) = [] ↔
    ∀ i spec, specs[i]? = some spec → spec.requiredForGoLive = true →
      dormant settings spec = false → Proven settings runProbes spec (answers i) := by
  rw [blocking, List.map_eq_nil_iff, List.filter_eq_nil_iff]
  constructor
  · intro h i spec hspec hrequired hactive
    have hno := h _ (mem_truths.mpr ⟨i, spec, hspec, rfl⟩)
    rw [blocksGoLive_classify] at hno
    by_contra hproven
    exact hno ⟨hactive, hrequired, hproven⟩
  · intro h t ht
    obtain ⟨i, spec, hspec, rfl⟩ := mem_truths.mp ht
    rw [blocksGoLive_classify]
    rintro ⟨hactive, hrequired, hproven⟩
    exact hproven (h i spec hspec hrequired hactive)

/-- With the shell up, the banner says ready without blockers and only without blockers if and only
if no dormant connector is required, or an active one that is required is not proven. In the
remaining case the two counts of the banner are about different connectors. -/
theorem readiness_iff_blocking_nil (settings : Settings) (specs : List ConnectorSpec)
    (answers : ℕ → Option ProbeFacts) (runProbes : Bool) (now : String)
    (hup : ShellUp (truths settings specs answers runProbes)) :
    ((buildReport settings specs answers runProbes now).readiness = .readyForUat ↔
        (buildReport settings specs answers runProbes now).blocking = []) ↔
      (∀ spec ∈ specs, dormant settings spec = true → spec.requiredForGoLive = false) ∨
        ∃ i spec, specs[i]? = some spec ∧ dormant settings spec = false ∧
          spec.requiredForGoLive = true ∧ ¬ Proven settings runProbes spec (answers i) := by
  have hready : (buildReport settings specs answers runProbes now).readiness = .readyForUat ↔
      notLive (truths settings specs answers runProbes) = [] := readiness_of_shellUp hup
  have hblocking : (buildReport settings specs answers runProbes now).blocking = [] ↔
      blocking (truths settings specs answers runProbes) = [] := Iff.rfl
  rw [hready, hblocking, notLive_eq_nil, blocking_eq_nil]
  constructor
  · intro hagree
    -- ready counts the dormant connectors, the blockers do not: they differ only there
    by_cases hproven : ∀ i spec, specs[i]? = some spec → spec.requiredForGoLive = true →
        dormant settings spec = false → Proven settings runProbes spec (answers i)
    · left
      intro spec hspec hdormant
      rw [Bool.eq_false_iff]
      intro hrequired
      obtain ⟨i, hi⟩ := List.getElem?_of_mem hspec
      have hactive := (hagree.mpr hproven i spec hi hrequired).1
      exact Bool.false_ne_true (hactive.symm.trans hdormant)
    · right
      by_contra hnone
      refine hproven fun i spec hspec hrequired hactive => ?_
      by_contra hno
      exact hnone ⟨i, spec, hspec, hactive, hrequired, hno⟩
  · intro hcond
    refine ⟨fun h i spec hspec hrequired _ => (h i spec hspec hrequired).2, fun h => ?_⟩
    intro i spec hspec hrequired
    rcases hcond with hdormant | ⟨j, spec', hspec', hactive, hrequired', hno⟩
    · have hactive : dormant settings spec = false := by
        rw [Bool.eq_false_iff]
        intro hd
        have hfalse := hdormant spec (List.mem_of_getElem? hspec) hd
        exact Bool.false_ne_true (hfalse.symm.trans hrequired)
      exact ⟨hactive, h i spec hspec hrequired hactive⟩
    · exact absurd (h j spec' hspec' hrequired' hactive) hno

private theorem readiness_ne_ready (h : notLive (truths settings specs answers runProbes) ≠ []) :
    (buildReport settings specs answers runProbes now).readiness ≠ .readyForUat :=
  readiness_ne_ready_of_notLive h

/-- In the registry one of the two required generation providers is always dormant. Were the report
ready, both of them would be active, and there is one active provider only. -/
theorem readiness_connectorSpecs_ne_ready (settings : Settings)
    (answers : ℕ → Option ProbeFacts) (runProbes : Bool) (now : String) :
    (buildReport settings connectorSpecs answers runProbes now).readiness ≠ .readyForUat := by
  refine readiness_ne_ready fun hnil => ?_
  rw [notLive_eq_nil] at hnil
  have hactive (spec : ConnectorSpec) (hmem : spec ∈ connectorSpecs)
      (hrequired : spec.requiredForGoLive = true) : dormant settings spec = false := by
    obtain ⟨i, hi⟩ := List.getElem?_of_mem hmem
    exact (hnil i spec hi hrequired).1
  have hanthropic := hactive anthropicSpec (by simp [connectorSpecs]) rfl
  have hdeepseek := hactive deepseekSpec (by simp [connectorSpecs]) rfl
  have hname (spec : ConnectorSpec) (hgroup : spec.group = .aiProvider)
      (hmem : spec.name ∈ generationProviderNames) (h : dormant settings spec = false) :
      spec.name = activeLlmProvider settings := by
    rw [dormant, Bool.or_eq_false_iff, inactiveGenerationProvider, decide_eq_false_iff_not] at h
    by_contra hne
    exact h.2 ⟨hgroup, hmem, hne⟩
  have hsame := (hname anthropicSpec rfl (by decide) hanthropic).trans
    (hname deepseekSpec rfl (by decide) hdeepseek).symm
  exact absurd hsame (by decide)

end Report

section Counterexample

open Py.Whole

/-- Every setting is there, and DeepSeek generates the reports. -/
def deepseekSettings : Settings := fun attr =>
  if attr = "llm_provider" then some (.text "deepseek") else some (.text "set")

def liveAnswer : ProbeFacts where
  networkOk := some true
  liveDataOk := some true
  dataSource := .live

/-- Without the provider that is not used the two agree. -/
theorem readiness_iff_blocking_nil_deepseek :
    (buildReport deepseekSettings (connectorSpecs.filter (·.name ≠ "anthropic"))
        (fun _ => some liveAnswer) true "").readiness = .readyForUat ↔
      (buildReport deepseekSettings (connectorSpecs.filter (·.name ≠ "anthropic"))
        (fun _ => some liveAnswer) true "").blocking = [] :=
  (readiness_iff_blocking_nil deepseekSettings (connectorSpecs.filter (·.name ≠ "anthropic"))
    (fun _ => some liveAnswer) true "" ⟨by decide +kernel, by decide +kernel⟩).mpr
    (.inl (by decide +kernel))

/-- With every active connector live there is no blocker, and the banner says partially ready. -/
theorem not_readiness_iff_blocking_nil :
    ShellUp (truths deepseekSettings connectorSpecs (fun _ => some liveAnswer) true) ∧
      ¬ ((buildReport deepseekSettings connectorSpecs (fun _ => some liveAnswer) true
            "").readiness = .readyForUat ↔
        (buildReport deepseekSettings connectorSpecs (fun _ => some liveAnswer) true
            "").blocking = []) := by
  have hup : ShellUp (truths deepseekSettings connectorSpecs (fun _ => some liveAnswer) true) :=
    ⟨by decide +kernel, by decide +kernel⟩
  have hreadiness : (buildReport deepseekSettings connectorSpecs (fun _ => some liveAnswer) true
      "").readiness = .partialReady := by decide +kernel
  have hnone : (buildReport deepseekSettings connectorSpecs (fun _ => some liveAnswer) true
      "").blocking = [] := by decide +kernel
  refine ⟨hup, ?_⟩
  rw [hreadiness, hnone]
  simp

end Counterexample

end DecisionCenter.Admin
