import DecisionCenter.Mappings.RescanVerdict

/-!
# A rescan of several projects

`run_microsoft_rescan` (`apps/edr/admin/microsoft_rescan.py`) rescans the projects side by side,
each against the same list of sites and none against the others. So two projects may be given
one site, and are just if it is the only strong match of both; the code of a project is a strong
match wherever it is part of a longer one.

A run has the rows of the table, the sites that the enumeration finds, and for each project the
way Microsoft Graph answers its task. Without a token nothing is enumerated and no project is
looked into. The results are those of the projects that are not disabled, in their order, and a
task that raises is recorded as a result of its own.

`ResultFor` relates a project with a placeholder to its result: it is the verdict of the whole
list of sites, by `Mappings.RescanVerdict`, whatever is answered. What is recommended to a
project is therefore its only strong match (`autoMapped_iff_soleMatch`), and whether two
projects are given one site can be read off the sites.

`sharedSite_iff` states this for every run that has a token. The example has two projects of
which the code of the one is part of the code of the other: the site of the second is the sole
match of both, and both are mapped to it.
-/

namespace DecisionCenter.Mappings

open Py Async

/-- A run: what it is given and finds, how Microsoft Graph answers, and the order in which the
projects are given their turns. -/
structure RescanRun (S : Type) where
  projects : List RescanProject
  token : String
  tokenRoles : List String
  /-- The answer to the search for sites, unless it raises. -/
  sitesAnswer : Option (ℕ × List DiscoveredSite)
  act : (o : RescanRequest) → S → Option o.Answer × S
  graph : S
  schedule : List ℕ

/-- `enumerate_sites` -/
def enumerateSites (answer : ℕ × List DiscoveredSite) : List DiscoveredSite :=
  if answer.1 ≠ 200 then [] else answer.2.filter fun s => !contains s.webUrl "contentstorage"

section Run

variable {S C : Type} [LinearOrder C] [Text] (round2 : ℚ → C)

/-- `all_sites` -/
def RescanRun.allSites (run : RescanRun S) : Option (List DiscoveredSite) :=
  if "Sites.Read.All" ∈ run.tokenRoles then run.sitesAnswer.map enumerateSites else some []

/-- `run_microsoft_rescan(…).project_results`, unless the run raises. -/
def RescanRun.projectResults (run : RescanRun S) : Option (List (ProjectRescanResult C)) :=
  if run.token = "" then some []
  else do
    let allSites ← run.allSites
    Attempt.gathered ((Pool.mk run.graph (run.projects.map fun p =>
      (rescanOneProject round2 p allSites).run)).exec run.act run.schedule)

/-! ### What each project is given -/

/-- A project that is not disabled and has a placeholder is given the verdict of the sites, and a
disabled one is given none. -/
structure ResultFor (allSites : List DiscoveredSite) (p : RescanProject)
    (r : ProjectRescanResult C) : Prop where
  disabled : p.mappingStatus = "disabled" → r.sharepointStatus = .disabled
  discovered : p.mappingStatus ≠ "disabled" → isPlaceholderSite p.siteId →
    (r.sharepointStatus, r.recommendedSiteId) = verdict p allSites

private theorem ensures_resultFor (allSites : List DiscoveredSite) (p : RescanProject) :
    Attempt.Ensures (fun _ _ => True) True (ResultFor allSites p)
      (rescanOneProject round2 p allSites) := by
  by_cases hdisabled : p.mappingStatus = "disabled"
  · rw [rescanOneProject, if_pos hdisabled]
    exact Attempt.ensures_pure ⟨fun _ => rfl, fun henabled => absurd hdisabled henabled⟩
  · by_cases hplaceholder : isPlaceholderSite p.siteId = true
    · exact (ensures_rescanOneProject round2 (fun _ _ => trivial) hplaceholder hdisabled
        allSites).mono fun r hr => ⟨fun h => absurd h hdisabled, fun _ _ => hr⟩
    · exact Attempt.ensures_of_failing trivial
        (fun r => ⟨fun h => absurd h hdisabled, fun _ hp => absurd hp hplaceholder⟩) _

private theorem resultsFor_projectResults {run : RescanRun S} {allSites : List DiscoveredSite}
    {results : List (ProjectRescanResult C)} (hsites : run.allSites = some allSites)
    (htoken : run.token ≠ "") (h : run.projectResults round2 = some results) :
    List.Forall₂ (ResultFor allSites) run.projects results := by
  rw [RescanRun.projectResults, if_neg htoken, hsites] at h
  exact Attempt.results_of_gathered (fun _ _ => trivial) (ensures_resultFor round2 allSites) h

/-! ### Two projects -/

/-- The site is the only strong match of the project, which takes part in the scan. -/
def SoleMatch (allSites : List DiscoveredSite) (p : RescanProject) (site : DiscoveredSite) : Prop :=
  p.mappingStatus ≠ "disabled" ∧ allSites.filter (strongMatch p) = [site]

omit [LinearOrder C] in
/-- What is recommended is the only strong match. A disabled project is passed over, and gets no
recommendation. -/
theorem autoMapped_iff_soleMatch {allSites : List DiscoveredSite} {p : RescanProject}
    {r : ProjectRescanResult C} (hplaceholder : isPlaceholderSite p.siteId)
    (h : ResultFor allSites p r) (siteId : Option String) :
    r.sharepointStatus = .autoMapped ∧ r.recommendedSiteId = siteId ↔
      ∃ site, SoleMatch allSites p site ∧ siteId = some site.siteId := by
  by_cases hdisabled : p.mappingStatus = "disabled"
  · refine iff_of_false (fun hauto => ?_) fun ⟨site, hsole, _⟩ => hsole.1 hdisabled
    exact absurd ((h.disabled hdisabled).symm.trans hauto.1) (by decide)
  · have hverdict := h.discovered hdisabled hplaceholder
    have hstatus : r.sharepointStatus = (verdict p allSites).1 := congrArg Prod.fst hverdict
    have hsite : r.recommendedSiteId = (verdict p allSites).2 := congrArg Prod.snd hverdict
    constructor
    · rintro ⟨hauto, rfl⟩
      rw [hstatus, verdict_autoMapped_iff] at hauto
      obtain ⟨site, hone⟩ := List.length_eq_one_iff.mp hauto
      exact ⟨site, ⟨hdisabled, hone⟩, by rw [hsite, verdict_eq_autoMapped hone]⟩
    · rintro ⟨site, ⟨-, hone⟩, rfl⟩
      rw [hstatus, hsite, verdict_eq_autoMapped hone]
      exact ⟨rfl, rfl⟩

omit [LinearOrder C] in
/-- A site named after a code is a strong match of every project whose code is part of that code. -/
theorem strongMatch_of_contains {p q : RescanProject} {site : DiscoveredSite}
    (hcode : contains (lower q.projectCode) (lower p.projectCode))
    (hsite : contains (lower site.displayName) (lower q.projectCode)) :
    strongMatch p site = true := by
  have hdisplay : contains (lower site.displayName) (lower p.projectCode) = true :=
    contains_iff.mpr ((contains_iff.mp hcode).trans (contains_iff.mp hsite))
  rw [strongMatch, computeMatch, if_pos hdisplay]
  rfl

/-- Two projects with placeholders are mapped to one site just if it is the only strong match of
both, which the site of a longer code may be. Each project is scored by itself, and no project is
told of another. -/
theorem sharedSite_iff {run : RescanRun S} {allSites : List DiscoveredSite}
    {results : List (ProjectRescanResult C)} (hsites : run.allSites = some allSites)
    (htoken : run.token ≠ "") (h : run.projectResults round2 = some results)
    (hplaceholder : ∀ p ∈ run.projects, isPlaceholderSite p.siteId) :
    results.length = run.projects.length ∧
    (∀ (i j : ℕ) (p q : RescanProject) (r s : ProjectRescanResult C),
      run.projects[i]? = some p → run.projects[j]? = some q →
      results[i]? = some r → results[j]? = some s →
      (r.sharepointStatus = .autoMapped ∧ s.sharepointStatus = .autoMapped ∧
          r.recommendedSiteId = s.recommendedSiteId ↔
        ∃ site site', SoleMatch allSites p site ∧ SoleMatch allSites q site' ∧
          site.siteId = site'.siteId)) ∧
    ∀ (p q : RescanProject) (site : DiscoveredSite),
      contains (lower q.projectCode) (lower p.projectCode) →
      contains (lower site.displayName) (lower q.projectCode) →
        strongMatch p site = true ∧ strongMatch q site = true := by
  have hresults := resultsFor_projectResults round2 hsites htoken h
  refine ⟨hresults.length_eq.symm, fun i j p q r s hp hq hr hs => ?_, fun p q site hcode hsite =>
    ⟨strongMatch_of_contains hcode hsite, ?_⟩⟩
  · have hsole := autoMapped_iff_soleMatch (hplaceholder p (List.mem_of_getElem? hp))
      (Attempt.rel_of_getElem? hresults hp hr)
    have hsole' := autoMapped_iff_soleMatch (hplaceholder q (List.mem_of_getElem? hq))
      (Attempt.rel_of_getElem? hresults hq hs)
    constructor
    · rintro ⟨hauto, hauto', hsame⟩
      obtain ⟨site, hsite, hid⟩ := (hsole _).mp ⟨hauto, rfl⟩
      obtain ⟨site', hsite', hid'⟩ := (hsole' _).mp ⟨hauto', rfl⟩
      exact ⟨site, site', hsite, hsite', Option.some.inj (hid.symm.trans (hsame.trans hid'))⟩
    · rintro ⟨site, site', hsite, hsite', hid⟩
      obtain ⟨hauto, hrec⟩ := (hsole (some site.siteId)).mpr ⟨site, hsite, rfl⟩
      obtain ⟨hauto', hrec'⟩ := (hsole' (some site.siteId)).mpr ⟨site', hsite', congrArg some hid⟩
      exact ⟨hauto, hauto', hrec.trans hrec'.symm⟩
  · exact strongMatch_of_contains (contains_iff.mpr (List.infix_refl _)) hsite

end Run

/-! ### A code within a code -/

section Prefix

open Py.Whole

/-- Two projects, the code of the first a prefix of the other's, and the site of the second. -/
def prefixRun : RescanRun Unit where
  projects := [⟨"PRJ-1", "", "", "", [], "incomplete"⟩, ⟨"PRJ-10", "", "", "", [], "incomplete"⟩]
  token := "token"
  tokenRoles := ["Sites.Read.All"]
  sitesAnswer := some (200, [⟨"site-10", "PRJ-10 Tower", ""⟩])
  act := librarySites
  graph := ()
  schedule := [0, 0, 1, 1]

private theorem prefixRun_returns : ∃ results : List (ProjectRescanResult ℚ),
    prefixRun.projectResults id = some results :=
  Option.isSome_iff_exists.mp (by decide +kernel)

/-- Both are mapped to the site of the second. -/
theorem rescan_maps_prefix : ∃ results : List (ProjectRescanResult ℚ),
    (prefixRun.projects.map (·.projectCode)).Nodup ∧
    (∀ p ∈ prefixRun.projects, isPlaceholderSite p.siteId = true) ∧
    prefixRun.projectResults id = some results ∧
    results.map (fun r => (r.projectCode, r.sharepointStatus, r.recommendedSiteId)) =
      [("PRJ-1", .autoMapped, some "site-10"), ("PRJ-10", .autoMapped, some "site-10")] := by
  obtain ⟨results, hresults⟩ := prefixRun_returns
  refine ⟨results, by decide, by decide, hresults, Option.some.inj ?_⟩
  rw [← Option.map_some (f := List.map fun r : ProjectRescanResult ℚ =>
    (r.projectCode, r.sharepointStatus, r.recommendedSiteId)), ← hresults]
  decide +kernel

/-- The site of the second is a strong match of both, and there are two results. -/
theorem sharedSite_prefix : ∃ results : List (ProjectRescanResult ℚ),
    prefixRun.projectResults id = some results ∧ results.length = 2 ∧
    strongMatch ⟨"PRJ-1", "", "", "", [], "incomplete"⟩ ⟨"site-10", "PRJ-10 Tower", ""⟩ = true ∧
    strongMatch ⟨"PRJ-10", "", "", "", [], "incomplete"⟩ ⟨"site-10", "PRJ-10 Tower", ""⟩ =
      true := by
  obtain ⟨results, hresults⟩ := prefixRun_returns
  have hsites : prefixRun.allSites = some [⟨"site-10", "PRJ-10 Tower", ""⟩] := by decide
  obtain ⟨hlength, -, hstrong⟩ := sharedSite_iff id hsites (by decide) hresults (by decide)
  exact ⟨results, hresults, hlength, hstrong _ _ _ (by decide) (by decide)⟩

end Prefix

end DecisionCenter.Mappings
