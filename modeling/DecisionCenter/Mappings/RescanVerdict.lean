import DecisionCenter.Mappings.Rescan
import DecisionCenter.Py.Whole

/-!
# What a rescan decides

For a project with a placeholder, the status and the recommended site depend on the discovered
sites alone: on whether one of them, several or none is a strong match, and on whether any
matches at all. The ranking and the cut to five candidates do not change them.

`verdict` is this function of the list of sites, with no ranking in it. That it is the same for
the sites in another order is immediate from its definition, save for the site that is
recommended; as this is the only strong match, it does not depend on the order either
(`verdict_perm`).

The branch of the source works on the sorted list, cut and enriched. Only a strong match is
ranked before a strong one, so that the strong matches are in front, and a cut behind the second
site loses none that would make a difference: one strong match is there, and of several there
are two (`ensures_discover`). The enrichment changes the drives of a candidate and neither its
site nor its strength.

The task that surrounds the branch may end by an exception, or with the result; whatever is
answered, a result is the verdict. `discover_autoMapped_iff` is the statement for the discovery:
it maps a project just if one site of the whole list is a strong match, and recommends it.
-/

namespace DecisionCenter.Mappings

open Py Async

/-! ### The ranking -/

private theorem strengthOrder_eq_zero {s : MatchStrength} : strengthOrder s = 0 ↔ s = .strong := by
  cases s <;> simp [strengthOrder]

section Order

variable {C : Type} [LinearOrder C]

instance : Std.Total (Scored.before (C := C)) where
  total x y := by
    unfold Scored.before
    have hconfidence := le_total x.confidence y.confidence
    rcases Nat.lt_trichotomy (strengthOrder x.strength) (strengthOrder y.strength) with h | h | h
    · exact .inl (.inl h)
    · exact hconfidence.elim (fun hle => .inr (.inr ⟨h.symm, hle⟩)) fun hle => .inl (.inr ⟨h, hle⟩)
    · exact .inr (.inl h)

instance : IsTrans (Scored C) Scored.before where
  trans x y z hxy hyz := by
    rcases hxy with hxy | ⟨hxy, hle⟩ <;> rcases hyz with hyz | ⟨hyz, hle'⟩
    · exact .inl (hxy.trans hyz)
    · exact .inl (hyz ▸ hxy)
    · exact .inl (hxy ▸ hyz)
    · exact .inr ⟨hxy.trans hyz, hle'.trans hle⟩

/-- Only a strong match is ranked before a strong one. -/
theorem strong_of_before {x y : Scored C} (h : Scored.before x y)
    (hy : decide (y.strength = .strong) = true) : decide (x.strength = .strong) = true := by
  rw [decide_eq_true_eq] at hy ⊢
  have hy' := strengthOrder_eq_zero.mpr hy
  refine strengthOrder_eq_zero.mp ?_
  rcases h with h | ⟨h, -⟩ <;> omega

end Order

/-! ### The verdict -/

section Verdict

variable [Text]

/-- The site is a strong match for the project. -/
def strongMatch (p : RescanProject) (site : DiscoveredSite) : Bool :=
  decide ((computeMatch p.projectCode p.projectName site).1 = .strong)

/-- The site matches the project at all. -/
def matchesAtAll (p : RescanProject) (site : DiscoveredSite) : Bool :=
  decide ((computeMatch p.projectCode p.projectName site).1 ≠ .none)

/-- The status and the recommended site of a project with a placeholder. -/
def verdict (p : RescanProject) (allSites : List DiscoveredSite) : RescanStatus × Option String :=
  match allSites.filter (strongMatch p) with
  | [site] => (.autoMapped, some site.siteId)
  | [] => (if allSites.any (matchesAtAll p) then .needsConfirmation else .missingSharepoint, none)
  | _ => (.conflict, none)

variable {p : RescanProject} {allSites : List DiscoveredSite}

/-- The verdict is to map just if one site is a strong match, which it recommends. -/
theorem verdict_autoMapped_iff :
    (verdict p allSites).1 = .autoMapped ↔ (allSites.filter (strongMatch p)).length = 1 := by
  rw [verdict]
  rcases allSites.filter (strongMatch p) with _ | ⟨s, _ | ⟨t, rest⟩⟩
  · dsimp only
    split <;> simp
  · simp
  · simp

/-- One strong match is mapped. -/
theorem verdict_eq_autoMapped {site : DiscoveredSite}
    (h : allSites.filter (strongMatch p) = [site]) :
    verdict p allSites = (.autoMapped, some site.siteId) := by
  rw [verdict, h]

/-- In another order, the sites give the same verdict. -/
theorem verdict_perm {allSites' : List DiscoveredSite} (h : allSites'.Perm allSites) :
    verdict p allSites' = verdict p allSites := by
  have hstrong : (allSites'.filter (strongMatch p)).Perm (allSites.filter (strongMatch p)) :=
    h.filter _
  have hany : allSites'.any (matchesAtAll p) = allSites.any (matchesAtAll p) := h.any_eq
  rw [verdict, verdict, hany]
  rcases hsites : allSites.filter (strongMatch p) with _ | ⟨s, _ | ⟨t, rest⟩⟩
  · rw [hsites] at hstrong
    rw [List.perm_nil.mp hstrong]
  · rw [hsites] at hstrong
    rw [List.perm_singleton.mp hstrong]
  · rw [hsites] at hstrong
    have hlength := hstrong.length_eq
    rcases hsites' : allSites'.filter (strongMatch p) with _ | ⟨s', _ | ⟨t', rest'⟩⟩
    · simp [hsites'] at hlength
    · simp [hsites'] at hlength
    · rfl

variable {C : Type} (round2 : ℚ → C)

/-- The strong matches among the scored sites are those of the list. -/
theorem strong_scoredSites (p : RescanProject) (allSites : List DiscoveredSite) :
    ((scoredSites round2 p allSites).filter fun x => x.strength = .strong).map (·.site) =
      allSites.filter (strongMatch p) := by
  induction allSites with
  | nil => rfl
  | cons site allSites ih =>
    rw [scoredSites] at ih ⊢
    rw [List.filterMap_cons, List.filter_cons, strongMatch]
    by_cases hnone : (computeMatch p.projectCode p.projectName site).1 = .none
    · simp [hnone, ih]
    · by_cases hstrong : (computeMatch p.projectCode p.projectName site).1 = .strong
      · simp [hstrong, ih]
      · simp [hnone, hstrong, ih]

private theorem scoredSites_eq_nil :
    scoredSites round2 p allSites = [] ↔ allSites.any (matchesAtAll p) = false := by
  rw [scoredSites, List.filterMap_eq_nil_iff, List.any_eq_false]
  refine forall₂_congr fun site _ => ?_
  by_cases hnone : (computeMatch p.projectCode p.projectName site).1 = .none <;>
    simp [matchesAtAll, hnone]

end Verdict

/-! ### What the branch decides -/

section Branch

variable {C : Type} {Ok : (o : RescanRequest) → Option o.Answer → Prop} {failing : Prop}

/-- The candidate is of the scored site. -/
structure CandidateOf (x : Scored C) (c : SiteCandidate C) : Prop where
  siteId : c.siteId = x.site.siteId
  strength : c.matchStrength = x.strength

variable (hlookup : ∀ o : RescanRequest, o.IsDriveLookup → Ok o none → failing)

include hlookup

private theorem ensures_enrich (x : Scored C) :
    Attempt.Ensures Ok failing (CandidateOf x) (enrich x) := by
  refine (Attempt.ensures_await (hlookup (.getDrives x.site.siteId) trivial)).bind
    fun drives _ => ?_
  cases (docDrives drives).head? with
  | none => exact Attempt.ensures_pure ⟨rfl, rfl⟩
  | some d =>
    refine (Attempt.ensures_await (hlookup (.getRootChildrenCount d.driveId) trivial)).bind
      fun answer _ => ?_
    exact Attempt.ensures_pure ⟨rfl, rfl⟩

private theorem ensures_enrichAll (xs : List (Scored C)) :
    Attempt.Ensures Ok failing (List.Forall₂ CandidateOf xs) (enrichAll xs) := by
  induction xs with
  | nil => exact Attempt.ensures_pure List.Forall₂.nil
  | cons x xs ih =>
    refine (ensures_enrich hlookup x).bind fun candidate hcandidate => ?_
    refine ih.bind fun candidates hcandidates => ?_
    exact Attempt.ensures_pure (List.Forall₂.cons hcandidate hcandidates)

variable [LinearOrder C] [Text] (round2 : ℚ → C)

/-- The branch decides as the whole list does, wherever it is cut behind the second site. It asks
for no more than whether a second site is a strong match. -/
theorem ensures_discover {limit : ℕ} (hlimit : 2 ≤ limit) (p : RescanProject)
    (allSites : List DiscoveredSite) :
    Attempt.Ensures Ok failing
      (fun scan => (scan.status, scan.recommendedSiteId) = verdict p allSites)
      (discover round2 limit p allSites) := by
  have hsites := strong_scoredSites round2 p allSites
  have hbefore : ∀ x y : Scored C, Scored.before x y → decide (y.strength = .strong) = true →
      decide (x.strength = .strong) = true := fun _ _ => strong_of_before
  have hnil : (scoredSites round2 p allSites).insertionSort Scored.before = [] ↔
      scoredSites round2 p allSites = [] := by
    rw [← List.length_eq_zero_iff, List.length_insertionSort, List.length_eq_zero_iff]
  rw [discover]
  split
  · next hnone =>
    have hnone := hnil.mp hnone
    have hany := (scoredSites_eq_nil round2).mp hnone
    rw [hnone] at hsites
    refine Attempt.ensures_pure ?_
    rw [verdict, ← hsites, hany]
    rfl
  · next hsome =>
    have hany : allSites.any (matchesAtAll p) = true := by
      rw [← Bool.not_eq_false]
      exact fun hnone => hsome (hnil.mpr ((scoredSites_eq_nil round2).mpr hnone))
    refine (ensures_enrichAll hlookup _).bind fun candidates hcandidates => ?_
    -- the strong candidates are those of the sites that survive the cut
    have hfilter := List.rel_filter (p := fun x => decide (x.strength = .strong))
      (q := fun c => decide (c.matchStrength = .strong))
      (fun x c hc => iff_of_eq (congrArg (fun s => decide (s = .strong) = true) hc.strength.symm))
      hcandidates
    split
    · next c hc =>
      rw [hc] at hfilter
      obtain ⟨x, rest, hxc, hrest, hx⟩ := List.forall₂_cons_right_iff.mp hfilter
      rw [List.forall₂_nil_right_iff.mp hrest,
        Ranking.filter_take_eq_singleton hbefore hlimit] at hx
      rw [hx] at hsites
      refine Attempt.ensures_pure ?_
      rw [verdict_eq_autoMapped hsites.symm, hxc.siteId]
    · next hc =>
      rw [hc, List.forall₂_nil_right_iff,
        Ranking.filter_take_eq_nil hbefore hlimit] at hfilter
      rw [hfilter] at hsites
      refine Attempt.ensures_pure ?_
      rw [verdict, ← hsites, hany]
      rfl
    · next hone hnone =>
      refine Attempt.ensures_pure ?_
      rw [verdict]
      split
      · next site hsite =>
        rw [hsite, List.map_eq_singleton_iff] at hsites
        obtain ⟨x, hx, -⟩ := hsites
        rw [(Ranking.filter_take_eq_singleton hbefore hlimit).mpr hx] at hfilter
        obtain ⟨c, rest, -, hrest, hc⟩ := List.forall₂_cons_left_iff.mp hfilter
        rw [List.forall₂_nil_left_iff.mp hrest] at hc
        exact absurd hc (hone c)
      · next hsite =>
        rw [hsite, List.map_eq_nil_iff] at hsites
        rw [(Ranking.filter_take_eq_nil hbefore hlimit).mpr hsites] at hfilter
        exact absurd (List.forall₂_nil_left_iff.mp hfilter) hnone
      · rfl

end Branch

/-! ### What the project is given -/

section Project

variable {C : Type} [LinearOrder C] [Text] (round2 : ℚ → C)
  {Ok : (o : RescanRequest) → Option o.Answer → Prop} {failing : Prop}
  (hall : ∀ o : RescanRequest, Ok o none → failing)

section Mailboxes

include hall

omit [LinearOrder C] [Text] in
private theorem ensures_probeMailboxes (addresses : List String) :
    Attempt.Ensures Ok failing (fun _ => True) (probeMailboxes addresses) := by
  induction addresses with
  | nil => exact Attempt.ensures_pure trivial
  | cons addr rest ih =>
    refine (Attempt.ensures_await (hall (.probeMailbox addr))).bind fun answer _ => ?_
    exact ih.bind fun candidates _ => Attempt.ensures_pure trivial

omit [LinearOrder C] in
private theorem ensures_scanMailboxes (existing : List String) :
    Attempt.Ensures Ok failing (fun _ => True) (scanMailboxes existing) := by
  rw [scanMailboxes]
  split
  · exact Attempt.ensures_pure trivial
  · refine (ensures_probeMailboxes hall _).bind fun candidates _ => ?_
    dsimp only
    split
    · exact Attempt.ensures_pure trivial
    · exact Attempt.ensures_pure trivial

/-- A project with a placeholder is given the verdict of the discovered sites. -/
theorem ensures_rescanOneProject {p : RescanProject} (hplaceholder : isPlaceholderSite p.siteId)
    (henabled : p.mappingStatus ≠ "disabled") (allSites : List DiscoveredSite) :
    Attempt.Ensures Ok failing
      (fun r => (r.sharepointStatus, r.recommendedSiteId) = verdict p allSites)
      (rescanOneProject round2 p allSites) := by
  rw [rescanOneProject, if_neg henabled, if_pos hplaceholder]
  refine (ensures_discover (fun o _ => hall o) round2 (by decide) p allSites).bind
    fun scan hscan => ?_
  exact (ensures_scanMailboxes hall _).bind fun mailboxes _ => Attempt.ensures_pure hscan

end Mailboxes

/-- A lookup of drives does not raise. -/
def DriveContract (o : RescanRequest) (answer : Option o.Answer) : Prop :=
  o.IsDriveLookup → answer ≠ none

/-- The lookups of drives return. -/
def LookupsReturn {S : Type} (act : (o : RescanRequest) → S → Option o.Answer × S) : Prop :=
  ∀ o s, DriveContract o (act o s).1

private theorem discover_returns {S : Type} {act : (o : RescanRequest) → S → Option o.Answer × S}
    (hact : LookupsReturn act) (s : S) {limit : ℕ} (hlimit : 2 ≤ limit) (p : RescanProject)
    (allSites : List DiscoveredSite) :
    ∃ scan, ((discover round2 limit p allSites).run.run act s).1 = some scan ∧
      (scan.status, scan.recommendedSiteId) = verdict p allSites := by
  have hlookup : ∀ o : RescanRequest, o.IsDriveLookup → DriveContract o none → False :=
    fun o ho h => h ho rfl
  exact (ensures_discover hlookup round2 hlimit p allSites).run_of_not_failing hact id s

/-- Whatever is answered, a result is the verdict. -/
theorem verdict_of_rescanOneProject {S : Type}
    {act : (o : RescanRequest) → S → Option o.Answer × S} {s : S} {p : RescanProject}
    (hplaceholder : isPlaceholderSite p.siteId) (henabled : p.mappingStatus ≠ "disabled")
    {allSites : List DiscoveredSite} {r : ProjectRescanResult C}
    (h : ((rescanOneProject round2 p allSites).run.run act s).1 = some r) :
    (r.sharepointStatus, r.recommendedSiteId) = verdict p allSites := by
  have hensures : Attempt.Ensures (fun _ _ => True) True
      (fun r : ProjectRescanResult C =>
        (r.sharepointStatus, r.recommendedSiteId) = verdict p allSites)
      (rescanOneProject round2 p allSites) :=
    ensures_rescanOneProject round2 (fun _ _ => trivial) hplaceholder henabled allSites
  exact hensures.of_run (fun _ _ => trivial) h

/-- The discovery maps a project just if one site of the whole list is a strong match, and
recommends it. Neither the order of the list nor where the ranking is cut matters, and what it
decides is what the project is given. -/
theorem discover_autoMapped_iff {S : Type}
    {act : (o : RescanRequest) → S → Option o.Answer × S} (hact : LookupsReturn act) (s : S)
    (p : RescanProject) (allSites : List DiscoveredSite) :
    ∃ scan, ((discover round2 candidateLimit p allSites).run.run act s).1 = some scan ∧
      (scan.status = .autoMapped ↔ (allSites.filter (strongMatch p)).length = 1) ∧
      (∀ site, allSites.filter (strongMatch p) = [site] →
        scan.recommendedSiteId = some site.siteId) ∧
      (∀ (S' : Type) (act' : (o : RescanRequest) → S' → Option o.Answer × S') (s' : S')
        (limit : ℕ) (allSites' : List DiscoveredSite), LookupsReturn act' → 2 ≤ limit →
        allSites'.Perm allSites →
        ∃ scan', ((discover round2 limit p allSites').run.run act' s').1 = some scan' ∧
          scan'.status = scan.status ∧ scan'.recommendedSiteId = scan.recommendedSiteId) ∧
      ∀ (S' : Type) (act' : (o : RescanRequest) → S' → Option o.Answer × S') (s' : S')
        (r : ProjectRescanResult C), isPlaceholderSite p.siteId → p.mappingStatus ≠ "disabled" →
        ((rescanOneProject round2 p allSites).run.run act' s').1 = some r →
          r.sharepointStatus = scan.status ∧ r.recommendedSiteId = scan.recommendedSiteId := by
  have hlimit : 2 ≤ candidateLimit := by decide
  -- `verdict` is what the discovery decides, a function of the sites up to their order
  obtain ⟨scan, hscan, hverdict⟩ := discover_returns round2 hact s hlimit p allSites
  have hstatus : scan.status = (verdict p allSites).1 := congrArg Prod.fst hverdict
  have hsite : scan.recommendedSiteId = (verdict p allSites).2 := congrArg Prod.snd hverdict
  refine ⟨scan, hscan, ?_, ?_, ?_, ?_⟩
  · rw [hstatus]
    exact verdict_autoMapped_iff
  · intro site hone
    rw [hsite, verdict_eq_autoMapped hone]
  · intro S' act' s' limit allSites' hact' hlimit hperm
    obtain ⟨scan', hscan', hverdict'⟩ := discover_returns round2 hact' s' hlimit p allSites'
    rw [verdict_perm hperm] at hverdict'
    exact ⟨scan', hscan', (congrArg Prod.fst hverdict').trans hstatus.symm,
      (congrArg Prod.snd hverdict').trans hsite.symm⟩
  · intro S' act' s' r hplaceholder henabled hr
    have hresult := verdict_of_rescanOneProject round2 hplaceholder henabled hr
    exact ⟨(congrArg Prod.fst hresult).trans hstatus.symm,
      (congrArg Prod.snd hresult).trans hsite.symm⟩

end Project

/-! ### A project and its site -/

section Single

open Py.Whole

/-- A Microsoft Graph on which every site has a document library and no mailbox is found. -/
def librarySites : (o : RescanRequest) → Unit → Option o.Answer × Unit
  | .probeSite _, s => (some (404, ⟨"", "", ""⟩), s)
  | .getDrives site, s => (some [⟨"drive-" ++ site, some "Documents", "documentLibrary"⟩], s)
  | .getRootChildrenCount _, s => (some (200, 5), s)
  | .probeMailbox _, s => (some (false, 404), s)

private theorem lookupsReturn_librarySites : LookupsReturn librarySites := by
  intro o s _
  cases o <;> exact Option.some_ne_none _

/-- A project, its site and another one. -/
theorem discover_autoMapped_prj003 : ∃ scan,
    ((discover id candidateLimit ⟨"PRJ-003", "", "example-site-id-003", "", [], "incomplete"⟩
      [⟨"site-hr", "HR Team", ""⟩, ⟨"site-prj-003", "PRJ-003 Test Site", ""⟩]).run.run
        librarySites ()).1 = some scan ∧
      scan.status = .autoMapped ∧ scan.recommendedSiteId = some "site-prj-003" := by
  obtain ⟨scan, hscan, hstatus, hsite, -⟩ := discover_autoMapped_iff (C := ℚ) id
    lookupsReturn_librarySites () ⟨"PRJ-003", "", "example-site-id-003", "", [], "incomplete"⟩
    [⟨"site-hr", "HR Team", ""⟩, ⟨"site-prj-003", "PRJ-003 Test Site", ""⟩]
  exact ⟨scan, hscan, hstatus.mpr (by decide), hsite ⟨"site-prj-003", "PRJ-003 Test Site", ""⟩
    (by decide)⟩

end Single

end DecisionCenter.Mappings
