import Mathlib.Data.List.Perm.Basic
import DecisionCenter.Data.Grouping
import DecisionCenter.Mappings.Row

/-!
# Matching projects to sites

The synchronisation with Odoo and SharePoint (`apps/edr/admin/odoo_sharepoint_sync.py`) matches
projects to sites by their normalised names. The module has what is read of both and
`_match_projects_to_sites`, with what it returns for every two lists.

A name is normalised by its Unicode form, which is a parameter, its blanks, and its typographic
quotes and dashes. What is read of Odoo and of Microsoft Graph is JSON, from which a project or
a site is made, or nothing where a field that is needed is missing.

The function groups the sites by name and goes through the projects: a project with one site of
its name is exact, with several it is ambiguous, and with none unmatched. Its loop with three
lists is described by filters (`matchProjectsToSites_eq`), from which it follows that each
project is in one of the groups as often as it is in the list, and that lists in another order
have the same groups.

`OneToOne` asks in addition that no site is given to two projects. `SoleNamed` and `Apart` are
the conditions on names for that: a site that is alone in having its name must not share it with
two projects. `Mappings.SyncRun` goes on to what a synchronisation saves.
-/

namespace DecisionCenter.Mappings

open Py

variable {F : Type}

/-! ### Names -/

/-- `re.sub(r" +", " ", s)` -/
def collapseSpaces : List Char → List Char
  | ' ' :: ' ' :: cs => collapseSpaces (' ' :: cs)
  | c :: cs => c :: collapseSpaces cs
  | [] => []

/-- Typographic quotes and dashes as their ASCII forms. -/
def plainChar (c : Char) : Char :=
  if c ∈ ['\u201c', '\u201d', '\u201e'] then '"'
  else if c ∈ ['\u2018', '\u2019', '\u201a'] then '\x27'
  else if c ∈ ['\u2013', '\u2014', '\u2015', '\u2012'] then '-'
  else c

/-- `normalize_name`, over `unicodedata.normalize("NFC", s)` -/
def normalizeName [Text] (nfc : String → String) (s : String) : String :=
  String.ofList ((collapseSpaces (nfc (strip s)).toList).map plainChar)

/-- `OdooProjectInfo` -/
structure OdooProjectInfo where
  odooId : ℤ
  name : String
  normalizedName : String
  deriving DecidableEq, Repr

/-- `SharePointSiteInfo` -/
structure SharePointSiteInfo where
  siteId : String
  displayName : String
  siteName : String
  normalizedDisplayName : String
  webUrl : String
  deriving DecidableEq, Repr

/-! ### What is read -/

section Read

variable [Floats F] [Text] (nfc : String → String)

/-- One project of `_fetch_odoo_projects`, unless its record has no id or no name. -/
def odooProjectInfo (r : Dict F) : Except Error (Option OdooProjectInfo) :=
  if (r.get "id").truthy ∧ (r.get "name").truthy then do
    let odooId ← intField (r.get "id")
    let name := (r.get "name").toStr
    pure (some ⟨odooId, name, normalizeName nfc name⟩)
  else pure none

/-- The projects of `_fetch_odoo_projects`. -/
def odooProjects (raw : List (Dict F)) : Except Error (List OdooProjectInfo) := do
  pure ((← raw.mapM (odooProjectInfo nfc)).filterMap id)

omit [Floats F] in
/-- One site of `sp_sites`; a site without an id raises. -/
def sharePointSite (s : Dict F) : Option SharePointSiteInfo := do
  let .str siteId ← s.get? "id" | none
  let displayName ← (strField s "displayName").toOption
  pure
    { siteId := siteId
      displayName := displayName
      siteName := ← (strField s "name").toOption
      normalizedDisplayName := normalizeName nfc displayName
      webUrl := ← (strField s "webUrl").toOption }

end Read

/-! ### `_match_projects_to_sites` -/

/-- The classified projects, and the sites of those that have one. -/
structure Matching where
  exact : List (OdooProjectInfo × SharePointSiteInfo) := []
  noMatch : List OdooProjectInfo := []
  multi : List OdooProjectInfo := []
  deriving DecidableEq, Repr

/-- The body of the loop over the projects. -/
def Matching.classify (spByNorm : Grouping.Groups String SharePointSiteInfo) (m : Matching)
    (proj : OdooProjectInfo) : Matching :=
  match Grouping.get spByNorm proj.normalizedName with
  | [site] => { m with exact := m.exact ++ [(proj, site)] }
  | [] => { m with noMatch := m.noMatch ++ [proj] }
  | _ => { m with multi := m.multi ++ [proj] }

/-- `_match_projects_to_sites` -/
def matchProjectsToSites (projects : List OdooProjectInfo) (sites : List SharePointSiteInfo) :
    Matching :=
  projects.foldl (Matching.classify (Grouping.groupBy (·.normalizedDisplayName) sites)) {}

/-- The sites of a name. -/
def candidates (sites : List SharePointSiteInfo) (name : String) : List SharePointSiteInfo :=
  sites.filter fun s => s.normalizedDisplayName = name

/-- A project with the site of its name, if that is the only one. -/
def exactPair (sites : List SharePointSiteInfo) (proj : OdooProjectInfo) :
    Option (OdooProjectInfo × SharePointSiteInfo) :=
  match candidates sites proj.normalizedName with
  | [site] => some (proj, site)
  | _ => none

section Matching

variable {projects projects' : List OdooProjectInfo} {sites sites' : List SharePointSiteInfo}
  {proj : OdooProjectInfo} {site : SharePointSiteInfo}

private theorem mem_candidates {name : String} :
    site ∈ candidates sites name ↔ site ∈ sites ∧ site.normalizedDisplayName = name := by
  rw [candidates, List.mem_filter, decide_eq_true_eq]

private theorem exactPair_eq_some {pair : OdooProjectInfo × SharePointSiteInfo} :
    exactPair sites proj = some pair ↔
      pair.1 = proj ∧ candidates sites proj.normalizedName = [pair.2] := by
  rw [exactPair]
  split
  · next s h =>
    rw [h, Option.some.injEq, Prod.ext_iff, List.cons.injEq]
    exact and_congr eq_comm ⟨fun hs => ⟨hs, rfl⟩, And.left⟩
  · next h => exact iff_of_false nofun fun hp => h _ hp.2

/-- The three groups, each by itself. The loop sorts each project into one of them, by the number of
its candidates. -/
theorem matchProjectsToSites_eq (projects : List OdooProjectInfo)
    (sites : List SharePointSiteInfo) :
    matchProjectsToSites projects sites =
      { exact := projects.filterMap (exactPair sites)
        noMatch := projects.filter fun p => (candidates sites p.normalizedName).length = 0
        multi := projects.filter fun p => 2 ≤ (candidates sites p.normalizedName).length } := by
  have hloop (m : Matching) : projects.foldl
      (Matching.classify (Grouping.groupBy (·.normalizedDisplayName) sites)) m =
      { exact := m.exact ++ projects.filterMap (exactPair sites)
        noMatch := m.noMatch ++
          projects.filter fun p => (candidates sites p.normalizedName).length = 0
        multi := m.multi ++
          projects.filter fun p => 2 ≤ (candidates sites p.normalizedName).length } := by
    induction projects generalizing m with
    | nil => simp
    | cons p projects ih =>
      have hget : Grouping.get (Grouping.groupBy (·.normalizedDisplayName) sites)
          p.normalizedName = candidates sites p.normalizedName := Grouping.get_groupBy _ _ _
      rw [List.foldl_cons, ih, Matching.classify, hget]
      rcases h : candidates sites p.normalizedName with _ | ⟨s, _ | ⟨t, rest⟩⟩ <;>
        simp [h, exactPair]
  exact hloop {}

private theorem map_fst_exactPair (projects : List OdooProjectInfo)
    (sites : List SharePointSiteInfo) : (projects.filterMap (exactPair sites)).map Prod.fst =
      projects.filter fun p => (candidates sites p.normalizedName).length = 1 := by
  induction projects with
  | nil => rfl
  | cons p projects ih =>
    rcases h : candidates sites p.normalizedName with _ | ⟨s, _ | ⟨t, rest⟩⟩ <;>
      simp [exactPair, h, ih]

/-- Each project is in one of the three groups, as often as it is in the list. Their filters exclude
each other, and between them leave out nobody. -/
theorem matching_partition (projects : List OdooProjectInfo) (sites : List SharePointSiteInfo) :
    ((matchProjectsToSites projects sites).exact.map Prod.fst ++
      ((matchProjectsToSites projects sites).noMatch ++
        (matchProjectsToSites projects sites).multi)).Perm projects := by
  let number (p : OdooProjectInfo) : ℕ := (candidates sites p.normalizedName).length
  -- the projects without exactly one site have none, or several
  let rest := projects.filter fun p => !decide (number p = 1)
  have hnone : projects.filter (fun p => number p = 0) =
      rest.filter fun p => decide (number p = 0) := by
    rw [List.filter_filter]
    refine List.filter_congr fun p _ => ?_
    by_cases hp : number p = 0 <;> simp [hp]
  have hseveral : projects.filter (fun p => 2 ≤ number p) =
      rest.filter fun p => !decide (number p = 0) := by
    rw [List.filter_filter]
    refine List.filter_congr fun p _ => Bool.eq_iff_iff.mpr ?_
    simp only [decide_eq_true_eq, Bool.and_eq_true, Bool.not_eq_true', decide_eq_false_iff_not]
    omega
  rw [matchProjectsToSites_eq, map_fst_exactPair]
  calc projects.filter (fun p => number p = 1) ++
        (projects.filter (fun p => number p = 0) ++ projects.filter fun p => 2 ≤ number p)
    _ = projects.filter (fun p => number p = 1) ++ (rest.filter (fun p => decide (number p = 0)) ++
        rest.filter fun p => !decide (number p = 0)) := by rw [hnone, hseveral]
    List.Perm _ (projects.filter (fun p => number p = 1) ++ rest) :=
      (List.filter_append_perm _ rest).append_left _
    List.Perm _ projects := List.filter_append_perm (fun p => decide (number p = 1)) projects

/-- In another order, the sites of a name are the same. -/
theorem exactPair_perm (hsites : sites'.Perm sites) (proj : OdooProjectInfo) :
    exactPair sites' proj = exactPair sites proj := by
  have hperm : (candidates sites' proj.normalizedName).Perm
      (candidates sites proj.normalizedName) := hsites.filter _
  refine Option.ext fun pair => ?_
  rw [exactPair_eq_some, exactPair_eq_some]
  exact and_congr_right fun _ =>
    ⟨fun h => List.perm_singleton.mp (h ▸ hperm.symm), fun h => List.perm_singleton.mp (h ▸ hperm)⟩

private theorem length_candidates_perm (hsites : sites'.Perm sites) (name : String) :
    (candidates sites' name).length = (candidates sites name).length :=
  (hsites.filter _).length_eq

/-- Lists in another order have the same groups. -/
theorem matching_perm (hprojects : projects'.Perm projects) (hsites : sites'.Perm sites) :
    (matchProjectsToSites projects' sites').exact.Perm (matchProjectsToSites projects sites).exact ∧
    (matchProjectsToSites projects' sites').noMatch.Perm
      (matchProjectsToSites projects sites).noMatch ∧
    (matchProjectsToSites projects' sites').multi.Perm
      (matchProjectsToSites projects sites).multi := by
  have hexact : exactPair sites' = exactPair sites := funext (exactPair_perm hsites)
  have hnumber := length_candidates_perm hsites
  simp only [matchProjectsToSites_eq, hexact, hnumber]
  exact ⟨hprojects.filterMap _, hprojects.filter _, hprojects.filter _⟩

/-! ### One to one -/

/-- Of a list of pairs, no two have one project, and no two have one site. -/
def OneToOne (pairs : List (OdooProjectInfo × SharePointSiteInfo)) : Prop :=
  pairs.Pairwise fun a b => a.1.odooId ≠ b.1.odooId ∧ a.2.siteId ≠ b.2.siteId

/-- The site is the only one of its name. -/
def SoleNamed (sites : List SharePointSiteInfo) (site : SharePointSiteInfo) : Prop :=
  (candidates sites site.normalizedDisplayName).length = 1

/-- Two records of the projects that each bear the name of a site that is alone in having it are
of two projects, and the sites are two. -/
def Apart (projects : List OdooProjectInfo) (sites : List SharePointSiteInfo) : Prop :=
  projects.Pairwise fun p q => ∀ s ∈ sites, ∀ t ∈ sites,
    SoleNamed sites s → SoleNamed sites t →
    s.normalizedDisplayName = p.normalizedName → t.normalizedDisplayName = q.normalizedName →
      p.odooId ≠ q.odooId ∧ s.siteId ≠ t.siteId

private theorem exactPair_eq_some_iff :
    exactPair sites proj = some (proj, site) ↔
      site ∈ sites ∧ SoleNamed sites site ∧ site.normalizedDisplayName = proj.normalizedName := by
  rw [exactPair_eq_some, SoleNamed]
  constructor
  · rintro ⟨-, h⟩
    obtain ⟨hmem, hname⟩ := mem_candidates.mp (h ▸ List.mem_singleton_self site)
    exact ⟨hmem, by rw [hname, h]; rfl, hname⟩
  · rintro ⟨hmem, hsole, hname⟩
    refine ⟨rfl, ?_⟩
    rw [hname] at hsole
    obtain ⟨t, ht⟩ := List.length_eq_one_iff.mp hsole
    have hsite : site ∈ candidates sites proj.normalizedName := mem_candidates.mpr ⟨hmem, hname⟩
    rw [ht, List.mem_singleton] at hsite
    rw [ht, hsite]

/-- The matching is one to one just if the names keep projects and sites apart. -/
theorem oneToOne_iff (projects : List OdooProjectInfo) (sites : List SharePointSiteInfo) :
    OneToOne (matchProjectsToSites projects sites).exact ↔ Apart projects sites := by
  rw [matchProjectsToSites_eq, OneToOne, Apart, List.pairwise_filterMap]
  refine List.Pairwise.iff fun {p q} => ⟨fun h s hs t ht hs₁ ht₁ hp hq => ?_, fun h a ha b hb => ?_⟩
  · exact h (p, s) (exactPair_eq_some_iff.mpr ⟨hs, hs₁, hp⟩) (q, t)
      (exactPair_eq_some_iff.mpr ⟨ht, ht₁, hq⟩)
  · obtain ⟨p', s⟩ := a
    obtain ⟨q', t⟩ := b
    obtain rfl : p' = p := (exactPair_eq_some.mp ha).1
    obtain rfl : q' = q := (exactPair_eq_some.mp hb).1
    obtain ⟨hs, hs₁, hp⟩ := exactPair_eq_some_iff.mp ha
    obtain ⟨ht, ht₁, hq⟩ := exactPair_eq_some_iff.mp hb
    exact h s hs t ht hs₁ ht₁ hp hq

/-- Of different projects and different sites, a site that is alone in having its name must not
share it with two projects. -/
theorem apart_iff_of_nodup (hprojects : (projects.map (·.odooId)).Nodup)
    (hsites : (sites.map (·.siteId)).Nodup) :
    Apart projects sites ↔ projects.Pairwise fun p q => p.normalizedName = q.normalizedName →
      ∀ s ∈ sites, SoleNamed sites s → s.normalizedDisplayName ≠ p.normalizedName := by
  have hids : projects.Pairwise fun p q => p.odooId ≠ q.odooId := List.pairwise_map.mp hprojects
  constructor
  · refine fun h => h.imp fun {p q} hapart hname s hs hsole hp => ?_
    exact (hapart s hs s hs hsole hsole hp (hp.trans hname)).2 rfl
  · refine fun h =>
      hids.imp₂ (fun p q hne hapart s hs t ht hsole _ hp hq => ⟨hne, fun hsite => ?_⟩) h
    obtain rfl : s = t := List.inj_on_of_nodup_map hsites hs ht hsite
    exact hapart (hp.symm.trans hq) s hs hsole hp

end Matching

end DecisionCenter.Mappings
