import DecisionCenter.Mappings.Survival

/-!
# The status shown and the status enforced

`_enforce_complete_source_mapping` reads the status a row stores, and the detail shown to the
admin computes it anew from the columns, unless the row is disabled. The two agree in every
reachable table exactly when each status that was not computed from the columns it is stored
with (by the seeding, the synchronisation or the migrations) is one the columns earn.

For a row the question is whether it is stored as complete and shown as complete together. What
is shown depends on the body that is read of the row, and the stored status agrees with it just
if it is earned (`statusEarned_iff`): complete where the checks find no fault, and not complete
where they find one, a disabled row apart.

An endpoint that stores a body computes the status from it, so that its rows earn theirs,
whatever the body (`statusEarned_storedRow`). What remains are the writers that do not compute
one. The migrations rewrite columns as well as statuses, so that what an endpoint writes is
judged once it has been migrated.

The run is that of `Mappings.Admission`, and so is the induction.
`shownAsEnforced_throughout_iff` is exact along runs from an empty table. The synchronisation,
which saves a project with a site of an example name as complete, is the failing case.
-/

namespace DecisionCenter.Mappings

open Async.Run Py

variable {F : Type}

section System

variable [Text] [Floats F] (owncloudConfigured : Bool)

/-! ### A row -/

/-- The columns of the row pass the checks of a complete mapping. -/
def PassesChecks (r : MappingRow F) : Prop :=
  ∃ body, r.body = .ok body ∧ (computeMappingStatus owncloudConfigured body).1 = "complete"

/-- The status of a row, unless it is disabled, is complete exactly when its columns pass. -/
def StatusEarned (r : MappingRow F) : Prop :=
  r.mappingStatus ≠ "disabled" →
    (r.mappingStatus = "complete" ↔ PassesChecks owncloudConfigured r)

/-- The detail shows the row as complete. -/
def ShownComplete (r : MappingRow F) : Prop :=
  ∃ detail, rowToSourceMappingDetail owncloudConfigured r = .ok detail ∧
    detail.mappingStatus = "complete"

variable {owncloudConfigured} {r : MappingRow F}

/-- What is shown of a row that can be read. -/
theorem rowToSourceMappingDetail_of_body {body : SourceMappingUpsertRequest}
    (hbody : r.body = .ok body) :
    rowToSourceMappingDetail owncloudConfigured r = .ok
      { body with
        projectCode := r.projectCode
        mappingStatus := if r.mappingStatus = "disabled" then "disabled"
          else (computeMappingStatus owncloudConfigured body).1 } := by
  rw [rowToSourceMappingDetail, hbody]
  by_cases hempty : r.mappingStatus = ""
  · simp [hempty, bind, Except.bind, pure, Except.pure]
  · by_cases hdisabled : r.mappingStatus = "disabled" <;>
      simp [hempty, hdisabled, bind, Except.bind, pure, Except.pure]

/-- A row is shown as complete if it passes the checks and is not disabled. -/
private theorem shownComplete_iff : ShownComplete owncloudConfigured r ↔
    r.mappingStatus ≠ "disabled" ∧ PassesChecks owncloudConfigured r := by
  rw [ShownComplete, PassesChecks]
  cases hbody : r.body with
  | error err =>
    have hshown : rowToSourceMappingDetail owncloudConfigured r = .error err := by
      rw [rowToSourceMappingDetail, hbody]
      rfl
    rw [hshown]
    exact iff_of_false nofun nofun
  | ok body =>
    rw [rowToSourceMappingDetail_of_body hbody]
    by_cases hdisabled : r.mappingStatus = "disabled"
    · refine iff_of_false ?_ fun h => h.1 hdisabled
      rintro ⟨detail, hdetail, hcomplete⟩
      obtain rfl := Except.ok.inj hdetail
      dsimp only at hcomplete
      rw [if_pos hdisabled] at hcomplete
      exact absurd hcomplete (by decide)
    · simp [hdisabled]

/-- The stored and the shown status agree exactly when the stored one is earned. -/
theorem statusEarned_iff : StatusEarned owncloudConfigured r ↔
    (r.mappingStatus = "complete" ↔ ShownComplete owncloudConfigured r) := by
  rw [shownComplete_iff, StatusEarned]
  by_cases h : r.mappingStatus = "disabled"
  · rw [h]
    exact iff_of_true (fun hne => absurd rfl hne)
      (iff_of_false (by decide) fun hand => hand.1 rfl)
  · simp only [ne_eq, h, not_false_eq_true, true_and, forall_const]

/-- A status that an endpoint computes is earned. -/
theorem statusEarned_storedRow (code : String) (body : SourceMappingUpsertRequest) :
    StatusEarned owncloudConfigured (storedRow owncloudConfigured code body : MappingRow F) := by
  intro _
  constructor
  · exact fun h => ⟨body, body_row code _ body, h⟩
  · rintro ⟨body', hbody, h⟩
    obtain rfl := Except.ok.inj ((body_row code _ body).symm.trans hbody)
    exact h

/-! ### The edits -/

/-- The endpoint computes the status it stores. -/
def Edit.computesStatus : Edit → Bool
  | .sync _ => false
  | _ => true

/-- The rows of an endpoint that computes their status earn it. -/
private theorem Edit.statusEarned {rows : List (MappingRow F)} {e : Edit}
    (he : e.computesStatus = true) {w : MappingRow F} (hw : w ∈ e.written owncloudConfigured rows) :
    StatusEarned owncloudConfigured w := by
  cases e with
  | put code body =>
    rw [List.mem_singleton.mp hw]
    exact statusEarned_storedRow code body
  | disable code =>
    have hdisabled : w.mappingStatus = "disabled" := by
      rw [written] at hw
      split at hw
      · cases hw
      · split at hw
        · cases hw
        · rw [List.mem_singleton.mp hw]
    exact fun h => absurd hdisabled h
  | confirm code req =>
    obtain ⟨_, existing, -, -, -, rfl⟩ := confirmRow_eq_some.mp (Option.mem_toList.mp hw)
    exact statusEarned_storedRow code _
  | enrich requested results =>
    rw [written] at hw
    split at hw
    · obtain ⟨result, -, hresult⟩ := List.mem_filterMap.mp hw
      obtain ⟨_, existing, -, -, rfl⟩ := enrichRow_eq_some.mp hresult
      exact statusEarned_storedRow _ _
    · cases hw
  | sync pairs => cases he

private theorem Edit.mappingStatus_of_sync {rows : List (MappingRow F)} {pairs : List MatchedPair}
    {w : MappingRow F} (hw : w ∈ (Edit.sync pairs).written owncloudConfigured rows) :
    w.mappingStatus = "complete" := by
  obtain ⟨pair, -, rfl⟩ := List.mem_map.mp hw
  rfl

/-! ### The system -/

variable (owncloudConfigured) (file : MappingFile)

/-- In a table with rows, the guard admits a project exactly when its detail is shown as
complete. -/
def ShownAsEnforced (rows : List (MappingRow F)) : Prop :=
  initSchema file rows ≠ [] → ∀ code, code ≠ "" →
    (enforceCompleteSourceMapping file (some rows) (some code) = .ok () ↔
      ∃ r, getSourceMapping code (initSchema file rows) = some r ∧
        ShownComplete owncloudConfigured r)

/-- The columns of each seeded row, once it is migrated, earn the status of the file. -/
def SeedsEarnStatus (F : Type) [Floats F] : Prop :=
  ∀ code e, code ≠ "" → (file.find? fun e => e.projectCode = code) = some e →
    StatusEarned owncloudConfigured (migrateRow file (seedRow e : MappingRow F))

/-- A row that an endpoint leaves and that the migrations do not touch passes the checks if the
endpoint does not compute the status; if they do touch it, the status beside the new columns is
one these earn. -/
def Request.EarnsStatus (rows : List (MappingRow F)) : Request → Prop
  | .edit e => ∀ code w, code ≠ "" →
      e.lastWritten owncloudConfigured (initSchema file rows) code = some w →
      (AtRest file w → e.computesStatus = false → PassesChecks owncloudConfigured w) ∧
        (¬ AtRest file w → StatusEarned owncloudConfigured (migrateRow file w))
  | .other => True

variable {owncloudConfigured} {file} {rows : List (MappingRow F)}

private theorem shownAsEnforced_iff : ShownAsEnforced owncloudConfigured file rows ↔
    EveryRow file (fun code r => code ≠ "" → StatusEarned owncloudConfigured r) rows := by
  constructor
  · intro h code r hr hcode
    have hne : initSchema file rows ≠ [] := by
      intro hempty
      rw [hempty] at hr
      cases hr
    have hiff := h hne code hcode
    rw [admitted_iff hcode, or_iff_right hne, hr] at hiff
    simpa [statusEarned_iff] using hiff
  · intro h hne code hcode
    rw [admitted_iff hcode, or_iff_right hne]
    refine exists_congr fun r => and_congr_right fun hr => ?_
    exact statusEarned_iff.mp (h code r hr hcode)

private theorem statusEarned_migrateRow_iff {e : Edit} {w : MappingRow F}
    (hw : w ∈ e.written owncloudConfigured rows) :
    StatusEarned owncloudConfigured (migrateRow file w) ↔
      (AtRest file w → e.computesStatus = false → PassesChecks owncloudConfigured w) ∧
        (¬ AtRest file w → StatusEarned owncloudConfigured (migrateRow file w)) := by
  by_cases hrest : AtRest file w
  · rw [migrateRow_eq_self_iff.mpr hrest]
    cases he : e.computesStatus with
    | true => simp [e.statusEarned he hw]
    | false =>
      have hcomplete : w.mappingStatus = "complete" := by
        cases e with
        | sync pairs => exact Edit.mappingStatus_of_sync hw
        | _ => cases he
      simp [StatusEarned, hrest, hcomplete]
  · simp [hrest]

/-- A request keeps the agreement exactly when what it writes has a status it earns. -/
theorem shownAsEnforced_step (h : ShownAsEnforced owncloudConfigured file rows) (a : Request) :
    ShownAsEnforced owncloudConfigured file (step owncloudConfigured file rows a) ↔
      a.EarnsStatus owncloudConfigured file rows := by
  have hwritten : a.EarnsStatus owncloudConfigured file rows ↔
      ∀ code w, a.lastWritten owncloudConfigured file rows code = some w → code ≠ "" →
        StatusEarned owncloudConfigured (migrateRow file w) := by
    cases a with
    | edit e =>
      refine forall₂_congr fun code w => ⟨fun hw hlast hcode => ?_, fun hw hcode hlast => ?_⟩
      · exact (statusEarned_migrateRow_iff (Edit.mem_written hlast).1).mpr (hw hcode hlast)
      · exact (statusEarned_migrateRow_iff (Edit.mem_written hlast).1).mp (hw hlast hcode)
    | other => exact iff_of_true trivial nofun
  rw [shownAsEnforced_iff, hwritten]
  refine everyRow_step (fun code r hr => ?_) (shownAsEnforced_iff.mp h) a
  rwa [migrateRow_migrateRow]

/-- Before the first request, the agreement is up to the file. -/
theorem shownAsEnforced_nil : ShownAsEnforced (F := F) owncloudConfigured file [] ↔
    SeedsEarnStatus owncloudConfigured file F := by
  rw [shownAsEnforced_iff, everyRow_nil, SeedsEarnStatus]
  exact forall₂_congr fun code e => ⟨fun h hcode he => h he hcode, fun h he hcode => h hcode he⟩

/-- Along a run of requests from an empty table, the guard admits exactly the projects shown as
complete when, and only when, all that is seeded and stored has a status it earns. A status that was
computed from the columns is earned, whatever they are. -/
theorem shownAsEnforced_throughout_iff (owncloudConfigured : Bool) (file : MappingFile)
    (run : List Request) :
    Throughout (step owncloudConfigured file) (ShownAsEnforced (F := F) owncloudConfigured file)
        [] run ↔
      SeedsEarnStatus owncloudConfigured file F ∧
        Along (step owncloudConfigured file)
          (fun (rows : List (MappingRow F)) a => a.EarnsStatus owncloudConfigured file rows)
          [] run := by
  have hiff : ShownAsEnforced (F := F) owncloudConfigured file [] →
      (Throughout (step owncloudConfigured file)
          (ShownAsEnforced (F := F) owncloudConfigured file) [] run ↔
        Along (step owncloudConfigured file)
          (fun (rows : List (MappingRow F)) a => a.EarnsStatus owncloudConfigured file rows)
          [] run) := by
    intro h
    exact @throughout_iff_along _ _ _ (fun rows a => a.EarnsStatus owncloudConfigured file rows)
      (fun _ => True) (ShownAsEnforced owncloudConfigured file) (fun _ _ _ => trivial)
      (fun _ a _ hrows => shownAsEnforced_step hrows a) [] trivial h run
  rw [← shownAsEnforced_nil]
  constructor
  · intro h
    have hstart : ShownAsEnforced (F := F) owncloudConfigured file [] := h [] run rfl
    exact ⟨hstart, (hiff hstart).mp h⟩
  · rintro ⟨hstart, hrun⟩
    exact (hiff hstart).mpr hrun

end System

/-! ### A pair with the name of an example -/

section Whole

open Py.Whole

/-- An Odoo project whose name reads as a placeholder, and its site. -/
def examplePair : MatchedPair where
  odooProjectId := 7
  odooProjectName := "Example-Tower"
  sharepointSiteId := "contoso,tower,1"
  sharepointDriveId := some "drive-1"
  sharepointSiteName := "tower"
  sharepointDisplayName := "Example-Tower"
  sharepointWebUrl := "https://contoso.sharepoint.com/sites/tower"

/-- The synchronisation saves it as complete: it is admitted, and shown as incomplete. -/
theorem not_shownAsEnforced_sync :
    ¬ ∀ run : List Request, Throughout (step false [listedEntry])
      (ShownAsEnforced (F := ℤ) false [listedEntry]) [] run := by
  intro h
  let sync : Request := .edit (.sync [examplePair])
  have hrow : getSourceMapping (F := ℤ) "odoo-7"
      (initSchema [listedEntry] (step false [listedEntry] [] sync)) = some examplePair.row := rfl
  have hearned : StatusEarned (F := ℤ) false examplePair.row :=
    shownAsEnforced_iff.mp (h [sync] [sync] [] rfl) "odoo-7" _ hrow (by decide)
  obtain ⟨body, hbody, hcomplete⟩ := (hearned (by decide)).mp rfl
  have hread : (MappingRow.body (F := ℤ) examplePair.row).toOption.map
      (fun body => (computeMappingStatus false body).1) = some "incomplete" := by
    decide +kernel
  rw [hbody, Except.toOption, Option.map_some, hcomplete] at hread
  exact absurd (Option.some.inj hread) (by decide)

end Whole

end DecisionCenter.Mappings
