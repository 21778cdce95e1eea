import DecisionCenter.Py.Whole
import DecisionCenter.Retrieval.Ledger

/-!
# Sources that are not enabled

A mapping lists the sources enabled for its project. Nodes 5 and 8 record the flag and read
nevertheless, and node 11 does not look at it; node 7 skips the group mailbox, but falls back to
the caller's own. A project is served by the enabled sources alone just if the only source it
leaves out is e-mail and there is no mailbox it could fall back to.

`SkipsDisabled` asks of a run that a source which is not enabled is recorded as such and that
nothing of it is in the pack. It is put to every run of every authorized request, so that a
condition on the mapping can be exact for it.

The statuses that nodes 5 and 8 record never say that a source is not enabled, which settles the
matter for SharePoint and Odoo: they have to be enabled. Node 7 records it just where there is
no allowlist, and then reads nothing. What node 11 adds is of SharePoint or Odoo, so that
nothing of e-mail comes in later (`Correction.Labelled.ne_email`).

`skipsDisabled_iff` puts these together. A project that enables Odoo only, and whose documents
are searched and kept, is the failing case.
-/

namespace DecisionCenter

open Async Py

variable {F : Type} {mapping : ProjectMapping}

/-- What nodes 5, 7, 8 and 11 put into the pack. -/
def Gathered.entered (g : Gathered F) : List (Evidence F) :=
  g.reads.sharepoint.items ++ g.reads.email.items ++ g.reads.odoo.items ++ g.correction.items

section Skips

variable [Text] [Floats F]

/-- A source that is not enabled delivers nothing and is recorded as such. Nodes 9 to 11 leave
the ledger as node 8 left it. -/
def SkipsDisabled (a : Authorized F mapping) (g : Gathered F) : Prop :=
  ∀ s, a.entry.enables s = false →
    (∀ e ∈ g.entered, e.sourceType ≠ s.sourceType) ∧
      ((a.collected g.reads).outputs.sourceCoverage.entry s).status = .notEnabled

omit [Text] [Floats F] in
/-- SharePoint and Odoo are enabled, and e-mail is, or there is no mailbox to fall back to. -/
def DisablesBareEmailOnly (a : Authorized F mapping) : Prop :=
  a.entry.enables .sharepoint = true ∧ a.entry.enables .odoo = true ∧
    (a.entry.enables .email = true ∨
      a.role.permissions.canAccessOwnMailbox = true ∧ a.entry.allowedMailboxes = [])

/-! ### The statuses recorded -/

omit [Text] [Floats F] in
private theorem foundStatus_ne_notEnabled (items : List (Evidence F)) :
    foundStatus items ≠ .notEnabled := by
  rw [foundStatus]
  split <;> simp

omit [Text] [Floats F] in
/-- Node 5 never records that SharePoint is not enabled. -/
theorem SharepointRead.status_ne_notEnabled (r : SharepointRead F) : r.status ≠ .notEnabled := by
  cases r with
  | denied => simp [status]
  | failed f => simp [status]
  | found r => exact foundStatus_ne_notEnabled r.evidence

omit [Text] [Floats F] in
/-- Node 8 never records that Odoo is not enabled. -/
theorem OdooRead.status_ne_notEnabled (r : OdooRead F) : r.status ≠ .notEnabled := by
  match r with
  | .denied => simp [status]
  | .failed .timeout => simp [status]
  | .failed (.error _) => simp [status]
  | .interrupted _ _ => simp [status]
  | .found project cost extended => exact foundStatus_ne_notEnabled _

omit [Text] [Floats F] in
/-- Node 7 records it just where it finds no allowlist. -/
theorem EmailRead.status_eq_notEnabled_iff {r : EmailRead F} :
    r.status false = .notEnabled ↔ r = .noAllowlist := by
  cases r with
  | found mailbox items rawCount => simp [status, foundStatus_ne_notEnabled]
  | _ => simp [status]

/-- Where e-mail is not enabled, node 7 skips its read only for want of an allowlist. Without a
group it goes on to the caller's own mailbox. -/
theorem searchMessages_disabled {Ok : (c : Call F) → c.Result → Prop} {m : ProjectEntry}
    (hm : m.enables .email = false) (perms : RolePermissions) (state : DecisionState F)
    (code : String) :
    (searchMessages m perms state code).Ensures Ok fun r =>
      r = .noAllowlist ↔ perms.canAccessOwnMailbox = true ∧ state.allowedMailboxes = [] := by
  have hgroup : m.mailGroup? = none := by
    simp [ProjectEntry.mailGroup?, hm]
  rw [searchMessages, hgroup]
  dsimp only
  split
  · next hperm => simp_all [Task.Ensures]
  · next hperm =>
    split
    · next hnil => simp_all [Task.Ensures]
    · next hne =>
      have hallowed : state.allowedMailboxes ≠ [] := fun h => hne (by rw [h]; rfl)
      split
      · simp [Task.Ensures, hallowed]
      · refine (Task.ensures_true _).bind fun x _ => ?_
        have hread : screenMessages .user state.query x ≠ .noAllowlist := by
          cases x <;> simp [screenMessages]
        simp [Task.Ensures, hread, hallowed]

/-- The same of a whole run. -/
theorem Authorized.gather_disabled {Ok : (c : Call F) → c.Result → Prop}
    (a : Authorized F mapping) (ha : a.entry.enables .email = false)
    (settings : RetrievalSettings) :
    (a.gather settings).Ensures Ok fun g => g.reads.email = .noAllowlist ↔
      a.role.permissions.canAccessOwnMailbox = true ∧ a.entry.allowedMailboxes = [] := by
  have hcollect : (a.collect settings).Ensures Ok fun reads => reads.email = .noAllowlist ↔
      a.role.permissions.canAccessOwnMailbox = true ∧ a.entry.allowedMailboxes = [] := by
    refine (Task.ensures_true _).bind fun sharepoint _ => ?_
    refine (Task.ensures_true _).bind fun owncloud _ => ?_
    refine (searchMessages_disabled ha _ _ _).bind fun email hemail => ?_
    refine (Task.ensures_true _).bind fun odoo _ => ?_
    obtain ⟨reason, hrecord⟩ := recordSharepoint_eq a.entry sharepoint a.state
    rw [afterSharepoint, hrecord] at hemail
    rw [← a.mailboxes_eq]
    exact hemail
  exact hcollect.bind fun reads hreads => (Task.ensures_true _).bind fun correction _ => hreads

/-! ### When disabled sources are skipped -/

/-- SharePoint and Odoo have to be enabled. -/
theorem SkipsDisabled.enables {a : Authorized F mapping} {g : Gathered F}
    (h : SkipsDisabled a g) {s : ProjectSource} (hs : s ≠ .email) : a.entry.enables s = true := by
  by_contra hdisabled
  have hstatus := (h s (Bool.not_eq_true _ ▸ hdisabled)).2
  obtain ⟨reason, hentry⟩ := a.collected_entry g.reads s
  rw [hentry] at hstatus
  cases s with
  | odoo => exact g.reads.odoo.status_ne_notEnabled hstatus
  | sharepoint => exact g.reads.sharepoint.status_ne_notEnabled hstatus
  | email => exact hs rfl

omit [Text] [Floats F] in
/-- Self-correction reads SharePoint and Odoo only. -/
theorem Correction.Labelled.ne_email {c : Correction F} (h : c.Labelled) {e : Evidence F}
    (he : e ∈ c.items) : e.sourceType ≠ .email := by
  cases c with
  | retried documents records =>
    obtain he | he := List.mem_append.mp he
    · rw [h.1 e he]
      decide
    · rw [h.2 e he]
      decide
  | _ => cases he

omit [Text] [Floats F] in
/-- Without a read of node 7 there is no e-mail in the pack. -/
theorem Gathered.Labelled.ne_email {g : Gathered F} (h : g.Labelled)
    (hnone : g.reads.email.items = []) {e : Evidence F} (he : e ∈ g.entered) :
    e.sourceType ≠ .email := by
  rw [entered, hnone, List.append_nil, List.mem_append, List.mem_append] at he
  obtain (he | he) | he := he
  · rw [h.project .sharepoint e he]
    decide
  · rw [h.project .odoo e he]
    decide
  · exact h.correction.ne_email he

/-- In every run, the sources that are not enabled are skipped just if e-mail is the only one and
there is no mailbox to fall back to. The condition is on the mapping and the role alone, as nodes 5
and 8 read whether or not their source is enabled. -/
theorem skipsDisabled_iff {S : Type} (world : Connectors F S) (settings : RetrievalSettings)
    (a : Authorized F mapping) (s₀ : S) :
    SkipsDisabled a ((a.gather settings).run world.answer s₀).1 ↔ DisablesBareEmailOnly a := by
  generalize hg : ((a.gather settings).run world.answer s₀).1 = g
  have hlabelled : g.Labelled := hg ▸ world.run_ensures (a.gather_labelled settings) s₀
  have hemail : a.entry.enables .email = false → (g.reads.email = .noAllowlist ↔
      a.role.permissions.canAccessOwnMailbox = true ∧ a.entry.allowedMailboxes = []) :=
    fun ha => hg ▸ world.run_ensures (a.gather_disabled ha settings) s₀
  constructor
  · intro h
    refine ⟨h.enables (by decide), h.enables (by decide), ?_⟩
    rw [or_iff_not_imp_left, Bool.not_eq_true]
    intro ha
    refine (hemail ha).mp (EmailRead.status_eq_notEnabled_iff.mp ?_)
    have hstatus := (h .email ha).2
    obtain ⟨reason, hentry⟩ := a.collected_entry g.reads .email
    rw [hentry, Reads.status, ha] at hstatus
    exact hstatus
  · rintro ⟨hsharepoint, hodoo, hmail⟩ s hs
    cases s with
    | odoo => rw [hodoo] at hs; cases hs
    | sharepoint => rw [hsharepoint] at hs; cases hs
    | email =>
      have hnone : g.reads.email = .noAllowlist :=
        (hemail hs).mpr (hmail.resolve_left (by rw [hs]; decide))
      refine ⟨fun e he => hlabelled.ne_email (by rw [hnone]; rfl) he, ?_⟩
      obtain ⟨reason, hentry⟩ := a.collected_entry g.reads .email
      rw [hentry, Reads.status, hs]
      exact EmailRead.status_eq_notEnabled_iff.mpr hnone

end Skips

section Whole

open Py.Whole

/-- A project that is served by Odoo only. -/
def odooOnlyProject : ProjectEntry :=
  { ProjectEntry.empty with projectName := "Depot", enabledSources := ["odoo"] }

/-- A manager's request for it, past node 1. -/
def odooOnlyState : Authorized ℤ (fun _ => some odooOnlyProject) where
  role := .projectManager
  code := "P1"
  entry := odooOnlyProject
  state :=
    { requestId := "r1", userId := "u1", query := "Status of the project"
      role := some "project_manager", projectCode := some "P1", allowedMailboxes := []
      allowedOdooIds := [], evidence := [], outputs := Outputs.empty, reportJson := none
      loopCount := 0 }
  known := rfl
  generates := rfl
  role_eq := rfl
  code_eq := rfl
  mailboxes_eq := rfl
  odooIds_eq := rfl
  noEvidence := rfl
  noCoverage := rfl
  noLoops := rfl

/-- A document of the project's drive. -/
def minutesDocument : Evidence ℤ :=
  { evidenceId := "sharepoint-1", sourceType := .sharepoint, sourceUri := "sharepoint://1"
    title := "Minutes", timestamp := none, excerpt := "Site meeting", hashSha256 := "h1"
    confidence := .high, tags := [], metadata := [] }

/-- Connectors that find one document in SharePoint and nothing elsewhere. -/
def documentConnectors : Connectors ℤ Unit where
  answer c s := match c with
    | .read (.sharepoint _) _ => (.ok [minutesDocument], s)
    | .read _ _ => (.ok [], s)
    | .remaining => ((50000 : ℤ), s)
    | .plan => (none, s)
  labelled c s := by
    cases c with
    | read r timeoutMs =>
      cases r with
      | sharepoint q =>
        rintro items ⟨⟩ e he
        rw [List.mem_singleton.mp he]
        rfl
      | _ =>
        rintro items ⟨⟩
        exact AllFrom.nil
    | remaining => trivial
    | plan => trivial

/-- SharePoint is searched for a project that enables Odoo only, and its document kept. -/
theorem not_skipsDisabled_odooOnly :
    ¬ ∀ (S : Type) (world : Connectors ℤ S) (settings : RetrievalSettings)
      (mapping : ProjectMapping) (a : Authorized ℤ mapping) (s₀ : S),
      SkipsDisabled a ((a.gather settings).run world.answer s₀).1 := by
  intro h
  have hentered : ((odooOnlyState.gather {}).run documentConnectors.answer ()).1.entered =
      [minutesDocument] := rfl
  obtain ⟨hnone, -⟩ := h Unit documentConnectors {} _ odooOnlyState () .sharepoint (by decide)
  exact hnone minutesDocument (by rw [hentered]; exact List.mem_singleton_self _) rfl

end Whole

end DecisionCenter
