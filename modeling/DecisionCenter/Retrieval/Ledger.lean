import DecisionCenter.Retrieval.Workflow

/-!
# What the phase records and delivers

One lemma for each node that writes the coverage ledger: the node adds the items of its read and
records one entry, whose flags are functions of how the read ended. From these the ledger and
the pack that reach node 12 are read off, and the labels of the items in it.

The result of a read is an inductive type for each node, and so `status`, `attempted` and
`items` are functions on it, one of each for every node. Behind `recordSharepoint_eq` and its
siblings it no longer matters what else the nodes write, such as the notes.

Then the phase is put together. Nodes 5, 7 and 8 write one entry each, of different sources, so
that the entry of a source is that of its node (`collected_entry`); nodes 9 to 11 leave the
ledger alone, and the entry that node 13 reads is the same one (`ready_entry`). The pack is
followed in the same way, through the normalisation and the correction of node 11.

At the end stand the labels: whatever the connectors answer, the items that were read for a
source have its label, the ones of node 11 included (`Authorized.gather_labelled`). It is here
that the contract of the connectors is used.
-/

namespace DecisionCenter

open Async Py

variable {F : Type}

/-! ### How a read is recorded -/

/-- The status of a read that went through. -/
def foundStatus (items : List (Evidence F)) : CoverageStatus :=
  if items.isEmpty then .zeroNoMatch else .ok

namespace SharepointRead

/-- The status node 5 records. -/
def status : SharepointRead F → CoverageStatus
  | denied => .rbacDenied
  | failed _ => .error
  | found r => foundStatus r.evidence

/-- The source was read. -/
def attempted : SharepointRead F → Bool
  | denied => false
  | _ => true

end SharepointRead

namespace EmailRead

/-- The status node 7 records, for e-mail enabled or not. -/
def status (enabled : Bool) : EmailRead F → CoverageStatus
  | denied _ => .rbacDenied
  | noAllowlist => if enabled then .blocked else .notEnabled
  | notInAllowlist => .rbacDenied
  | failed _ _ => .error
  | found _ items _ => foundStatus items

/-- A mailbox was read. -/
def attempted : EmailRead F → Bool
  | failed _ _ => true
  | found _ _ _ => true
  | _ => false

end EmailRead

namespace OdooRead

/-- The status node 8 records. -/
def status : OdooRead F → CoverageStatus
  | denied => .rbacDenied
  | failed .timeout => .timeout
  | failed (.error _) => .error
  | interrupted _ _ => .error
  | found project cost extended => foundStatus (found project cost extended).items

/-- The source was read. -/
def attempted : OdooRead F → Bool
  | denied => false
  | _ => true

end OdooRead

namespace Reads

/-- The items a project source delivered. -/
def itemsOf (reads : Reads F) : ProjectSource → List (Evidence F)
  | .odoo => reads.odoo.items
  | .sharepoint => reads.sharepoint.items
  | .email => reads.email.items

/-- The status recorded for a project source. -/
def status (m : ProjectEntry) (reads : Reads F) : ProjectSource → CoverageStatus
  | .odoo => reads.odoo.status
  | .sharepoint => reads.sharepoint.status
  | .email => reads.email.status (m.enables .email)

/-- Whether a project source was read. -/
def attempted (reads : Reads F) : ProjectSource → Bool
  | .odoo => reads.odoo.attempted
  | .sharepoint => reads.sharepoint.attempted
  | .email => reads.email.attempted

/-- All items nodes 5 to 8 add, in order. -/
def items (reads : Reads F) : List (Evidence F) :=
  reads.sharepoint.items ++ reads.owncloud ++ reads.email.items ++ reads.odoo.items

end Reads

/-! ### One node -/

private theorem cover_extend_nil (state : DecisionState F) (source : ProjectSource)
    (entry : CoverageEntry) :
    state.cover source entry = (state.extend []).cover source entry := by
  rw [DecisionState.extend, List.append_nil]

/-- Node 5 adds its items and records their number. -/
theorem recordSharepoint_eq [Text] [Floats F] (m : ProjectEntry) (r : SharepointRead F)
    (state : DecisionState F) :
    ∃ reason, recordSharepoint m r state = (state.extend r.items).cover .sharepoint
      ⟨m.enables .sharepoint, r.attempted, r.status, r.items.length, reason⟩ := by
  cases r with
  | denied => exact ⟨_, cover_extend_nil _ _ _⟩
  | failed f => exact ⟨_, cover_extend_nil _ _ _⟩
  | found r => exact ⟨_, rfl⟩

/-- Node 7 adds its items and records their number. -/
theorem recordEmail_eq [Text] (m : ProjectEntry) (r : EmailRead F) (state : DecisionState F) :
    ∃ reason, recordEmail m r state = (state.extend r.items).cover .email
      ⟨m.enables .email, r.attempted, r.status (m.enables .email), r.items.length, reason⟩ := by
  cases r with
  | denied mailbox => exact ⟨_, cover_extend_nil _ _ _⟩
  | noAllowlist =>
    rw [recordEmail, EmailRead.status]
    cases m.enables .email
    · exact ⟨_, cover_extend_nil _ _ _⟩
    · exact ⟨_, cover_extend_nil _ _ _⟩
  | notInAllowlist => exact ⟨_, cover_extend_nil _ _ _⟩
  | failed mailbox f => exact ⟨_, cover_extend_nil _ _ _⟩
  | found mailbox items rawCount => exact ⟨_, rfl⟩

/-- Node 8 adds its items and records their number. -/
theorem recordOdoo_eq (m : ProjectEntry) (r : OdooRead F) (state : DecisionState F) :
    ∃ available reason, recordOdoo m r state =
      (setFinancialAvailable available (state.extend r.items)).cover .odoo
        ⟨m.enables .odoo, r.attempted, r.status, r.items.length, reason⟩ := by
  match r with
  | .denied => exact ⟨_, _, cover_extend_nil _ _ _⟩
  | .failed .timeout => exact ⟨_, _, cover_extend_nil _ _ _⟩
  | .failed (.error text) => exact ⟨_, _, cover_extend_nil _ _ _⟩
  | .interrupted project text => exact ⟨state.outputs.odooFinancialAvailable, _, rfl⟩
  | .found project cost extended => exact ⟨_, _, rfl⟩

/-! ### The phase -/

section Phase

variable [Text] [Floats F] {mapping : ProjectMapping} (a : Authorized F mapping)

namespace Authorized

/-- The ledger of nodes 5, 7 and 8. -/
theorem collected_coverage (reads : Reads F) (s : ProjectSource) :
    ∃ reason, (a.collected reads).outputs.sourceCoverage s = some
      ⟨a.entry.enables s, reads.attempted s, reads.status a.entry s, (reads.itemsOf s).length,
        reason⟩ := by
  obtain ⟨available, odooReason, hodoo⟩ := recordOdoo_eq a.entry reads.odoo
    (recordEmail a.entry reads.email ((a.afterSharepoint reads.sharepoint).extend reads.owncloud))
  obtain ⟨emailReason, hemail⟩ := recordEmail_eq a.entry reads.email
    ((a.afterSharepoint reads.sharepoint).extend reads.owncloud)
  obtain ⟨sharepointReason, hsharepoint⟩ := recordSharepoint_eq a.entry reads.sharepoint a.state
  rw [collected, hodoo, hemail, afterSharepoint, hsharepoint]
  cases s with
  | odoo => exact ⟨odooReason, rfl⟩
  | sharepoint => exact ⟨sharepointReason, rfl⟩
  | email => exact ⟨emailReason, rfl⟩

/-- The entry of a source once nodes 5 to 8 are done. -/
theorem collected_entry (reads : Reads F) (s : ProjectSource) :
    ∃ reason, (a.collected reads).outputs.sourceCoverage.entry s =
      ⟨a.entry.enables s, reads.attempted s, reads.status a.entry s, (reads.itemsOf s).length,
        reason⟩ := by
  obtain ⟨reason, hentry⟩ := a.collected_coverage reads s
  exact ⟨reason, by rw [Ledger.entry, hentry, Option.getD_some]⟩

/-- The pack of nodes 5 to 8. -/
theorem collected_evidence (reads : Reads F) : (a.collected reads).evidence = reads.items := by
  obtain ⟨available, odooReason, hodoo⟩ := recordOdoo_eq a.entry reads.odoo
    (recordEmail a.entry reads.email ((a.afterSharepoint reads.sharepoint).extend reads.owncloud))
  obtain ⟨emailReason, hemail⟩ := recordEmail_eq a.entry reads.email
    ((a.afterSharepoint reads.sharepoint).extend reads.owncloud)
  obtain ⟨sharepointReason, hsharepoint⟩ := recordSharepoint_eq a.entry reads.sharepoint a.state
  rw [collected, hodoo, hemail, afterSharepoint, hsharepoint]
  change ((((a.state.evidence ++ _) ++ _) ++ _) ++ _) = _
  rw [a.noEvidence, List.nil_append]
  rfl

end Authorized

omit [Text] [Floats F] in
/-- Self-correction adds its items and writes no coverage. -/
theorem recordCorrection_eq {c : Correction F} {state state' : DecisionState F}
    (h : recordCorrection c state = some state') :
    state'.evidence = state.evidence ++ c.items ∧
      state'.outputs.sourceCoverage = state.outputs.sourceCoverage := by
  cases c with
  | maxLoops =>
    cases h
    exact ⟨(List.append_nil _).symm, rfl⟩
  | notNeeded =>
    cases h
    exact ⟨(List.append_nil _).symm, rfl⟩
  | raised => cases h
  | stopped =>
    cases h
    exact ⟨(List.append_nil _).symm, rfl⟩
  | retried documents records =>
    cases h
    exact ⟨rfl, rfl⟩

namespace Authorized

/-- Nodes 9 to 11 leave the ledger as it is. -/
theorem ready_coverage {g : Gathered F} {state : DecisionState F} (h : a.ready? g = some state) :
    state.outputs.sourceCoverage = (a.collected g.reads).outputs.sourceCoverage :=
  (recordCorrection_eq h).2

/-- The pack node 12 drafts from. -/
theorem ready_evidence {g : Gathered F} {state : DecisionState F} (h : a.ready? g = some state) :
    state.evidence = normalizeEvidence g.reads.items ++ g.correction.items := by
  rw [(recordCorrection_eq h).1, ← a.collected_evidence]
  rfl

/-- The entry of a source in the ledger node 13 reads. -/
theorem ready_entry {g : Gathered F} {state : DecisionState F} (h : a.ready? g = some state)
    (s : ProjectSource) :
    ∃ reason, state.outputs.sourceCoverage.entry s =
      ⟨a.entry.enables s, g.reads.attempted s, g.reads.status a.entry s,
        (g.reads.itemsOf s).length, reason⟩ := by
  rw [a.ready_coverage h]
  exact a.collected_entry g.reads s

end Authorized

end Phase

/-! ### The labels of the items -/

/-- What a correction delivers is from the sources it read. -/
def Correction.Labelled : Correction F → Prop
  | .retried documents records => AllFrom .sharepoint documents ∧ AllFrom .odoo records
  | _ => True

/-- The items of each source are labelled with it. -/
structure Gathered.Labelled (g : Gathered F) : Prop where
  project : ∀ s, AllFrom s.sourceType (g.reads.itemsOf s)
  owncloud : AllFrom .owncloud g.reads.owncloud
  correction : g.correction.Labelled

private theorem allFrom_getD {source : SourceType} {x : ReadResult F}
    (hx : ∀ items, x = .ok items → AllFrom source items) :
    AllFrom source (x.toOption.getD []) := by
  cases x with
  | error f => exact AllFrom.nil
  | ok items => exact hx items rfl

private theorem listOwncloud_labelled (m : ProjectEntry) (perms : RolePermissions) (code : String) :
    (listOwncloud m perms code : Retrieval F (List (Evidence F))).Ensures Call.Labelled
      fun items => AllFrom .owncloud items := by
  rw [listOwncloud]
  split
  · exact (Retrieval.ensures_read _ _).bind fun x hx => allFrom_getD hx
  · exact AllFrom.nil

private theorem reread_labelled (planned : Bool) (r : Read F) :
    (reread planned r).Ensures Call.Labelled fun items => AllFrom r.source items := by
  rw [reread]
  split
  · exact (Retrieval.ensures_read _ _).bind fun x hx => allFrom_getD hx
  · exact AllFrom.nil

private theorem rereadRecord_labelled (planned : Bool) (query : Except Raised OdooQuery) :
    (rereadRecord planned query : Retrieval F (List (Evidence F))).Ensures Call.Labelled
      fun items => AllFrom .odoo items := by
  cases query with
  | error exc => exact AllFrom.nil
  | ok q => exact reread_labelled planned (.odoo q)

section Labels

variable [Text] [Floats F]

/-- What node 11 reads has the labels of its two sources. -/
private theorem selfCorrect_labelled (m : ProjectEntry) (state : DecisionState F) (code : String) :
    (selfCorrect m state code).Ensures Call.Labelled Correction.Labelled := by
  rw [selfCorrect]
  split
  · trivial
  · split
    · trivial
    · intro reply _
      cases reply with
      | none => trivial
      | some parsed =>
        dsimp only
        split
        · trivial
        · rw [tryRetrieval]
          split
          · exact ⟨AllFrom.nil, AllFrom.nil⟩
          · refine (reread_labelled _ _).bind fun documents hdocuments => ?_
            exact (rereadRecord_labelled _ _).bind fun records hrecords => ⟨hdocuments, hrecords⟩

variable {mapping : ProjectMapping} (a : Authorized F mapping)

/-- Whatever the connectors answer, the items keep their sources apart. -/
theorem Authorized.gather_labelled (settings : RetrievalSettings) :
    (a.gather settings).Ensures Call.Labelled Gathered.Labelled := by
  have hcollect : (a.collect settings).Ensures Call.Labelled fun reads =>
      (∀ s, AllFrom s.sourceType (reads.itemsOf s)) ∧ AllFrom .owncloud reads.owncloud := by
    refine (searchSharepoint_labelled _ _ _ _).bind fun sharepoint hsharepoint => ?_
    refine (listOwncloud_labelled _ _ _).bind fun owncloud howncloud => ?_
    refine (searchMessages_labelled _ _ _ _).bind fun email hemail => ?_
    refine (readOdooFacts_labelled _ _ _ _ _).bind fun odoo hodoo => ⟨fun s => ?_, howncloud⟩
    cases s with
    | odoo => exact hodoo
    | sharepoint => exact hsharepoint
    | email => exact hemail
  refine hcollect.bind fun reads hreads => ?_
  exact (selfCorrect_labelled _ _ _).bind fun correction hcorrection =>
    ⟨hreads.1, hreads.2, hcorrection⟩

end Labels

end DecisionCenter
