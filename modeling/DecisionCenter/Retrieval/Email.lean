import DecisionCenter.Retrieval.Sharepoint

/-!
# E-mail retrieval

Node 7 (`apps/edr/graph/node_07_email.py`): the conversations of the project's Microsoft 365
group, if e-mail is enabled and a mail-enabled group is mapped, else the caller's mailbox, if it
is on the project's allowlist. The role is checked for the mailbox that is to be read, the
permission of a group's being another one than that of the caller's own.

As in the other retrieval nodes, the read and the record are apart. `searchMessages` is the
task, which awaits one read at most and ends in an `EmailRead`: refused for the role, without an
allowlist, not on it, failed or found. `recordEmail` makes of it one entry of the ledger, with
the statuses and notes of the source, and adds the items to the pack.

Of the items that were read for a financial query, those that are no financial evidence are
screened out, and the note of an empty result says how many there were before. Whether the
source is enabled enters the entry in every case, but decides on the status in one alone, that
of a missing allowlist.

That the items are e-mail follows from the labels of the connectors (`searchMessages_labelled`).
-/

namespace DecisionCenter

open Async Py

variable {F : Type}

/-- The two mailboxes node 7 may read. -/
inductive Mailbox where
  | group
  | user
  deriving DecidableEq, Repr

/-- How the read of node 7 ends. -/
inductive EmailRead (F : Type) where
  | denied (mailbox : Mailbox)
  /-- There is no group and no allowlist. -/
  | noAllowlist
  | notInAllowlist
  | failed (mailbox : Mailbox) (f : ReadFailure)
  /-- The items kept, and how many there were. -/
  | found (mailbox : Mailbox) (items : List (Evidence F)) (rawCount : ℕ)

/-- The project's group, if node 7 reads it. -/
def ProjectEntry.mailGroup? (m : ProjectEntry) : Option String :=
  (m.group.id.filter (· ≠ "")).filter fun _ => m.enables .email && m.group.mailEnabled

section Awaits

variable [Text] [Floats F]

/-- `_financial_filter_if_needed` on the result of a read. -/
def screenMessages (mailbox : Mailbox) (query : String) (x : ReadResult F) : EmailRead F :=
  match x with
  | .error f => .failed mailbox f
  | .ok raw => .found mailbox (screenEvidence query raw) raw.length

/-- What node 7 awaits. -/
def searchMessages (m : ProjectEntry) (perms : RolePermissions) (state : DecisionState F)
    (code : String) : Retrieval F (EmailRead F) :=
  match m.mailGroup? with
  | some id =>
    -- Group correspondence is gated like SharePoint.
    if perms.canAccessSharepoint then
      (Retrieval.read (.group id m.group.mail code)).bind fun x =>
        .ret (screenMessages .group state.query x)
    else .ret (.denied .group)
  | none =>
    if !perms.canAccessOwnMailbox then .ret (.denied .user)
    else
      let allowed := state.allowedMailboxes.map lower
      if allowed = [] then .ret .noAllowlist
      else if lower state.userId ∉ allowed then .ret .notInAllowlist
      else
        let query := if isFinancialQuery state.query then financialSearchQuery state.query
          else state.query
        (Retrieval.read (.email ⟨query, code, state.userId, state.allowedMailboxes⟩)).bind fun x =>
          .ret (screenMessages .user state.query x)

end Awaits

section Record

variable [Text]

/-- Why a read found nothing. -/
def noMessages (m : ProjectEntry) (query : String) (rawCount : ℕ) : Mailbox → String
  | .group =>
    let mail := (m.group.mail.getD "None")
    if isFinancialQuery query ∧ rawCount ≠ 0 then "Group mailbox " ++ mail ++
      " had conversations, but none matched the financial evidence policy after filtering."
    else "Group mailbox " ++ mail ++ " has no conversations."
  | .user =>
    if isFinancialQuery query ∧ rawCount ≠ 0 then "Mailbox search returned messages, but none " ++
      "matched the financial evidence policy after filtering."
    else "Mailbox search returned no messages."

/-- The reason of a denial. -/
def deniedMailbox : Mailbox → String
  | .group => "Role not permitted to access project evidence."
  | .user => "Role not permitted to access mailbox evidence."

/-- The reason of a failure. -/
def failedMailbox (f : ReadFailure) : Mailbox → String
  | .group => "Group conversations read failed: " ++ f.toStr
  | .user => "Email connector error: " ++ f.toStr

/-- `run` of node 7, after its read. -/
def recordEmail (m : ProjectEntry) (read : EmailRead F) (state : DecisionState F) :
    DecisionState F :=
  let enabled := m.enables .email
  match read with
  | .denied mailbox => state.cover .email
      ⟨enabled, false, .rbacDenied, 0, deniedMailbox mailbox⟩
  | .noAllowlist => state.cover .email
      (if enabled then ⟨enabled, false, .blocked, 0, "Email enabled but project has no " ++
          "mail-enabled group and no user/shared mailbox allowlist; operator must map a group " ++
          "id or shared mailbox."⟩
        else ⟨enabled, false, .notEnabled, 0, "Email not enabled for this project."⟩)
  | .notInAllowlist => state.cover .email
      ⟨enabled, false, .rbacDenied, 0, "Caller mailbox not in project allowlist."⟩
  | .failed mailbox f => state.cover .email ⟨enabled, true, .error, 0, failedMailbox f mailbox⟩
  | .found mailbox items rawCount => (state.extend items).cover .email
      ⟨enabled, true, if items.isEmpty then .zeroNoMatch else .ok, items.length,
        if items.isEmpty then noMessages m state.query rawCount mailbox else ""⟩

end Record

/-! ### What the read delivers -/

/-- The items node 7 adds to the pack. -/
def EmailRead.items : EmailRead F → List (Evidence F)
  | .found _ items _ => items
  | _ => []

variable [Text] [Floats F]

private theorem screenMessages_labelled {mailbox : Mailbox} {query : String} {x : ReadResult F}
    (hx : ∀ items, x = .ok items → AllFrom .email items) :
    AllFrom .email (screenMessages mailbox query x).items := by
  cases x with
  | error f => exact nofun
  | ok raw => exact (hx raw rfl).subset (screenEvidence_subset query raw)

/-- Node 7 adds e-mail items only, from a group as from a mailbox. -/
theorem searchMessages_labelled (m : ProjectEntry) (perms : RolePermissions)
    (state : DecisionState F) (code : String) :
    (searchMessages m perms state code).Ensures Call.Labelled fun r =>
      AllFrom .email r.items := by
  have hread : ∀ (r : Read F), r.source = .email → ∀ mailbox,
      ((Retrieval.read r).bind fun x => .ret (screenMessages mailbox state.query x) :
        Retrieval F (EmailRead F)).Ensures Call.Labelled fun r => AllFrom .email r.items := by
    intro r hr mailbox
    refine (Retrieval.ensures_read r none).bind fun x hx => ?_
    rw [hr] at hx
    exact screenMessages_labelled hx
  rw [searchMessages]
  split
  · split
    · exact hread _ rfl .group
    · exact nofun
  · split
    · exact nofun
    · dsimp only
      split
      · exact nofun
      · split
        · exact nofun
        · exact hread _ rfl .user

end DecisionCenter
