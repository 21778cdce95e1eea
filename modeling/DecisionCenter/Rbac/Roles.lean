import Mathlib.Data.List.Basic

/-!
# Roles

The canonical role model of `apps/edr/rbac/roles.py`: nine roles and the permissions the
retrieval nodes and the review endpoints consult. The roles are an inductive type, each with the
value that it has in a token, and `ofValue?` reads a value back or fails as the enumeration of
the source does.

`RolePermissions` has those flags that a modelled function reads. Project roles have one and the
same set, and the others are written as that set with the flags they change, so that what is
special about a role can be seen. The table of the source lists all flags of all roles; it is
the same table.

Roles are used in two ways. A retrieval node asks for the flag of its source and skips the
source where it is not set, and an endpoint asks whether the caller may approve, may see all
reports or may generate one. Document control is the one role that may not read Odoo
(`canAccessOdooBudget_iff`), so that it stands for every caller without this permission in the
modules on confidentiality.
-/

namespace DecisionCenter

/-- `Role` -/
inductive Role where
  | executive
  | projectManager
  | finance
  | commercial
  | documentControl
  | procurement
  | legal
  | auditor
  | admin
  deriving DecidableEq, Repr

/-- `RolePermissions`, the flags a modelled function reads. -/
structure RolePermissions where
  canAccessSharepoint : Bool
  canAccessOwncloud : Bool
  canAccessOwnMailbox : Bool
  canAccessSharedMailboxes : Bool
  canAccessOdooBudget : Bool
  canAccessOdooActualCost : Bool
  canApprove : Bool
  canGenerateReport : Bool := true
  canViewAllReports : Bool := false
  deriving DecidableEq, Repr

namespace Role

/-- All roles, in the order of the source. -/
def all : List Role :=
  [.executive, .projectManager, .finance, .commercial, .documentControl, .procurement, .legal,
    .auditor, .admin]

/-- `role.value` -/
def value : Role → String
  | .executive => "executive"
  | .projectManager => "project_manager"
  | .finance => "finance"
  | .commercial => "commercial"
  | .documentControl => "document_control"
  | .procurement => "procurement"
  | .legal => "legal"
  | .auditor => "auditor"
  | .admin => "admin"

/-- `Role(s)`; `none` is the `ValueError`. -/
def ofValue? (s : String) : Option Role := all.find? fun r => decide (r.value = s)

/-- The permissions of a project role: everything but the view of all reports. -/
def projectPermissions : RolePermissions :=
  { canAccessSharepoint := true, canAccessOwncloud := true, canAccessOwnMailbox := true
    canAccessSharedMailboxes := true, canAccessOdooBudget := true
    canAccessOdooActualCost := true, canApprove := true }

/-- `ROLE_PERMISSIONS` -/
def permissions : Role → RolePermissions
  | .executive =>
    { projectPermissions with canAccessOwnMailbox := false, canViewAllReports := true }
  | .projectManager => projectPermissions
  | .finance => projectPermissions
  | .commercial => projectPermissions
  | .documentControl =>
    { projectPermissions with canAccessOdooBudget := false, canAccessOdooActualCost := false }
  | .procurement => projectPermissions
  | .legal => projectPermissions
  | .auditor =>
    { projectPermissions with
      canAccessOwnMailbox := false, canAccessSharedMailboxes := false, canApprove := false
      canGenerateReport := false }
  | .admin => { projectPermissions with canAccessOwnMailbox := false, canViewAllReports := true }

/-- A role is recovered from its value. -/
@[simp] theorem ofValue?_value (r : Role) : ofValue? r.value = some r := by
  cases r <;> decide

/-- A value that is read as a role is the value of this role. -/
theorem value_of_ofValue? {s : String} {r : Role} (h : ofValue? s = some r) : r.value = s := by
  simpa using List.find?_some h

end Role

end DecisionCenter
