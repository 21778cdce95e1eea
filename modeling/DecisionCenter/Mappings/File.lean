import DecisionCenter.Graph.State
import DecisionCenter.Mappings.Row

/-!
# The mapping file

`docs/config/project_source_mapping.json`, by which the retrieval nodes find a project's sources
(`apps/edr/rbac/project_mapping.py`) and from which the table is seeded. An optional field is a
key an entry may lack; the readers do not default it alike.

A file is a list of entries with their codes, in order, as the seeding goes by the first entry
of a code and the retrieval by the dictionary that is made of them. `FileEntry` has the fields
that either of the two readers uses, each as an option, and a field that is a list or an object
has its own type.

`toProjectEntry` is the reader of the retrieval nodes: the entry of `Graph.State` with the
defaults of the source. The columns of an entry are the other reader, which builds the JSON that
a seeded row stores, with the status that goes with it. Both are functions of the same entry, so
that whether they agree on it can be asked, and `Mappings.Admission` does.

Fields of the file that neither reader looks at are left out, and so is the reading of JSON: an
entry is what the file says, not its text.
-/

namespace DecisionCenter.Mappings

open Py

variable {F : Type}

structure FileSharePoint where
  siteId : Option String := none
  driveId : Option String := none
  rootPath : Option String := none
  projectName : Option String := none

structure FileGroup where
  id : Option String := none
  displayName : Option String := none
  mail : Option String := none
  mailEnabled : Option Bool := none

structure FileMicrosoft where
  group : FileGroup := {}
  groupMembers : List SourceMappingMicrosoftGroupMember := []
  groupMembershipStatus : Option String := none
  memberCount : Option ℤ := none
  missingPermissions : List String := []
  blockers : List String := []

structure FileOdoo where
  projectModel : Option String := none
  costModel : Option String := none
  projectExternalId : Option String := none
  projectName : Option String := none
  analyticAccountId : Option String := none
  extendedSources : Bool := false

/-- An entry of the file. -/
structure FileEntry where
  projectCode : String
  projectName : String := ""
  displayName : String := ""
  mappingMethod : String := ""
  mappingStatusGate : String := ""
  mappingStatus : String := ""
  contractNumbers : List String := []
  enabledSources : Option (List String) := none
  sharepointAliases : List String := []
  sharepoint : FileSharePoint := {}
  owncloudBasePath : Option String := none
  email : SourceMappingEmail := {}
  microsoft : FileMicrosoft := {}
  odoo : FileOdoo := {}
  relatedPeople : RelatedPeople := {}

/-- The list of entries. -/
abbrev MappingFile := List FileEntry

namespace FileEntry

/-- The entry as the nodes read it. -/
def toProjectEntry (e : FileEntry) : ProjectEntry where
  projectName := e.projectName
  displayName := e.displayName
  mappingMethod := e.mappingMethod
  mappingStatusGate := e.mappingStatusGate
  enabledSources := e.enabledSources.getD []
  sharepointAliases := e.sharepointAliases
  siteId := e.sharepoint.siteId
  driveId := e.sharepoint.driveId
  group := ⟨e.microsoft.group.id, e.microsoft.group.mail,
    e.microsoft.group.mailEnabled.getD false⟩
  sharedMailboxes := e.email.sharedMailboxes
  documentControlMailbox := e.email.documentControlMailbox
  odoo :=
    { projectModel := e.odoo.projectModel
      costModel := e.odoo.costModel
      projectExternalId := e.odoo.projectExternalId
      projectName := e.odoo.projectName
      analyticAccountId := e.odoo.analyticAccountId
      extendedSources := e.odoo.extendedSources }
  sharepointProjectName := e.sharepoint.projectName.getD ""
  owncloudBasePath := e.owncloudBasePath.getD ""

end FileEntry

/-- `ProjectMapping.load()`: of two entries with the same code, the later one counts. -/
def MappingFile.load (file : MappingFile) : ProjectMapping := fun code =>
  (file.reverse.find? fun e => e.projectCode = code).map FileEntry.toProjectEntry

/-! ### The columns of an entry -/

namespace FileEntry

/-- `project_name`, else `display_name`. -/
def registryName (e : FileEntry) : String :=
  if e.projectName ≠ "" then e.projectName else e.displayName

/-- The `sharepoint` column. -/
def sharepointColumn (e : FileEntry) : Dict F :=
  [("site_id", .str (e.sharepoint.siteId.getD "")),
    ("drive_id", .str (e.sharepoint.driveId.getD "")),
    ("root_path", .str (e.sharepoint.rootPath.getD ""))]

/-- The `email` column as the migration writes it. -/
def emailColumn (e : FileEntry) : Dict F := e.email.dump

/-- The group, with the keys it has. -/
def groupColumn (e : FileEntry) : Dict F :=
  let g := e.microsoft.group
  (g.id.map fun v => ("id", Value.str v)).toList
    ++ (g.displayName.map fun v => ("display_name", Value.str v)).toList
    ++ (g.mail.map fun v => ("mail", Value.str v)).toList
    ++ (g.mailEnabled.map fun v => ("mail_enabled", Value.bool v)).toList

/-- The `microsoft` column. -/
def microsoftColumn (e : FileEntry) : Dict F :=
  [("group", .dict e.groupColumn),
    ("group_members", .list (e.microsoft.groupMembers.map fun m => .dict m.dump)),
    ("group_membership_status", .str (e.microsoft.groupMembershipStatus.getD "")),
    ("member_count", .int (e.microsoft.memberCount.getD e.microsoft.groupMembers.length)),
    ("missing_permissions", strList e.microsoft.missingPermissions),
    ("blockers", strList e.microsoft.blockers)]

/-- The `odoo` column. -/
def odooColumn (e : FileEntry) : Dict F :=
  [("project_model", .str (e.odoo.projectModel.getD "")),
    ("cost_model", .str (e.odoo.costModel.getD "")),
    ("project_external_id", .str (e.odoo.projectExternalId.getD "")),
    ("project_name", .str (e.odoo.projectName.getD "")),
    ("analytic_account_id", .str (e.odoo.analyticAccountId.getD ""))]

/-- `entry.get("mapping_status") or "complete"` -/
def statusColumn (e : FileEntry) : String :=
  if e.mappingStatus ≠ "" then e.mappingStatus else "complete"

end FileEntry

end DecisionCenter.Mappings
