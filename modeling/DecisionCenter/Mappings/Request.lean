import DecisionCenter.Data.Dedup
import DecisionCenter.Py.Runtime

/-!
# Source mappings as the admin sends them

The request models of the source-mapping endpoints (`apps/edr/app.py`) and
`_compute_mapping_status`, which decides whether a mapping is complete.

The models are structures with the defaults of the source, one for each column of a row and one
for the whole request. A field that may be missing is an option; related people are a record of
roles with a list of the others.

A mapping is complete if the checks raise no error. Each check is a function from a part of the
request to the list of its errors, with the texts and field paths of the source, and
`raisedErrors` has them in order: placeholders first, then the parts, each only where its source
is enabled. `computeMappingStatus` makes the status of the list, which is returned with it.

What is a placeholder is decided by words and patterns on texts, and so is the internal code or
path which must not stand in a field for people. The patterns with digits ask what `str.isdigit`
asks, and those of a regular expression what `\d` matches, through `Py.Digits`; the characters
of Unicode that count as digits are left to its instance.

This module proves nothing. What is read back of a row is in `Mappings.Row`, and who stores
which status in `Mappings.Enforcement`.
-/

namespace DecisionCenter.Mappings

open Py

/-! ### The request -/

structure SourceMappingSharePoint where
  siteId : String := ""
  driveId : String := ""
  rootPath : String := ""
  deriving DecidableEq, Repr

structure SourceMappingOwnCloud where
  basePath : String := ""
  deriving DecidableEq, Repr

structure SourceMappingEmail where
  sharedMailboxes : List String := []
  documentControlMailbox : String := ""
  clientDomains : List String := []
  consultantDomains : List String := []
  contractorDomains : List String := []
  deriving DecidableEq, Repr

structure SourceMappingMicrosoftGroup where
  id : String := ""
  displayName : String := ""
  mail : String := ""
  mailEnabled : Bool := false
  deriving DecidableEq, Repr

structure SourceMappingMicrosoftGroupMember where
  id : String := ""
  displayName : String := ""
  mail : String := ""
  userPrincipalName : String := ""
  jobTitle : String := ""
  department : String := ""
  email : String := ""
  deriving DecidableEq, Repr

structure SourceMappingMicrosoft where
  group : SourceMappingMicrosoftGroup := {}
  groupMembers : List SourceMappingMicrosoftGroupMember := []
  groupMembershipStatus : String := ""
  memberCount : ℤ := 0
  missingPermissions : List String := []
  blockers : List String := []
  deriving DecidableEq, Repr

structure SourceMappingOdoo where
  projectModel : String := ""
  costModel : String := ""
  projectExternalId : String := ""
  projectName : String := ""
  analyticAccountId : String := ""
  deriving DecidableEq, Repr

structure RelatedPeople where
  projectManager : String := ""
  commercialManager : String := ""
  financeOwner : String := ""
  documentController : String := ""
  other : List String := []
  deriving DecidableEq, Repr

structure SourceMappingUpsertRequest where
  projectName : String := ""
  contractNumbers : List String := []
  sharepoint : SourceMappingSharePoint := {}
  owncloud : SourceMappingOwnCloud := {}
  email : SourceMappingEmail := {}
  microsoft : SourceMappingMicrosoft := {}
  odoo : SourceMappingOdoo := {}
  relatedPeople : RelatedPeople := {}
  enabledSources : List String := []
  allowedRoles : List String := []
  deriving DecidableEq, Repr

structure ValidationFieldError where
  field : String
  message : String
  deriving DecidableEq, Repr

/-! ### Placeholders and real addresses -/

/-- A match of `^/projects/prj-\d+(?:/|$)` in a stripped string. -/
def isInternalPath [Digits] (s : String) : Bool :=
  let head := "/projects/prj-".toList
  let tail := s.toList.drop head.length
  let isDecimal (c : Char) : Bool := (Digits.decimal c).isSome
  let rest := tail.dropWhile isDecimal
  head.isPrefixOf s.toList && isDecimalRun (tail.takeWhile isDecimal) &&
    (rest.isEmpty || decide (rest.head? = some '/'))

/-- `re.fullmatch(r"PRJ-\d+", s, flags=re.IGNORECASE)` -/
def isInternalCode [Digits] (s : String) : Bool :=
  decide ((s.toList.take 4).map Char.toUpper = "PRJ-".toList) && isDecimalRun (s.toList.drop 4)

/-- `s.upper().startswith("BLOCKED")` -/
def isBlocked (s : String) : Bool :=
  decide ((s.toList.take 7).map Char.toUpper = "BLOCKED".toList)

section Checks

variable [Text]

/-- `is_placeholder` -/
def isPlaceholder (value : String) : Bool :=
  let low := lower (strip value)
  contains low "example-" || contains low "example.com" || isInternalPath low

/-- `real_email` -/
def realEmail (value : String) : Bool :=
  let stripped := strip value
  decide (stripped ≠ "") && contains stripped "@" && !isPlaceholder stripped

/-- `add_error(field, message)` under a condition. -/
def errorIf (p : Bool) (field message : String) : List ValidationFieldError :=
  if p then [⟨field, message⟩] else []

/-! ### The checks -/

/-- The fields no placeholder may stand in, in the order they are checked. -/
def placeholderFields (body : SourceMappingUpsertRequest) : List (String × List String) :=
  [("project_name", [body.projectName]),
    ("contract_numbers", body.contractNumbers),
    ("sharepoint.site_id", [body.sharepoint.siteId]),
    ("sharepoint.drive_id", [body.sharepoint.driveId]),
    ("sharepoint.root_path", [body.sharepoint.rootPath]),
    ("owncloud.base_path", [body.owncloud.basePath]),
    ("email.shared_mailboxes", body.email.sharedMailboxes),
    ("email.document_control_mailbox", [body.email.documentControlMailbox]),
    ("email.client_domains", body.email.clientDomains),
    ("email.consultant_domains", body.email.consultantDomains),
    ("email.contractor_domains", body.email.contractorDomains),
    ("microsoft.group.id", [body.microsoft.group.id]),
    ("microsoft.group.display_name", [body.microsoft.group.displayName]),
    ("microsoft.group.mail", [body.microsoft.group.mail]),
    ("microsoft.group_membership_status", [body.microsoft.groupMembershipStatus]),
    ("microsoft.missing_permissions", body.microsoft.missingPermissions),
    ("microsoft.blockers", body.microsoft.blockers)]
  ++ body.microsoft.groupMembers.flatMap (fun member =>
    [("microsoft.group_members.id", [member.id]),
      ("microsoft.group_members.display_name", [member.displayName]),
      ("microsoft.group_members.mail", [member.mail]),
      ("microsoft.group_members.user_principal_name", [member.userPrincipalName]),
      ("microsoft.group_members.job_title", [member.jobTitle]),
      ("microsoft.group_members.department", [member.department]),
      ("microsoft.group_members.email", [member.email])])
  ++ [("odoo.project_external_id", [body.odoo.projectExternalId]),
    ("odoo.project_name", [body.odoo.projectName]),
    ("odoo.project_model", [body.odoo.projectModel]),
    ("odoo.cost_model", [body.odoo.costModel]),
    ("odoo.analytic_account_id", [body.odoo.analyticAccountId]),
    ("related_people.project_manager", [body.relatedPeople.projectManager]),
    ("related_people.commercial_manager", [body.relatedPeople.commercialManager]),
    ("related_people.finance_owner", [body.relatedPeople.financeOwner]),
    ("related_people.document_controller", [body.relatedPeople.documentController]),
    ("related_people.other", body.relatedPeople.other)]

/-- `validate_no_placeholder` on every field. -/
def placeholderErrors (body : SourceMappingUpsertRequest) : List ValidationFieldError :=
  (placeholderFields body).flatMap fun fv => fv.2.flatMap fun value =>
    errorIf (isPlaceholder value) fv.1 "Placeholder value is not allowed in a complete mapping"

/-- The checks of the state of the group enrichment. -/
def groupErrors (ms : SourceMappingMicrosoft) : List ValidationFieldError :=
  errorIf (isBlocked (strip ms.groupMembershipStatus)) "microsoft.group_membership_status"
      ("Email group enrichment is blocked by Microsoft Graph permission or source " ++
        "availability")
    ++ errorIf (!ms.missingPermissions.isEmpty) "microsoft.missing_permissions"
      "Required Microsoft Graph group/member permission is missing"
    ++ errorIf (!ms.blockers.isEmpty) "microsoft.blockers"
      "Source mapping has unresolved Microsoft group/email blockers"

/-- The checks of an enabled SharePoint. -/
def sharepointErrors (sp : SourceMappingSharePoint) : List ValidationFieldError :=
  errorIf (decide (sp.siteId = "")) "sharepoint.site_id" "Required for SharePoint source"
    ++ errorIf (decide (sp.driveId = "")) "sharepoint.drive_id" "Required for SharePoint source"
    ++ errorIf (decide (sp.rootPath = "")) "sharepoint.root_path" "Required for SharePoint source"
    ++ errorIf (isPlaceholder sp.siteId) "sharepoint.site_id"
      "Real SharePoint site_id is required"
    ++ errorIf (isPlaceholder sp.driveId) "sharepoint.drive_id"
      "Real SharePoint drive_id is required"
    ++ errorIf (isPlaceholder sp.rootPath) "sharepoint.root_path"
      "Root path must not use an internal PRJ placeholder"

/-- The checks of an enabled ownCloud. -/
def owncloudErrors (configured : Bool) (oc : SourceMappingOwnCloud) :
    List ValidationFieldError :=
  errorIf (!configured) "enabled_sources" "ownCloud cannot be enabled until ownCloud is configured"
    ++ errorIf (decide (oc.basePath = "")) "owncloud.base_path" "Required for ownCloud source"

/-- The checks of enabled e-mail. -/
def emailErrors (em : SourceMappingEmail) (ms : SourceMappingMicrosoft) :
    List ValidationFieldError :=
  let mailboxes := em.sharedMailboxes ++ [em.documentControlMailbox]
  let groupMailboxValid := ms.group.mailEnabled && realEmail ms.group.mail
  let memberEmails :=
    (ms.groupMembers.filter fun member => realEmail member.email).map fun member =>
    lower (strip member.email)
  mailboxes.flatMap (fun mailbox =>
      errorIf (realEmail mailbox && decide (lower (strip mailbox) ∈ memberEmails))
        "email.shared_mailboxes"
        "Group members must be stored under microsoft.group_members, not Shared Mailboxes")
    ++ errorIf (decide (strip ms.group.mail ≠ "") && !ms.group.mailEnabled)
      "microsoft.group.mail_enabled"
      "Microsoft group mailbox must be mailEnabled before Email source can use it"
    ++ errorIf (!mailboxes.any realEmail && !groupMailboxValid) "email.shared_mailboxes"
      "At least one real mailbox or Microsoft 365 group mailbox required for Email source"

/-- The check of the external id of an enabled Odoo. -/
def externalIdErrors (externalId : String) : List ValidationFieldError :=
  if externalId = "" then [⟨"odoo.project_external_id", "Real Odoo project ID is required"⟩]
  else if isInternalCode externalId then
    [⟨"odoo.project_external_id", "Internal PRJ codes cannot be used as Odoo external IDs"⟩]
  else errorIf (!isDigits externalId) "odoo.project_external_id"
    "Odoo project external ID must be the numeric project.project id"

/-- The checks of an enabled Odoo. -/
def odooErrors (projectName : String) (od : SourceMappingOdoo) : List ValidationFieldError :=
  externalIdErrors (strip od.projectExternalId)
    ++ errorIf (decide (strip od.projectName = "")) "odoo.project_name"
      "Odoo project name is required"
    ++ errorIf (decide (strip projectName ≠ "" ∧ strip od.projectName ≠ "" ∧
        strip projectName ≠ strip od.projectName)) "project_name"
      "Project Name must match Odoo project.project.name"
    ++ errorIf (decide (od.projectModel ≠ "" ∧ od.projectModel ≠ "project.project"))
      "odoo.project_model" "Odoo project model must be project.project"
    ++ errorIf (decide (od.costModel ≠ "" ∧ od.costModel ≠ "account.analytic.line"))
      "odoo.cost_model" "Cost model must remain account.analytic.line"
    ++ errorIf (decide (od.projectModel = "")) "odoo.project_model"
      "Odoo project model is required"
    ++ errorIf (decide (od.costModel = "")) "odoo.cost_model" "Odoo cost model is required"

/-- Every call of `add_error`, in order. -/
def raisedErrors (owncloudConfigured : Bool) (body : SourceMappingUpsertRequest) :
    List ValidationFieldError :=
  errorIf body.enabledSources.isEmpty "enabled_sources"
      "At least one verified source must be enabled"
    ++ placeholderErrors body
    ++ groupErrors body.microsoft
    ++ (if "sharepoint" ∈ body.enabledSources then sharepointErrors body.sharepoint else [])
    ++ (if "owncloud" ∈ body.enabledSources then
        owncloudErrors owncloudConfigured body.owncloud else [])
    ++ (if "email" ∈ body.enabledSources then emailErrors body.email body.microsoft else [])
    ++ (if "odoo" ∈ body.enabledSources then odooErrors body.projectName body.odoo else [])

/-- `_compute_mapping_status`: the status and the errors, each once. -/
def computeMappingStatus (owncloudConfigured : Bool) (body : SourceMappingUpsertRequest) :
    String × List ValidationFieldError :=
  let errors := Dedup.keepFirst some (raisedErrors owncloudConfigured body)
  (if errors = [] then "complete" else "incomplete", errors)

end Checks

end DecisionCenter.Mappings
