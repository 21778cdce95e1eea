import DecisionCenter.Mappings.Request

/-!
# The rows of `source_mappings`

The JSON columns of a row are kept as they are stored, since their writers do not store the same
keys: the request handlers store `model_dump()`, the synchronisation and the seeding store
objects of their own. `_row_to_source_mapping_detail` (`apps/edr/app.py`) reads them back. Time
stamps, actor hashes and the last validation result are left out.

For each model of a request there is its dump, an object with all its fields in the order of the
model, and a reader, which takes what it finds and uses a default for what is missing or of
another kind. The readers are those of the source: a text field is read by one function, a list
of texts by another, and `int` is Python's, which truncates a float and fails on a text that is
none.

`rowToSourceMappingDetail` may raise, where a column holds something that a model does not
admit. The detail has the body that was read and the status that is shown, which is computed
anew unless the row is disabled.

`ReadsBody` says what is read from each column, and `body_row` that a stored body reads back as
it was sent: each reader is the inverse of its dump. A row whose columns were stored by others
is read as well, with the keys it has.
-/

namespace DecisionCenter.Mappings

open Py

variable {F : Type}

/-- A row of the table. -/
structure MappingRow (F : Type) where
  projectCode : String
  projectName : String
  contractNumbers : List String
  sharepoint : Dict F
  owncloud : Dict F
  email : Dict F
  microsoft : Dict F
  odoo : Dict F
  relatedPeople : Dict F
  enabledSources : List String
  allowedRoles : List String
  mappingStatus : String

/-! ### `model_dump()` -/

/-- A list of strings as JSON. -/
def strList (xs : List String) : Value F := .list (xs.map .str)

def SourceMappingSharePoint.dump (sp : SourceMappingSharePoint) : Dict F :=
  [("site_id", .str sp.siteId), ("drive_id", .str sp.driveId), ("root_path", .str sp.rootPath)]

def SourceMappingOwnCloud.dump (oc : SourceMappingOwnCloud) : Dict F :=
  [("base_path", .str oc.basePath)]

def SourceMappingEmail.dump (em : SourceMappingEmail) : Dict F :=
  [("shared_mailboxes", strList em.sharedMailboxes),
    ("document_control_mailbox", .str em.documentControlMailbox),
    ("client_domains", strList em.clientDomains),
    ("consultant_domains", strList em.consultantDomains),
    ("contractor_domains", strList em.contractorDomains)]

def SourceMappingMicrosoftGroup.dump (g : SourceMappingMicrosoftGroup) : Dict F :=
  [("id", .str g.id), ("display_name", .str g.displayName), ("mail", .str g.mail),
    ("mail_enabled", .bool g.mailEnabled)]

def SourceMappingMicrosoftGroupMember.dump (m : SourceMappingMicrosoftGroupMember) : Dict F :=
  [("id", .str m.id), ("display_name", .str m.displayName), ("mail", .str m.mail),
    ("user_principal_name", .str m.userPrincipalName), ("job_title", .str m.jobTitle),
    ("department", .str m.department), ("email", .str m.email)]

def SourceMappingMicrosoft.dump (ms : SourceMappingMicrosoft) : Dict F :=
  [("group", .dict ms.group.dump), ("group_members", .list (ms.groupMembers.map fun m =>
      .dict m.dump)),
    ("group_membership_status", .str ms.groupMembershipStatus),
    ("member_count", .int ms.memberCount),
    ("missing_permissions", strList ms.missingPermissions), ("blockers", strList ms.blockers)]

def SourceMappingOdoo.dump (od : SourceMappingOdoo) : Dict F :=
  [("project_model", .str od.projectModel), ("cost_model", .str od.costModel),
    ("project_external_id", .str od.projectExternalId), ("project_name", .str od.projectName),
    ("analytic_account_id", .str od.analyticAccountId)]

def RelatedPeople.dump (rp : RelatedPeople) : Dict F :=
  [("project_manager", .str rp.projectManager), ("commercial_manager", .str rp.commercialManager),
    ("finance_owner", .str rp.financeOwner), ("document_controller", .str rp.documentController),
    ("other", strList rp.other)]

/-- The row a request body is stored as. -/
def SourceMappingUpsertRequest.row (code status : String) (body : SourceMappingUpsertRequest) :
    MappingRow F where
  projectCode := code
  projectName := body.projectName
  contractNumbers := body.contractNumbers
  sharepoint := body.sharepoint.dump
  owncloud := body.owncloud.dump
  email := body.email.dump
  microsoft := body.microsoft.dump
  odoo := body.odoo.dump
  relatedPeople := body.relatedPeople.dump
  enabledSources := body.enabledSources
  allowedRoles := body.allowedRoles
  mappingStatus := status

/-! ### `_row_to_source_mapping_detail` -/

/-- `SourceMappingDetail` -/
structure SourceMappingDetail extends SourceMappingUpsertRequest where
  projectCode : String
  mappingStatus : String
  deriving DecidableEq, Repr

/-- `d.get(k, "")`, validated as a string. -/
def strField (d : Dict F) (k : String) : Except Error String :=
  match d.getD k (.str "") with
  | .str s => pure s
  | _ => throw .validationError

/-- `d.get(k, [])`, validated as a list of strings. -/
def strListField (d : Dict F) (k : String) : Except Error (List String) :=
  match d.getD k (.list []) with
  | .list xs => xs.mapM fun
    | .str s => pure s
    | _ => throw .validationError
  | _ => throw .validationError

variable [Floats F]

/-- `int(v)` -/
def intField [Text] : Value F → Except Error ℤ
  | .int i => pure i
  | .bool b => pure b.toNat
  | .str s => match parseInt s with
    | some i => pure i
    | none => throw .valueError
  | .float x => Floats.trunc x
  | _ => throw .typeError

/-- `str(d.get(k, ""))` -/
def shownField (d : Dict F) (k : String) : String := (d.getD k (.str "")).toStr

/-- `(d.get(k) or {})` -/
def dictField (d : Dict F) (k : String) : Except Error (Dict F) :=
  match (d.get k).orElse (.dict []) with
  | .dict items => pure items
  | _ => throw .attributeError

/-- The member as the detail shows it. -/
def memberOf (member : Dict F) : SourceMappingMicrosoftGroupMember where
  id := shownField member "id"
  displayName := shownField member "display_name"
  mail := shownField member "mail"
  userPrincipalName := shownField member "user_principal_name"
  jobTitle := shownField member "job_title"
  department := shownField member "department"
  email := shownField member "email"

omit [Floats F] in
/-- The `sharepoint` column. -/
def sharepointOf (sp : Dict F) : Except Error SourceMappingSharePoint := do
  pure
    { siteId := ← strField sp "site_id"
      driveId := ← strField sp "drive_id"
      rootPath := ← strField sp "root_path" }

omit [Floats F] in
/-- The `email` column. -/
def emailOf (em : Dict F) : Except Error SourceMappingEmail := do
  pure
    { sharedMailboxes := ← strListField em "shared_mailboxes"
      documentControlMailbox := ← strField em "document_control_mailbox"
      clientDomains := ← strListField em "client_domains"
      consultantDomains := ← strListField em "consultant_domains"
      contractorDomains := ← strListField em "contractor_domains" }

/-- The group in the `microsoft` column. -/
def groupOf (ms : Dict F) : Except Error SourceMappingMicrosoftGroup := do
  let g ← dictField ms "group"
  pure
    { id := ← strField g "id"
      displayName := ← strField g "display_name"
      mail := ← strField g "mail"
      mailEnabled := (g.getD "mail_enabled" (.bool false)).truthy }

/-- The `microsoft` column. -/
def microsoftOf [Text] (ms : Dict F) : Except Error SourceMappingMicrosoft := do
  let members ← (ms.getD "group_members" (.list [])).iter
  pure
    { group := ← groupOf ms
      groupMembers := (members.filterMap Value.asDict?).map memberOf
      groupMembershipStatus := shownField ms "group_membership_status"
      memberCount := ← intField (ms.getD "member_count" (.int members.length))
      missingPermissions := ← strListField ms "missing_permissions"
      blockers := ← strListField ms "blockers" }

/-- The `odoo` column. -/
def odooOf (od : Dict F) : Except Error SourceMappingOdoo := do
  pure
    { projectModel := ← strField od "project_model"
      costModel := ← strField od "cost_model"
      projectExternalId := ← strField od "project_external_id"
      projectName := ← strField od "project_name"
      analyticAccountId := shownField od "analytic_account_id" }

omit [Floats F] in
/-- The `related_people` column. -/
def relatedPeopleOf (rp : Dict F) : Except Error RelatedPeople := do
  pure
    { projectManager := ← strField rp "project_manager"
      commercialManager := ← strField rp "commercial_manager"
      financeOwner := ← strField rp "finance_owner"
      documentController := ← strField rp "document_controller"
      other := ← strListField rp "other" }

/-- The request fields a row holds. -/
def MappingRow.body [Text] (row : MappingRow F) : Except Error SourceMappingUpsertRequest := do
  pure
    { projectName := row.projectName
      contractNumbers := row.contractNumbers
      sharepoint := ← sharepointOf row.sharepoint
      owncloud := ⟨← strField row.owncloud "base_path"⟩
      email := ← emailOf row.email
      microsoft := ← microsoftOf row.microsoft
      odoo := ← odooOf row.odoo
      relatedPeople := ← relatedPeopleOf row.relatedPeople
      enabledSources := row.enabledSources
      allowedRoles := row.allowedRoles }

/-- `_row_to_source_mapping_detail`: a status other than `disabled` is computed anew. -/
def rowToSourceMappingDetail [Text] (owncloudConfigured : Bool) (row : MappingRow F) :
    Except Error SourceMappingDetail := do
  let body ← row.body
  let stored := if row.mappingStatus = "" then "incomplete" else row.mappingStatus
  pure
    { body with
      projectCode := row.projectCode
      mappingStatus := if stored = "disabled" then stored
        else (computeMappingStatus owncloudConfigured body).1 }

/-! ### Reading back what was dumped -/

omit [Floats F] in
/-- A list of texts is read as it was dumped. -/
theorem strListField_strList {d : Dict F} {k : String} {xs : List String}
    (h : d.getD k (.list []) = strList xs) : strListField d k = .ok xs := by
  have hmap : ∀ xs : List String, (xs.map (Value.str (F := F))).mapM (fun
      | .str s => pure s
      | _ => throw Error.validationError) = (Except.ok xs : Except Error (List String)) := by
    intro xs
    induction xs with
    | nil => rfl
    | cons x xs ih =>
      rw [List.map_cons, List.mapM_cons, ih]
      rfl
  rw [strListField, h, strList]
  exact hmap xs

omit [Floats F] in
/-- The SharePoint column is read as it was dumped. -/
theorem sharepointOf_dump (sp : SourceMappingSharePoint) :
    sharepointOf (sp.dump : Dict F) = .ok sp := rfl

omit [Floats F] in
/-- The e-mail column is read as it was dumped. -/
theorem emailOf_dump (em : SourceMappingEmail) : emailOf (em.dump : Dict F) = .ok em := by
  have hshared : strListField (em.dump : Dict F) "shared_mailboxes" = .ok em.sharedMailboxes :=
    strListField_strList rfl
  have hclient : strListField (em.dump : Dict F) "client_domains" = .ok em.clientDomains :=
    strListField_strList rfl
  have hconsultant : strListField (em.dump : Dict F) "consultant_domains" =
      .ok em.consultantDomains := strListField_strList rfl
  have hcontractor : strListField (em.dump : Dict F) "contractor_domains" =
      .ok em.contractorDomains := strListField_strList rfl
  rw [emailOf, hshared, hclient, hconsultant, hcontractor]
  rfl

omit [Floats F] in
/-- The related people are read as they were dumped. -/
theorem relatedPeopleOf_dump (rp : RelatedPeople) :
    relatedPeopleOf (rp.dump : Dict F) = .ok rp := by
  have hother : strListField (rp.dump : Dict F) "other" = .ok rp.other := strListField_strList rfl
  rw [relatedPeopleOf, hother]
  rfl

/-- The Odoo column is read as it was dumped. -/
theorem odooOf_dump (od : SourceMappingOdoo) : odooOf (od.dump : Dict F) = .ok od := rfl

/-- The Microsoft column is read as it was dumped, with the group and its members. -/
theorem microsoftOf_dump [Text] (ms : SourceMappingMicrosoft) :
    microsoftOf (ms.dump : Dict F) = .ok ms := by
  have hmembers : ((ms.dump : Dict F).getD "group_members" (.list [])).iter =
      .ok (ms.groupMembers.map fun m => .dict m.dump) := rfl
  have hgroup : groupOf (ms.dump : Dict F) = .ok ms.group := rfl
  have hmissing : strListField (ms.dump : Dict F) "missing_permissions" =
      .ok ms.missingPermissions := strListField_strList rfl
  have hblockers : strListField (ms.dump : Dict F) "blockers" = .ok ms.blockers :=
    strListField_strList rfl
  have hshown : ((ms.groupMembers.map fun m => (Value.dict m.dump : Value F)).filterMap
      Value.asDict?).map memberOf = ms.groupMembers := by
    rw [List.filterMap_map, List.map_filterMap]
    refine (List.filterMap_congr fun m _ => ?_).trans List.filterMap_some
    rfl
  rw [microsoftOf, hmembers, hgroup, hmissing, hblockers]
  refine congrArg Except.ok (?_ : SourceMappingMicrosoft.mk _ _ _ _ _ _ = ms)
  rw [hshown]
  rfl

/-- What is read from each column of a row. -/
structure ReadsBody [Text] (r : MappingRow F) (body : SourceMappingUpsertRequest) : Prop where
  projectName : body.projectName = r.projectName
  contractNumbers : body.contractNumbers = r.contractNumbers
  sharepoint : sharepointOf r.sharepoint = .ok body.sharepoint
  owncloud : strField r.owncloud "base_path" = .ok body.owncloud.basePath
  email : emailOf r.email = .ok body.email
  microsoft : microsoftOf r.microsoft = .ok body.microsoft
  odoo : odooOf r.odoo = .ok body.odoo
  relatedPeople : relatedPeopleOf r.relatedPeople = .ok body.relatedPeople
  enabledSources : body.enabledSources = r.enabledSources
  allowedRoles : body.allowedRoles = r.allowedRoles

/-- A row can be read if each of its columns can, and is read column by column. -/
theorem body_eq_ok [Text] {r : MappingRow F} {body : SourceMappingUpsertRequest} :
    r.body = .ok body ↔ ReadsBody r body := by
  constructor
  · intro h
    obtain ⟨sharepoint, hsharepoint, h⟩ := bind_eq_ok.mp h
    obtain ⟨basePath, howncloud, h⟩ := bind_eq_ok.mp h
    obtain ⟨email, hemail, h⟩ := bind_eq_ok.mp h
    obtain ⟨microsoft, hmicrosoft, h⟩ := bind_eq_ok.mp h
    obtain ⟨odoo, hodoo, h⟩ := bind_eq_ok.mp h
    obtain ⟨relatedPeople, hpeople, h⟩ := bind_eq_ok.mp h
    obtain rfl := Except.ok.inj h
    exact ⟨rfl, rfl, hsharepoint, howncloud, hemail, hmicrosoft, hodoo, hpeople, rfl, rfl⟩
  · rintro ⟨hname, hcontracts, hsharepoint, howncloud, hemail, hmicrosoft, hodoo, hpeople,
      hsources, hroles⟩
    rw [MappingRow.body, hsharepoint, howncloud, hemail, hmicrosoft, hodoo, hpeople, ← hname,
      ← hcontracts, ← hsources, ← hroles]
    rfl

/-- A stored request body reads back as it was sent. -/
theorem body_row [Text] (code status : String) (body : SourceMappingUpsertRequest) :
    (body.row code status : MappingRow F).body = .ok body :=
  body_eq_ok.mpr
    { projectName := rfl
      contractNumbers := rfl
      sharepoint := sharepointOf_dump body.sharepoint
      owncloud := rfl
      email := emailOf_dump body.email
      microsoft := microsoftOf_dump body.microsoft
      odoo := odooOf_dump body.odoo
      relatedPeople := relatedPeopleOf_dump body.relatedPeople
      enabledSources := rfl
      allowedRoles := rfl }

end DecisionCenter.Mappings
