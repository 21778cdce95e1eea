import DecisionCenter.Mappings.AdminEdits
import DecisionCenter.Py.Json

/-!
# Columns as JSON

The database keeps the entries of a column, not their order. In whatever order it gives back
what was stored by `model_dump()`, the model is read from it. So a handler that writes back what
it has read of a column leaves the same JSON there just if the column held that of a model.

`Same` is equality of JSON up to the order of entries. The lemmas at the beginning say what the
other side looks like when one side is known: a text or a list of texts is the same as no other
value, and an object has the same fields, in some order. For each model then there is one on its
dump, whose fields are looked up by their keys.

`Dumped` says that a column holds the dump of some model, and `Stays` that it is the same JSON
before and after. What the request handlers store is dumped; the synchronisation and the seeding
store objects of their own, which need not be.

`stays_row_iff` is the statement for a row that is replaced by what is read of another: a column
stays just if it was dumped, and the other row is read alike. The handlers that update a part of
a mapping, and the round trip of a `PUT`, are both about this.
-/

namespace DecisionCenter.Mappings

open Py

variable {F : Type}

/-! ### Fields -/

/-- A list of strings is the same JSON as no other value. -/
theorem eq_strList {v : Value F} {xs : List String} (h : v.SameJson (strList xs)) :
    v = strList xs := by
  obtain ⟨vs, rfl, hsame⟩ := h.eq_list
  rw [List.forall₂_map_right_iff] at hsame
  refine congrArg Value.list ?_
  clear h
  induction hsame with
  | nil => rfl
  | cons hv _ ih => rw [List.map_cons, hv.eq_str, ih]

section Fields

variable {d d' : Dict F} {k : String}

private theorem strField_of_sameJson (h : d.SameJson d') {s : String}
    (hs : d'.get? k = some (.str s)) : strField d k = .ok s := by
  obtain ⟨v, hv, hsame⟩ := h.get? hs
  rw [strField, Dict.getD, hv, hsame.eq_str]
  rfl

private theorem strListField_of_sameJson (h : d.SameJson d') {xs : List String}
    (hxs : d'.get? k = some (strList xs)) : strListField d k = .ok xs := by
  obtain ⟨v, hv, hsame⟩ := h.get? hxs
  refine strListField_strList ?_
  rw [Dict.getD, hv, eq_strList hsame]
  rfl

variable [Floats F]

private theorem shownField_of_sameJson (h : d.SameJson d') {s : String}
    (hs : d'.get? k = some (.str s)) : shownField d k = s := by
  obtain ⟨v, hv, hsame⟩ := h.get? hs
  rw [shownField, Dict.getD, hv, hsame.eq_str]
  rfl

private theorem dictField_of_sameJson (h : d.SameJson d') {g : Dict F}
    (hg : d'.get? k = some (.dict g)) (hne : ∀ g' : Dict F, g'.SameJson g → g' ≠ []) :
    ∃ g' : Dict F, g'.SameJson g ∧ dictField d k = .ok g' := by
  obtain ⟨v, hv, hsame⟩ := h.get? hg
  obtain ⟨g', rfl⟩ := hsame.eq_dict
  refine ⟨g', hsame, ?_⟩
  have htruthy : (Value.dict g').truthy = true := by
    rw [Value.truthy, List.isEmpty_eq_false_iff.mpr (hne g' hsame)]
    rfl
  rw [dictField, Dict.get, Dict.getD, hv, Option.getD_some, Value.orElse, if_pos htruthy]
  rfl

end Fields

/-! ### Models -/

section Models

variable {d : Dict F}

private theorem sharepointOf_of_sameJson {sp : SourceMappingSharePoint} (h : d.SameJson sp.dump) :
    sharepointOf d = .ok sp := by
  have hsite : strField d "site_id" = .ok sp.siteId := strField_of_sameJson h rfl
  have hdrive : strField d "drive_id" = .ok sp.driveId := strField_of_sameJson h rfl
  have hroot : strField d "root_path" = .ok sp.rootPath := strField_of_sameJson h rfl
  rw [sharepointOf, hsite, hdrive, hroot]
  rfl

private theorem emailOf_of_sameJson {em : SourceMappingEmail} (h : d.SameJson em.dump) :
    emailOf d = .ok em := by
  have hshared : strListField d "shared_mailboxes" = .ok em.sharedMailboxes :=
    strListField_of_sameJson h rfl
  have hcontrol : strField d "document_control_mailbox" = .ok em.documentControlMailbox :=
    strField_of_sameJson h rfl
  have hclient : strListField d "client_domains" = .ok em.clientDomains :=
    strListField_of_sameJson h rfl
  have hconsultant : strListField d "consultant_domains" = .ok em.consultantDomains :=
    strListField_of_sameJson h rfl
  have hcontractor : strListField d "contractor_domains" = .ok em.contractorDomains :=
    strListField_of_sameJson h rfl
  rw [emailOf, hshared, hcontrol, hclient, hconsultant, hcontractor]
  rfl

private theorem relatedPeopleOf_of_sameJson {rp : RelatedPeople} (h : d.SameJson rp.dump) :
    relatedPeopleOf d = .ok rp := by
  have hproject : strField d "project_manager" = .ok rp.projectManager :=
    strField_of_sameJson h rfl
  have hcommercial : strField d "commercial_manager" = .ok rp.commercialManager :=
    strField_of_sameJson h rfl
  have hfinance : strField d "finance_owner" = .ok rp.financeOwner := strField_of_sameJson h rfl
  have hdocuments : strField d "document_controller" = .ok rp.documentController :=
    strField_of_sameJson h rfl
  have hother : strListField d "other" = .ok rp.other := strListField_of_sameJson h rfl
  rw [relatedPeopleOf, hproject, hcommercial, hfinance, hdocuments, hother]
  rfl

variable [Floats F]

private theorem odooOf_of_sameJson {od : SourceMappingOdoo} (h : d.SameJson od.dump) :
    odooOf d = .ok od := by
  have hmodel : strField d "project_model" = .ok od.projectModel := strField_of_sameJson h rfl
  have hcost : strField d "cost_model" = .ok od.costModel := strField_of_sameJson h rfl
  have hexternal : strField d "project_external_id" = .ok od.projectExternalId :=
    strField_of_sameJson h rfl
  have hname : strField d "project_name" = .ok od.projectName := strField_of_sameJson h rfl
  have haccount : shownField d "analytic_account_id" = od.analyticAccountId :=
    shownField_of_sameJson h rfl
  rw [odooOf, hmodel, hcost, hexternal, hname, haccount]
  rfl

private theorem memberOf_of_sameJson {m : SourceMappingMicrosoftGroupMember}
    (h : d.SameJson m.dump) : memberOf d = m := by
  have hid : shownField d "id" = m.id := shownField_of_sameJson h rfl
  have hdisplay : shownField d "display_name" = m.displayName := shownField_of_sameJson h rfl
  have hmail : shownField d "mail" = m.mail := shownField_of_sameJson h rfl
  have hprincipal : shownField d "user_principal_name" = m.userPrincipalName :=
    shownField_of_sameJson h rfl
  have htitle : shownField d "job_title" = m.jobTitle := shownField_of_sameJson h rfl
  have hdepartment : shownField d "department" = m.department := shownField_of_sameJson h rfl
  have hemail : shownField d "email" = m.email := shownField_of_sameJson h rfl
  rw [memberOf, hid, hdisplay, hmail, hprincipal, htitle, hdepartment, hemail]

private theorem members_of_sameJson {vs : List (Value F)}
    {ms : List SourceMappingMicrosoftGroupMember}
    (h : List.Forall₂ Value.SameJson vs (ms.map fun m => .dict m.dump)) :
    (vs.filterMap Value.asDict?).map memberOf = ms := by
  rw [List.forall₂_map_right_iff] at h
  induction h with
  | nil => rfl
  | cons hv _ ih =>
    obtain ⟨_, rfl⟩ := hv.eq_dict
    rw [List.filterMap_cons_some (Value.asDict?_dict _), List.map_cons, memberOf_of_sameJson hv, ih]

private theorem groupOf_of_sameJson {ms : Dict F} {g : SourceMappingMicrosoftGroup}
    (h : ms.SameJson d) (hg : d.get? "group" = some (.dict g.dump)) : groupOf ms = .ok g := by
  have hne : ∀ g' : Dict F, g'.SameJson g.dump → g' ≠ [] := by
    rintro _ hsame rfl
    obtain ⟨_, hid, -⟩ := hsame.get? (k := "id") rfl
    cases hid
  obtain ⟨g', hsame, hgroup⟩ := dictField_of_sameJson h hg hne
  have hid : strField g' "id" = .ok g.id := strField_of_sameJson hsame rfl
  have hdisplay : strField g' "display_name" = .ok g.displayName := strField_of_sameJson hsame rfl
  have hmail : strField g' "mail" = .ok g.mail := strField_of_sameJson hsame rfl
  have henabled : g'.getD "mail_enabled" (.bool false) = .bool g.mailEnabled := by
    obtain ⟨v, hv, hbool⟩ := hsame.get? (k := "mail_enabled") (w := .bool g.mailEnabled) rfl
    rw [Dict.getD, hv, hbool.eq_bool]
    rfl
  rw [groupOf, hgroup, bind_eq_ok]
  refine ⟨g', rfl, ?_⟩
  rw [hid, hdisplay, hmail, henabled]
  rfl

omit [Floats F] in
private theorem getD_of_get? {k : String} {v w : Value F} (h : d.get? k = some v) :
    d.getD k w = v := by
  rw [Dict.getD, h, Option.getD_some]

private theorem microsoftOf_of_sameJson [Text] {ms : SourceMappingMicrosoft}
    (h : d.SameJson ms.dump) : microsoftOf d = .ok ms := by
  have hgroup : groupOf d = .ok ms.group := groupOf_of_sameJson h rfl
  have hstatus : shownField d "group_membership_status" = ms.groupMembershipStatus :=
    shownField_of_sameJson h rfl
  have hmissing : strListField d "missing_permissions" = .ok ms.missingPermissions :=
    strListField_of_sameJson h rfl
  have hblockers : strListField d "blockers" = .ok ms.blockers := strListField_of_sameJson h rfl
  obtain ⟨_, hcount, hint⟩ := h.get? (k := "member_count") (w := .int ms.memberCount) rfl
  obtain rfl := hint.eq_int
  obtain ⟨_, hlist, hsame⟩ := h.get? (k := "group_members")
    (w := .list (ms.groupMembers.map fun m => .dict m.dump)) rfl
  obtain ⟨members, rfl, hmembers⟩ := hsame.eq_list
  rw [microsoftOf, getD_of_get? hlist, Value.iter_list, hgroup, hmissing, hblockers, hstatus,
    bind_eq_ok]
  refine ⟨members, rfl, ?_⟩
  rw [getD_of_get? hcount, members_of_sameJson hmembers]
  rfl

end Models

/-! ### Columns -/

namespace Column

variable {r r' m : MappingRow F} {b b' : SourceMappingUpsertRequest} {c : Column}

/-- The column holds the same JSON in both rows. -/
def Stays (r r' : MappingRow F) : Column → Prop
  | projectName => r.projectName = r'.projectName
  | contractNumbers => r.contractNumbers = r'.contractNumbers
  | sharepoint => r.sharepoint.SameJson r'.sharepoint
  | owncloud => r.owncloud.SameJson r'.owncloud
  | email => r.email.SameJson r'.email
  | microsoft => r.microsoft.SameJson r'.microsoft
  | odoo => r.odoo.SameJson r'.odoo
  | relatedPeople => r.relatedPeople.SameJson r'.relatedPeople
  | enabledSources => r.enabledSources = r'.enabledSources
  | allowedRoles => r.allowedRoles = r'.allowedRoles

/-- A column stays the same JSON if its row does. -/
theorem Stays.refl (r : MappingRow F) (c : Column) : c.Stays r r := by
  cases c <;> first | rfl | exact Value.SameJson.refl _

private theorem Stays.of_same (h : c.Same r r') : c.Stays r r' := by
  cases c <;> first | exact h | exact Dict.SameJson.of_eq h

/-- A column that stays over two rows, one after the other, stays. -/
theorem Stays.trans {r'' : MappingRow F} (h : c.Stays r r') (h' : c.Stays r' r'') :
    c.Stays r r'' := by
  cases c <;> first | exact Eq.trans h h' | exact Value.SameJson.trans h h'

/-- The column is stored as the `model_dump()` of something. -/
def Dumped (r : MappingRow F) (c : Column) : Prop :=
  ∃ b : SourceMappingUpsertRequest, c.Stays r (b.row r.projectCode r.mappingStatus)

/-- What the request handlers store is dumped. -/
theorem dumped_row (code status : String) (b : SourceMappingUpsertRequest) (c : Column) :
    c.Dumped (b.row code status : MappingRow F) := ⟨b, Stays.refl _ c⟩

variable [Text] [Floats F]

/-- What is read of the column is what the body says. -/
def Reads (r : MappingRow F) (b : SourceMappingUpsertRequest) : Column → Prop
  | projectName => b.projectName = r.projectName
  | contractNumbers => b.contractNumbers = r.contractNumbers
  | sharepoint => sharepointOf r.sharepoint = .ok b.sharepoint
  | owncloud => strField r.owncloud "base_path" = .ok b.owncloud.basePath
  | email => emailOf r.email = .ok b.email
  | microsoft => microsoftOf r.microsoft = .ok b.microsoft
  | odoo => odooOf r.odoo = .ok b.odoo
  | relatedPeople => relatedPeopleOf r.relatedPeople = .ok b.relatedPeople
  | enabledSources => b.enabledSources = r.enabledSources
  | allowedRoles => b.allowedRoles = r.allowedRoles

/-- What is read of the column in the first row is read in the second. -/
def ReadAlike (r r' : MappingRow F) (c : Column) : Prop := ∀ b, c.Reads r b → c.Reads r' b

/-- What is read of a row is read of each of its columns. -/
theorem Reads.of_body (h : r.body = .ok b) (c : Column) : c.Reads r b := by
  have hreads : ReadsBody r b := body_eq_ok.mp h
  cases c
  case projectName => exact hreads.projectName
  case contractNumbers => exact hreads.contractNumbers
  case sharepoint => exact hreads.sharepoint
  case owncloud => exact hreads.owncloud
  case email => exact hreads.email
  case microsoft => exact hreads.microsoft
  case odoo => exact hreads.odoo
  case relatedPeople => exact hreads.relatedPeople
  case enabledSources => exact hreads.enabledSources
  case allowedRoles => exact hreads.allowedRoles

/-- A dump is read as what was dumped, in whatever order its entries are. -/
theorem Stays.reads {code status : String} (h : c.Stays r (b.row code status)) : c.Reads r b := by
  cases c
  case sharepoint => exact sharepointOf_of_sameJson h
  case owncloud => exact strField_of_sameJson h rfl
  case email => exact emailOf_of_sameJson h
  case microsoft => exact microsoftOf_of_sameJson h
  case odoo => exact odooOf_of_sameJson h
  case relatedPeople => exact relatedPeopleOf_of_sameJson h
  all_goals exact Eq.symm h

/-- A column is read in one way only. -/
theorem Reads.agree (h : c.Reads r b) (h' : c.Reads r b') : c.Agree b b' := by
  cases c
  case owncloud =>
    exact congrArg SourceMappingOwnCloud.mk (Except.ok.inj (Eq.trans (Eq.symm h) h'))
  case projectName => exact Eq.trans h (Eq.symm h')
  case contractNumbers => exact Eq.trans h (Eq.symm h')
  case enabledSources => exact Eq.trans h (Eq.symm h')
  case allowedRoles => exact Eq.trans h (Eq.symm h')
  all_goals exact Except.ok.inj (Eq.trans (Eq.symm h) h')

private theorem Reads.of_agree (h : c.Reads r b) (hagree : c.Agree b b') : c.Reads r b' := by
  cases c
  case projectName => exact Eq.trans (Eq.symm hagree) h
  case contractNumbers => exact Eq.trans (Eq.symm hagree) h
  case enabledSources => exact Eq.trans (Eq.symm hagree) h
  case allowedRoles => exact Eq.trans (Eq.symm hagree) h
  case owncloud =>
    exact Eq.trans h (congrArg (fun oc : SourceMappingOwnCloud => Except.ok oc.basePath) hagree)
  all_goals exact Eq.trans h (congrArg Except.ok hagree)

omit [Text] [Floats F] in
private theorem Agree.stays (h : c.Agree b b') (code status code' status' : String) :
    c.Stays (b.row code status : MappingRow F) (b'.row code' status') :=
  .of_same ((holds_row h code' status').same (.refl _ c))

/-- A row is replaced by what is read of another: the column stays just if it was dumped, and the
other is read alike. -/
theorem stays_row_iff (hm : c.Reads m b) (hagree : c.Agree b b') (code status : String) :
    c.Stays r (b'.row code status) ↔ c.Dumped r ∧ c.ReadAlike r m := by
  constructor
  · intro h
    have hdumped : c.Dumped r := ⟨b', h.trans (Agree.stays (.refl b' c) ..)⟩
    exact ⟨hdumped, fun d hd => (hm.of_agree hagree).of_agree (h.reads.agree hd)⟩
  · rintro ⟨⟨d, hd⟩, halike⟩
    have hread : c.Agree d b' := ((halike d hd.reads).agree hm).trans hagree
    exact hd.trans (hread.stays ..)

end Column

end DecisionCenter.Mappings
