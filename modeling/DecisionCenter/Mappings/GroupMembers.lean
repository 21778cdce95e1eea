import DecisionCenter.Data.Dedup
import DecisionCenter.Mappings.Row
import DecisionCenter.Py.Whole

/-!
# The members of an e-mail group

`dedupe_group_members` and `classify_related_people`
(`apps/edr/admin/email_group_enrichment.py`). The members kept have different addresses. A role
holds one person, and the others that prove it are left out of the remaining list as well, so
nobody is lost just if no two members prove the same role.

A member as Microsoft Graph sends it is JSON, with fields that may be missing or of another kind
(`RawMember`); reading it may drop it, where it has no usable address. The deduplication goes by
a key of each member, its address without regard to case, and keeps the first; the library of
`Data.Dedup` says what is kept.

The classification has two loops. The first fills a role with the first member that proves it,
by words in its title or department. The second lists the members that prove no role under the
remaining people, and passes over those whose key has been classified. Each is a fold with an
invariant: a role keeps its person, or has the first member that proves it
(`slot_foldl_classifyMember`).

`LosesNobody` asks that the members kept have different usable addresses, that the deduplication
has nothing left to do, and that each of them is named once in the result, but not as the
project manager. `losesNobody_iff` is exact for all lists. Two commercial managers are the
failing case, of whom the second is named nowhere.
-/

namespace DecisionCenter.Mappings

open Py

variable {F : Type}

/-- An element of `raw_members`: a member, or a value of the answer of Microsoft Graph. -/
inductive RawMember (F : Type) where
  | member (m : SourceMappingMicrosoftGroupMember)
  | value (v : Value F)

/-- The object that is read of the element, if there is one. -/
def RawMember.data? : RawMember F → Option (Dict F)
  | .member m => some m.dump
  | .value v => v.asDict?

/-! ### Members -/

section Members

variable [Text]

/-- `_usable_email` -/
def usableEmail (value : String) : Bool :=
  let stripped := strip value
  decide (stripped ≠ "") && contains stripped "@" && !contains (lower stripped) "example.com"

variable [Floats F]

/-- `str(v or "")` -/
def textOr (v : Value F) : String := (v.orElse (.str "")).toStr

/-- `_member_email` -/
def memberEmail (raw : Dict F) : String :=
  let mail := strip (textOr (raw.get "mail"))
  if usableEmail mail then mail
  else
    let upn := strip (textOr (raw.get "userPrincipalName"))
    if usableEmail upn then upn else ""

/-- The member an element is read as, unless the loop of `dedupe_group_members` passes over it. -/
def RawMember.toMember (raw : RawMember F) : Option SourceMappingMicrosoftGroupMember := do
  let data ← raw.data?
  let odataType := textOr (data.get "@odata.type")
  if odataType ≠ "" ∧ lower odataType ≠ "#microsoft.graph.user" then none
  else
    let email := strip (textOr ((data.get "email").orElse (.str (memberEmail data))))
    if usableEmail email then
      some
        { id := textOr (data.get "id")
          displayName := textOr ((data.get "displayName").orElse (data.get "display_name"))
          mail := textOr (data.get "mail")
          userPrincipalName :=
            textOr ((data.get "userPrincipalName").orElse (data.get "user_principal_name"))
          jobTitle := textOr ((data.get "jobTitle").orElse (data.get "job_title"))
          department := textOr (data.get "department")
          email := email }
    else none

/-- The key of a member. -/
def SourceMappingMicrosoftGroupMember.key (m : SourceMappingMicrosoftGroupMember) : String :=
  lower m.email

/-- `dedupe_group_members` -/
def dedupeGroupMembers (rawMembers : List (RawMember F)) :
    List SourceMappingMicrosoftGroupMember :=
  Dedup.keepFirst (fun m => some m.key) (rawMembers.filterMap RawMember.toMember)

end Members

/-! ### Roles -/

/-- The roles that a member can prove. -/
inductive ProvenRole where
  | commercialManager
  | financeOwner
  | documentController
  deriving DecidableEq, Repr

/-- The person of a role. -/
def RelatedPeople.slot (r : RelatedPeople) : ProvenRole → String
  | .commercialManager => r.commercialManager
  | .financeOwner => r.financeOwner
  | .documentController => r.documentController

/-- `if not related[role]: related[role] = label` -/
def RelatedPeople.fill (r : RelatedPeople) (role : ProvenRole) (label : String) : RelatedPeople :=
  if r.slot role ≠ "" then r
  else match role with
    | .commercialManager => { r with commercialManager := label }
    | .financeOwner => { r with financeOwner := label }
    | .documentController => { r with documentController := label }

section Classification

variable [Text]

/-- The role that the job title or the department proves. -/
def provenRole (m : SourceMappingMicrosoftGroupMember) : Option ProvenRole :=
  let proof := lower (m.jobTitle ++ " " ++ m.department)
  if contains proof "document controller" || contains proof "document control" then
    some .documentController
  else if contains proof "commercial" then some .commercialManager
  else if contains proof "finance" then some .financeOwner
  else none

/-- `_person_label` -/
def personLabel (m : SourceMappingMicrosoftGroupMember) : String :=
  let name := if strip m.displayName ≠ "" then strip m.displayName else m.email
  name ++ " <" ++ m.email ++ ">"

/-- One round of the first loop: the roles, and the keys of the members that proved one. -/
def classifyMember (s : RelatedPeople × List String) (m : SourceMappingMicrosoftGroupMember) :
    RelatedPeople × List String :=
  match provenRole m with
  | some role => (s.1.fill role (personLabel m), m.key :: s.2)
  | none => s

/-- `classify_related_people` -/
def classifyRelatedPeople [Floats F] (existing : Option (Dict F))
    (members : List SourceMappingMicrosoftGroupMember) : RelatedPeople :=
  let manager := textOr ((existing.getD []).get "project_manager")
  let s := members.foldl classifyMember ({ projectManager := manager }, [])
  { s.1 with
    other := (Dedup.keepFirstFrom (fun m => some m.key) s.2 members).map personLabel }

/-- Whom the result names besides the project manager. -/
def RelatedPeople.named (r : RelatedPeople) : List String :=
  [r.commercialManager, r.financeOwner, r.documentController].filter (· ≠ "") ++ r.other

/-- Nobody is lost by the enrichment: the members kept have different usable addresses and are the
first with these, the deduplication has nothing left to do, and each member is named once. -/
structure LosesNobody [Floats F] (existing : Option (Dict F)) (rawMembers : List (RawMember F)) :
    Prop where
  usable : ∀ m ∈ dedupeGroupMembers rawMembers, usableEmail m.email = true
  distinct : ((dedupeGroupMembers rawMembers).map (·.key)).Nodup
  first : ∀ key, (dedupeGroupMembers rawMembers).find? (fun m => m.key = key) =
    (rawMembers.filterMap RawMember.toMember).find? fun m => m.key = key
  again : dedupeGroupMembers ((dedupeGroupMembers rawMembers).map (.member (F := F))) =
    dedupeGroupMembers rawMembers
  named : (classifyRelatedPeople existing (dedupeGroupMembers rawMembers)).named.Perm
    ((dedupeGroupMembers rawMembers).map personLabel)
  /-- Nor is a member the project manager. -/
  manager : (classifyRelatedPeople existing (dedupeGroupMembers rawMembers)).projectManager ∉
    (dedupeGroupMembers rawMembers).map personLabel

/-! ### The deduplication -/

section Deduplication

variable [Floats F]

omit [Text] in
private theorem textOr_str (s : String) : textOr (.str s : Value F) = s := by
  rw [textOr, Value.orElse]
  split
  · rfl
  · next h =>
    have hempty : s = "" := by simpa using h
    rw [hempty, Value.toStr_str]

private theorem usableEmail_ne_empty {s : String} (h : usableEmail s = true) : s ≠ "" := by
  rintro rfl
  have hstrip : strip "" = "" := rfl
  rw [usableEmail, hstrip] at h
  cases h

/-- A member that is read has a usable address without blanks around it. -/
theorem toMember_email {raw : RawMember F} {m : SourceMappingMicrosoftGroupMember}
    (h : raw.toMember = some m) : usableEmail m.email = true ∧ strip m.email = m.email := by
  rw [RawMember.toMember] at h
  obtain ⟨data, -, h⟩ := Option.bind_eq_some_iff.mp h
  dsimp only at h
  split at h
  · cases h
  split at h
  · next husable =>
    obtain rfl := Option.some.inj h
    exact ⟨husable, strip_strip _⟩
  · cases h

/-- A member is read as itself, if its address is usable and stripped. Each field is found under the
name that Graph uses or under its own. -/
theorem toMember_member {m : SourceMappingMicrosoftGroupMember}
    (husable : usableEmail m.email = true) (hstrip : strip m.email = m.email) :
    (RawMember.member m : RawMember F).toMember = some m := by
  have htype : (m.dump : Dict F).get "@odata.type" = .null := rfl
  have hid : (m.dump : Dict F).get "id" = .str m.id := rfl
  have hdisplay : ((m.dump : Dict F).get "displayName").orElse (m.dump.get "display_name") =
      .str m.displayName := rfl
  have hmail : (m.dump : Dict F).get "mail" = .str m.mail := rfl
  have hprincipal : ((m.dump : Dict F).get "userPrincipalName").orElse
      (m.dump.get "user_principal_name") = .str m.userPrincipalName := rfl
  have htitle : ((m.dump : Dict F).get "jobTitle").orElse (m.dump.get "job_title") =
      .str m.jobTitle := rfl
  have hdepartment : (m.dump : Dict F).get "department" = .str m.department := rfl
  have hemail : ((m.dump : Dict F).get "email").orElse (.str (memberEmail (m.dump : Dict F))) =
      .str m.email := if_pos (decide_eq_true (usableEmail_ne_empty husable))
  have hnone : textOr (.null : Value F) = "" := rfl
  rw [RawMember.toMember, RawMember.data?]
  simp only [Option.bind_eq_bind, Option.bind_some, htype, hid, hdisplay, hmail, hprincipal, htitle,
    hdepartment, hemail, hnone, textOr_str, hstrip, husable, ne_eq, not_true_eq_false, false_and,
    if_false, if_true]

/-- The members kept have different keys. -/
theorem distinct_dedupeGroupMembers (rawMembers : List (RawMember F)) :
    Dedup.Distinct (fun m => some m.key) (dedupeGroupMembers rawMembers) :=
  Dedup.distinct_keepFirst _ _

private theorem nodup_key_dedupeGroupMembers (rawMembers : List (RawMember F)) :
    ((dedupeGroupMembers rawMembers).map (·.key)).Nodup := by
  refine List.pairwise_map.mpr ((distinct_dedupeGroupMembers rawMembers).imp ?_)
  intro m m' h heq
  exact h m.key rfl (congrArg some heq.symm)

private theorem toMember_of_mem {rawMembers : List (RawMember F)}
    {m : SourceMappingMicrosoftGroupMember} (hm : m ∈ dedupeGroupMembers rawMembers) :
    ∃ raw : RawMember F, raw.toMember = some m := by
  obtain ⟨raw, -, hraw⟩ := List.mem_filterMap.mp ((Dedup.keepFirst_sublist _ _).subset hm)
  exact ⟨raw, hraw⟩

private theorem dedupeGroupMembers_again (rawMembers : List (RawMember F)) :
    dedupeGroupMembers ((dedupeGroupMembers rawMembers).map (.member (F := F))) =
      dedupeGroupMembers rawMembers := by
  have hread : ((dedupeGroupMembers rawMembers).map (RawMember.member (F := F))).filterMap
      RawMember.toMember = dedupeGroupMembers rawMembers := by
    rw [List.filterMap_map]
    refine (List.filterMap_congr fun m hm => ?_).trans List.filterMap_some
    obtain ⟨raw, hraw⟩ := toMember_of_mem hm
    obtain ⟨husable, hstrip⟩ := toMember_email hraw
    exact toMember_member husable hstrip
  rw [dedupeGroupMembers, hread]
  exact Dedup.keepFirst_of_distinct _ (distinct_dedupeGroupMembers rawMembers)

private theorem find?_dedupeGroupMembers (rawMembers : List (RawMember F)) (key : String) :
    (dedupeGroupMembers rawMembers).find? (fun m => m.key = key) =
      (rawMembers.filterMap RawMember.toMember).find? fun m => m.key = key := by
  have hfind := Dedup.find?_keepFirst (fun m : SourceMappingMicrosoftGroupMember => some m.key) key
    (rawMembers.filterMap RawMember.toMember)
  simp only [Option.some.injEq] at hfind
  exact hfind

end Deduplication

/-! ### The classification -/

private theorem personLabel_ne_empty (m : SourceMappingMicrosoftGroupMember) :
    personLabel m ≠ "" := by
  intro h
  have hlength := congrArg String.length h
  rw [personLabel, String.length_append] at hlength
  exact absurd hlength (Nat.succ_ne_zero _)

/-- The members that prove a role. -/
def held (members : List SourceMappingMicrosoftGroupMember) (role : ProvenRole) :
    List SourceMappingMicrosoftGroupMember :=
  members.filter fun m => provenRole m = some role

omit [Text] in
private theorem slot_fill (r : RelatedPeople) (role role' : ProvenRole) (label : String) :
    (r.fill role label).slot role' =
      if role = role' ∧ r.slot role = "" then label else r.slot role' := by
  simp only [RelatedPeople.fill]
  by_cases hslot : r.slot role = ""
  · rw [if_neg (not_not.mpr hslot)]
    cases role <;> cases role' <;> simp_all [RelatedPeople.slot]
  · rw [if_pos hslot, if_neg fun h => hslot h.2]

/-- A role keeps its person, or has the first member that proves it. A later member with the same
role finds the slot taken. -/
theorem slot_foldl_classifyMember (s : RelatedPeople × List String)
    (members : List SourceMappingMicrosoftGroupMember) (role : ProvenRole) :
    (members.foldl classifyMember s).1.slot role =
      if s.1.slot role = "" then ((held members role).head?.map personLabel).getD ""
      else s.1.slot role := by
  induction members generalizing s with
  | nil =>
    rw [List.foldl_nil]
    split
    · next h => exact h
    · rfl
  | cons m members ih =>
    rw [List.foldl_cons, ih]
    cases hrole : provenRole m with
    | none =>
      have hstep : classifyMember s m = s := by rw [classifyMember, hrole]
      have hheld : held (m :: members) role = held members role := by simp [held, hrole]
      rw [hstep, hheld]
    | some role' =>
      have hstep : (classifyMember s m).1 = s.1.fill role' (personLabel m) := by
        rw [classifyMember, hrole]
      rw [hstep, slot_fill]
      -- the member proves this role: it gets the slot only where that is empty
      by_cases heq : role' = role
      · subst heq
        have hheld : (held (m :: members) role').head? = some m := by simp [held, hrole]
        rw [hheld]
        by_cases hslot : s.1.slot role' = "" <;> simp [hslot, personLabel_ne_empty]
      · have hheld : held (m :: members) role = held members role := by simp [held, hrole, heq]
        have hsame : (if role' = role ∧ s.1.slot role' = "" then personLabel m
            else s.1.slot role) = s.1.slot role := if_neg fun h => heq h.1
        rw [hheld, hsame]

omit [Text] in
private theorem projectManager_fill (r : RelatedPeople) (role : ProvenRole) (label : String) :
    (r.fill role label).projectManager = r.projectManager := by
  simp only [RelatedPeople.fill]
  split
  · rfl
  · cases role <;> rfl

private theorem projectManager_foldl_classifyMember (s : RelatedPeople × List String)
    (members : List SourceMappingMicrosoftGroupMember) :
    (members.foldl classifyMember s).1.projectManager = s.1.projectManager := by
  induction members generalizing s with
  | nil => rfl
  | cons m members ih =>
    rw [List.foldl_cons, ih, classifyMember]
    split
    · exact projectManager_fill ..
    · rfl

/-- The keys that the second loop passes over. -/
theorem mem_foldl_classifyMember (s : RelatedPeople × List String)
    (members : List SourceMappingMicrosoftGroupMember) (key : String) :
    key ∈ (members.foldl classifyMember s).2 ↔
      key ∈ s.2 ∨ ∃ m ∈ members, m.key = key ∧ provenRole m ≠ none := by
  induction members generalizing s with
  | nil => simp
  | cons m members ih =>
    rw [List.foldl_cons, ih, classifyMember]
    cases hrole : provenRole m with
    | none => simp [hrole]
    | some role => simp [hrole, or_assoc, or_left_comm, eq_comm]

private theorem key_inj_of_distinct {members : List SourceMappingMicrosoftGroupMember}
    (h : Dedup.Distinct (fun m => some m.key) members) {m m' : SourceMappingMicrosoftGroupMember}
    (hm : m ∈ members) (hm' : m' ∈ members) (hkey : m.key = m'.key) : m = m' := by
  have hnodup : (members.map (·.key)).Nodup :=
    List.pairwise_map.mpr (h.imp fun hne heq => hne _ rfl (congrArg some heq.symm))
  exact List.inj_on_of_nodup_map hnodup hm hm' hkey

/-- The person of a role, if it has one. -/
theorem filter_label (o : Option SourceMappingMicrosoftGroupMember) :
    [(o.map personLabel).getD ""].filter (· ≠ "") = o.toList.map personLabel := by
  cases o with
  | none => rfl
  | some m => simp [personLabel_ne_empty]

/-- What the classification names: the first member of each role, and those that prove none. Keys
that were taken for a role are dropped from the rest, and the keys are distinct. -/
theorem named_classifyRelatedPeople [Floats F] (existing : Option (Dict F))
    {members : List SourceMappingMicrosoftGroupMember}
    (hdistinct : Dedup.Distinct (fun m => some m.key) members) :
    (classifyRelatedPeople existing members).named =
      ((held members .commercialManager).head?.toList ++
        (held members .financeOwner).head?.toList ++
          (held members .documentController).head?.toList ++
            members.filter fun m => provenRole m = none).map personLabel := by
  rw [classifyRelatedPeople]
  generalize hs : members.foldl classifyMember
    ({ projectManager := textOr ((existing.getD []).get "project_manager") }, []) = s
  have hslot : ∀ role, s.1.slot role = ((held members role).head?.map personLabel).getD "" := by
    intro role
    rw [← hs, slot_foldl_classifyMember, if_pos]
    cases role <;> rfl
  -- members are told apart by their keys, so dropping the keys taken leaves the unproven ones
  have hrest : Dedup.keepFirstFrom (fun m => some m.key) s.2 members =
      members.filter fun m => provenRole m = none := by
    rw [Dedup.keepFirstFrom_eq_filter _ hdistinct]
    refine List.filter_congr fun m hm => ?_
    rw [Option.all_some, decide_eq_decide, ← hs, mem_foldl_classifyMember, ← not_iff_not, not_not]
    constructor
    · rintro (hnil | ⟨m', hm', hkey, hrole⟩)
      · cases hnil
      · rwa [← key_inj_of_distinct hdistinct hm' hm hkey]
    · exact fun hrole => .inr ⟨m, hm, rfl, hrole⟩
  have hnames : [s.1.commercialManager, s.1.financeOwner, s.1.documentController] =
      [s.1.slot .commercialManager] ++ [s.1.slot .financeOwner] ++
        [s.1.slot .documentController] := rfl
  rw [RelatedPeople.named, hrest, hnames, List.filter_append, List.filter_append, hslot, hslot,
    hslot, filter_label, filter_label, filter_label, List.map_append, List.map_append,
    List.map_append]

/-- The members by what they prove. -/
theorem perm_held (members : List SourceMappingMicrosoftGroupMember) :
    (held members .commercialManager ++ held members .financeOwner ++
      held members .documentController ++ members.filter fun m => provenRole m = none).Perm
        members := by
  rw [List.perm_iff_count]
  intro a
  have hcount (p : SourceMappingMicrosoftGroupMember → Bool) :
      (members.filter p).count a = if p a then members.count a else 0 := by
    split
    · next h => exact List.count_filter h
    · next h => exact List.count_eq_zero.mpr fun hmem => h (List.mem_filter.mp hmem).2
  simp only [held, List.count_append, hcount]
  cases provenRole a with
  | none => simp
  | some role => cases role <;> simp

omit [Text] in
private theorem length_head?_le {α : Type} (l : List α) : l.head?.toList.length ≤ l.length := by
  cases l <;> simp

omit [Text] in
private theorem head?_toList_eq_self {α : Type} {l : List α} (h : l.length ≤ 1) :
    l.head?.toList = l := by
  match l with
  | [] => rfl
  | [x] => rfl
  | x :: y :: l => simp at h

/-- The members are all named just if no two prove the same role. Counting suffices, since at most
the first of each role is named. -/
theorem perm_named_iff [Floats F] (existing : Option (Dict F))
    {members : List SourceMappingMicrosoftGroupMember}
    (hdistinct : Dedup.Distinct (fun m => some m.key) members) :
    (classifyRelatedPeople existing members).named.Perm (members.map personLabel) ↔
      Dedup.Distinct provenRole members := by
  rw [named_classifyRelatedPeople existing hdistinct, Dedup.distinct_iff_length_filter]
  constructor
  · intro h role
    change (held members role).length ≤ 1
    have hlength := h.length_eq.trans (((perm_held members).map personLabel).length_eq).symm
    simp only [List.length_map, List.length_append] at hlength
    have hcm := length_head?_le (held members .commercialManager)
    have hfo := length_head?_le (held members .financeOwner)
    have hdc := length_head?_le (held members .documentController)
    have hone {l : List SourceMappingMicrosoftGroupMember}
        (hl : l.head?.toList.length = l.length) : l.length ≤ 1 := by
      rw [← hl]
      cases l <;> simp
    cases role with
    | commercialManager => exact hone (by omega)
    | financeOwner => exact hone (by omega)
    | documentController => exact hone (by omega)
  · intro h
    have hone : ∀ role, (held members role).length ≤ 1 := h
    rw [head?_toList_eq_self (hone .commercialManager),
      head?_toList_eq_self (hone .financeOwner), head?_toList_eq_self (hone .documentController)]
    exact (perm_held members).map personLabel

/-- Nobody is lost just if no two members prove the same role and none of them is the project
manager. The deduplication never loses anybody: a member that it drops has the address of one that
it keeps. -/
theorem losesNobody_iff [Floats F] (existing : Option (Dict F)) (rawMembers : List (RawMember F)) :
    LosesNobody existing rawMembers ↔
      Dedup.Distinct provenRole (dedupeGroupMembers rawMembers) ∧
        textOr ((existing.getD []).get "project_manager") ∉
          (dedupeGroupMembers rawMembers).map personLabel := by
  have hmanager : (classifyRelatedPeople existing
      (dedupeGroupMembers rawMembers)).projectManager =
        textOr ((existing.getD []).get "project_manager") :=
    projectManager_foldl_classifyMember _ _
  have hnamed := perm_named_iff existing (distinct_dedupeGroupMembers rawMembers)
  constructor
  · intro h
    exact ⟨hnamed.mp h.named, hmanager ▸ h.manager⟩
  · rintro ⟨hroles, hother⟩
    exact
      { usable := fun m hm => by
          obtain ⟨raw, hraw⟩ := toMember_of_mem hm
          exact (toMember_email hraw).1
        distinct := nodup_key_dedupeGroupMembers rawMembers
        first := find?_dedupeGroupMembers rawMembers
        again := dedupeGroupMembers_again rawMembers
        named := hnamed.mpr hroles
        manager := hmanager ▸ hother }

end Classification

/-! ### Two people of one role -/

section Example

open Py.Whole

/-- Two members whose titles prove the same role. -/
def commercialPair : List (RawMember ℤ) :=
  [.value (.dict [("displayName", .str "Ann"), ("mail", .str "ann@corp.test"),
      ("jobTitle", .str "Commercial Manager")]),
    .value (.dict [("displayName", .str "Bob"), ("mail", .str "bob@corp.test"),
      ("jobTitle", .str "Commercial Engineer")])]

/-- Of two commercial managers the second is named nowhere. -/
theorem not_losesNobody_commercialPair : ¬ LosesNobody none commercialPair := by
  intro h
  have hlength : (classifyRelatedPeople (none : Option (Dict ℤ))
      (dedupeGroupMembers commercialPair)).named.length ≠
      ((dedupeGroupMembers commercialPair).map personLabel).length := by
    decide +kernel
  exact hlength h.named.length_eq

end Example

end DecisionCenter.Mappings
