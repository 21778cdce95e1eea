import DecisionCenter.Py.Value
import DecisionCenter.Review.Endpoints

/-!
# Who calls the API

`_extract_claims` of `apps/edr/app.py` and `EntraJWTValidator.validate` of
`apps/edr/auth/validator.py`. The signature, the issuer, the audience and the expiry of a token
are the business of PyJWT and are a parameter: given a token, it answers with the claims of the
payload or raises.

A caller is admitted to an endpoint with the role that is highest among those of a token for the
configured tenant and client, in whatever order and beside whatever else the token lists them;
outside production, and only where Entra is not configured, with the role that a header names.
`authenticates_iff` is this statement for every setting, every pair of headers and every token,
in both directions, so that nobody else passes and nobody who should is turned away.

What `validate` reads of a payload is kept with its types: a claim can be missing, or be
something else than a text or a list of texts, and such a claim counts as absent where the
source's `isinstance` and `str` make it so.

The role that counts is found by a search through the list of precedence;
`primaryRole_eq_some_iff` says that this is the highest one granted, whatever the order of the
token's list, since a search finds the element of least index that it looks for.
-/

namespace DecisionCenter.Auth

open Py Review

variable {F : Type}

/-! ### The validator -/

/-- `_ROLE_PRECEDENCE` -/
def rolePrecedence : List String :=
  ["admin", "executive", "project_manager", "finance", "commercial", "document_control",
    "procurement", "legal", "auditor"]

/-- The claims of a token that `validate` reads. -/
structure TokenPayload (F : Type) where
  oid : Option String
  roles : Option (Value F)

/-- `jwt.decode` with the signing key of the token, for a tenant and a client; `none` where one of
them raises. -/
abbrev TokenCheck (F : Type) := (tenantId clientId token : String) → Option (TokenPayload F)

/-- `isinstance(r, str)` -/
def asText? : Value F → Option String
  | .str s => some s
  | _ => none

/-- `roles`; `none` where the claim is no iterable. -/
def tokenRoles (payload : TokenPayload F) : Option (List String) :=
  (payload.roles.getD (.list [])).iter.toOption.map fun roles => roles.filterMap asText?

/-- `primary` -/
def primaryRole (roles : List String) : Option String :=
  (rolePrecedence.find? fun r => decide (r ∈ roles)).or roles.head?

/-- `EntraJWTValidator(tenant_id, client_id).validate(token)`; `none` where it raises. -/
def validate (check : TokenCheck F) (tenantId clientId token : String) : Option Claims := do
  let payload ← check tenantId clientId token
  let roles ← tokenRoles payload
  let oid ← payload.oid
  return ⟨oid, primaryRole roles⟩

/-! ### The request -/

/-- The settings that are read. -/
structure AuthSettings where
  appEnv : String
  entraClientId : Option String
  entraTenantId : Option String

/-- The headers that are read. -/
structure AuthHeaders where
  authorization : Option String
  xUserRole : Option String
  xUserId : Option String

/-- The tenant and the client, if both are configured. -/
def AuthSettings.entra? (s : AuthSettings) : Option (String × String) := do
  let clientId ← s.entraClientId.filter (· ≠ "")
  let tenantId ← s.entraTenantId.filter (· ≠ "")
  return (tenantId, clientId)

/-- `x_user_role or x_user_id` -/
def AuthHeaders.bypasses (h : AuthHeaders) : Bool :=
  (h.xUserRole.filter (· ≠ "")).isSome || (h.xUserId.filter (· ≠ "")).isSome

/-- The token of `Bearer <token>`. -/
def bearerToken? (authorization : String) : Option String :=
  if "Bearer ".toList.isPrefixOf authorization.toList then
    some (String.ofList (authorization.toList.drop "Bearer ".length))
  else none

/-- `_extract_claims` -/
def extractClaims (s : AuthSettings) (check : TokenCheck F) (h : AuthHeaders) :
    Except HttpError Claims :=
  if s.appEnv = "production" ∧ h.bypasses = true then
    .error ⟨400, "dev bypass headers are not accepted in production"⟩
  else match s.entra? with
    | some (tenantId, clientId) => match h.authorization.bind bearerToken? with
      | none => .error ⟨401, "Authorization: Bearer <token> required"⟩
      | some token => match validate check tenantId clientId token with
        | some claims => .ok claims
        | none => .error ⟨401, "Invalid token"⟩
    | none =>
      if s.appEnv = "production" then
        .error ⟨500, "ENTRA_CLIENT_ID not configured in production"⟩
      else .ok ⟨h.xUserId.getD "", h.xUserRole⟩

/-! ### The effective role -/

/-- The place of a role in the order of privilege. -/
def rank (r : Role) : ℕ := rolePrecedence.idxOf r.value

/-- The role is granted, and no other granted role precedes it. -/
def Highest (roles : List String) (role : Role) : Prop :=
  role.value ∈ roles ∧ ∀ r : Role, r.value ∈ roles → rank role ≤ rank r

private theorem mem_rolePrecedence_iff (s : String) :
    s ∈ rolePrecedence ↔ ∃ r : Role, r.value = s := by
  constructor
  · intro h
    simp only [rolePrecedence, List.mem_cons, List.not_mem_nil, or_false] at h
    rcases h with rfl | rfl | rfl | rfl | rfl | rfl | rfl | rfl | rfl
    · exact ⟨.admin, rfl⟩
    · exact ⟨.executive, rfl⟩
    · exact ⟨.projectManager, rfl⟩
    · exact ⟨.finance, rfl⟩
    · exact ⟨.commercial, rfl⟩
    · exact ⟨.documentControl, rfl⟩
    · exact ⟨.procurement, rfl⟩
    · exact ⟨.legal, rfl⟩
    · exact ⟨.auditor, rfl⟩
  · rintro ⟨r, rfl⟩
    cases r <;> simp [rolePrecedence, Role.value]

/-- A search finds the element of least index that it looks for. With it a search by precedence is a
statement on positions in the list of roles. -/
theorem find?_eq_some_iff_idxOf {α : Type} [DecidableEq α] {p : α → Bool} {l : List α} {a : α} :
    l.find? p = some a ↔ a ∈ l ∧ p a = true ∧ ∀ b ∈ l, p b = true → l.idxOf a ≤ l.idxOf b := by
  induction l with
  | nil => simp
  | cons x l ih =>
    by_cases hx : p x = true
    · rw [List.find?_cons_of_pos hx, Option.some_inj]
      constructor
      · rintro rfl
        refine ⟨List.mem_cons_self, hx, fun b _ _ => ?_⟩
        rw [List.idxOf_cons_self]
        exact Nat.zero_le _
      · rintro ⟨-, -, hleast⟩
        have hle := hleast x List.mem_cons_self hx
        rw [List.idxOf_cons_self, Nat.le_zero] at hle
        by_contra hne
        rw [List.idxOf_cons_ne _ hne] at hle
        cases hle
    · rw [List.find?_cons_of_neg hx, ih]
      -- what is found is not the head, so both indices are one more than in the tail
      have hne {b : α} (hb : p b = true) : x ≠ b := by
        rintro rfl
        exact hx hb
      constructor
      · rintro ⟨ha, hpa, hleast⟩
        refine ⟨List.mem_cons_of_mem x ha, hpa, fun b hb hpb => ?_⟩
        have hb' : b ∈ l := (List.mem_cons.mp hb).resolve_left (hne hpb).symm
        rw [List.idxOf_cons_ne _ (hne hpa), List.idxOf_cons_ne _ (hne hpb)]
        exact Nat.succ_le_succ (hleast b hb' hpb)
      · rintro ⟨ha, hpa, hleast⟩
        refine ⟨(List.mem_cons.mp ha).resolve_left (hne hpa).symm, hpa, fun b hb hpb => ?_⟩
        have hle := hleast b (List.mem_cons_of_mem x hb) hpb
        rw [List.idxOf_cons_ne _ (hne hpa), List.idxOf_cons_ne _ (hne hpb)] at hle
        exact Nat.le_of_succ_le_succ hle

private theorem find?_precedence_iff (roles : List String) (role : Role) :
    (rolePrecedence.find? fun r => decide (r ∈ roles)) = some role.value ↔ Highest roles role := by
  rw [find?_eq_some_iff_idxOf, decide_eq_true_eq]
  constructor
  · rintro ⟨-, hmem, hleast⟩
    refine ⟨hmem, fun r hr => hleast r.value ?_ (decide_eq_true hr)⟩
    exact (mem_rolePrecedence_iff _).mpr ⟨r, rfl⟩
  · rintro ⟨hmem, hleast⟩
    refine ⟨(mem_rolePrecedence_iff _).mpr ⟨role, rfl⟩, hmem, fun s hs hgranted => ?_⟩
    obtain ⟨r, rfl⟩ := (mem_rolePrecedence_iff s).mp hs
    exact hleast r (of_decide_eq_true hgranted)

private theorem value_ne_empty (r : Role) : r.value ≠ "" := by cases r <;> decide

/-- The role of valid claims is the one that they name. -/
private theorem validatedRole_eq_ok_iff {claims : Claims} {role : Role} :
    validatedRole claims = .ok role ↔ claims.role = some role.value := by
  constructor
  · intro h
    rw [validatedRole] at h
    split at h
    · cases h
    next s hs =>
    split at h
    · next r hr =>
      cases h
      rw [Role.value_of_ofValue? hr]
      exact (Option.filter_eq_some_iff.mp hs).1
    · cases h
  · intro h
    have hfilter : claims.role.filter (· ≠ "") = some role.value := by
      rw [h, Option.filter_some_pos (by simpa using value_ne_empty role)]
    rw [validatedRole, hfilter]
    dsimp only
    rw [Role.ofValue?_value]

/-- The role that counts is the highest one granted. -/
theorem primaryRole_eq_some_iff (roles : List String) (role : Role) :
    primaryRole roles = some role.value ↔ Highest roles role := by
  rw [← find?_precedence_iff, primaryRole]
  cases hfind : rolePrecedence.find? fun r => decide (r ∈ roles) with
  | some s => rfl
  | none =>
    rw [Option.none_or]
    refine iff_of_false (fun hhead => ?_) (by rintro ⟨⟩)
    have hnot := List.find?_eq_none.mp hfind _ ((mem_rolePrecedence_iff _).mpr ⟨role, rfl⟩)
    exact hnot (decide_eq_true (List.mem_of_mem_head? hhead))

/-! ### Admission -/

/-- A token is what stands behind the scheme. -/
private theorem bearerToken?_eq_some_iff {authorization token : String} :
    bearerToken? authorization = some token ↔ authorization = "Bearer " ++ token := by
  have hdrop (rest : List Char) :
      ("Bearer ".toList ++ rest).drop "Bearer ".length = rest := List.drop_left
  rw [bearerToken?]
  constructor
  · intro h
    split at h
    · next hpre =>
      obtain ⟨rest, hrest⟩ := List.isPrefixOf_iff_prefix.mp hpre
      rw [← hrest, hdrop] at h
      cases h
      refine String.toList_injective ?_
      rw [← hrest, String.toList_append]
      exact congrArg ("Bearer ".toList ++ ·) (String.toList_ofList (l := rest)).symm
    · cases h
  · rintro rfl
    rw [String.toList_append, hdrop, String.ofList_toList]
    exact if_pos (List.isPrefixOf_iff_prefix.mpr (List.prefix_append _ _))

private theorem entra?_eq_some_iff {s : AuthSettings} {tenantId clientId : String} :
    s.entra? = some (tenantId, clientId) ↔ s.entraTenantId = some tenantId ∧ tenantId ≠ "" ∧
      s.entraClientId = some clientId ∧ clientId ≠ "" := by
  simp only [AuthSettings.entra?, Option.bind_eq_bind, Option.bind_eq_some_iff,
    Option.filter_eq_some_iff, decide_eq_true_eq, pure, Option.some.injEq, Prod.mk.injEq]
  constructor
  · rintro ⟨_, ⟨hclient, hne⟩, _, ⟨htenant, hne'⟩, rfl, rfl⟩
    exact ⟨htenant, hne', hclient, hne⟩
  · rintro ⟨htenant, hne', hclient, hne⟩
    exact ⟨_, ⟨hclient, hne⟩, _, ⟨htenant, hne'⟩, rfl, rfl⟩

private theorem validate_eq_some_iff {check : TokenCheck F} {tenantId clientId token : String}
    {claims : Claims} : validate check tenantId clientId token = some claims ↔
      ∃ payload roles, check tenantId clientId token = some payload ∧
        tokenRoles payload = some roles ∧ payload.oid = some claims.userId ∧
          claims.role = primaryRole roles := by
  simp only [validate, Option.bind_eq_bind, Option.bind_eq_some_iff, pure, Option.some.injEq]
  constructor
  · rintro ⟨payload, hcheck, roles, hroles, oid, hoid, rfl⟩
    exact ⟨payload, roles, hcheck, hroles, hoid, rfl⟩
  · rintro ⟨payload, roles, hcheck, hroles, hoid, hrole⟩
    refine ⟨payload, hcheck, roles, hroles, claims.userId, hoid, ?_⟩
    rw [← hrole]

/-- The ways to be admitted to an endpoint, as a user in a role. -/
inductive Admitted (s : AuthSettings) (check : TokenCheck F) (h : AuthHeaders) (userId : String)
    (role : Role) : Prop
  /-- By a token for the configured tenant and client, in the highest role that it grants. -/
  | token {tenantId clientId token : String} {payload : TokenPayload F} {roles : List String}
    (hheaders : s.appEnv = "production" → h.bypasses = false)
    (htenant : s.entraTenantId = some tenantId) (htenant' : tenantId ≠ "")
    (hclient : s.entraClientId = some clientId) (hclient' : clientId ≠ "")
    (hbearer : h.authorization = some ("Bearer " ++ token))
    (hcheck : check tenantId clientId token = some payload) (huser : payload.oid = some userId)
    (hroles : tokenRoles payload = some roles) (hrole : Highest roles role)
  /-- By the headers of local development, where Entra is not configured. -/
  | bypass (henv : s.appEnv ≠ "production") (hentra : s.entra? = none)
    (huser : h.xUserId.getD "" = userId) (hrole : h.xUserRole = some role.value)

/-- The claims that are extracted are those of a token or, outside production, of the headers. In
production the headers that bypass the token are refused before anything is read. -/
theorem extractClaims_eq_ok_iff {s : AuthSettings} {check : TokenCheck F} {h : AuthHeaders}
    {claims : Claims} : extractClaims s check h = .ok claims ↔
      ¬ (s.appEnv = "production" ∧ h.bypasses = true) ∧
        ((∃ tenantId clientId token, s.entra? = some (tenantId, clientId) ∧
          h.authorization = some ("Bearer " ++ token) ∧
            validate check tenantId clientId token = some claims) ∨
          s.entra? = none ∧ s.appEnv ≠ "production" ∧
            claims = ⟨h.xUserId.getD "", h.xUserRole⟩) := by
  rw [extractClaims]
  split
  · next hbypass => exact iff_of_false (by rintro ⟨⟩) fun h' => h'.1 hbypass
  next hbypass =>
  rw [and_iff_right hbypass]
  split
  -- Entra is configured: the bearer token decides
  · next tenantId clientId hentra =>
    have htoken (token : String) : h.authorization = some ("Bearer " ++ token) ↔
        h.authorization.bind bearerToken? = some token := by
      rw [Option.bind_eq_some_iff]
      simp only [bearerToken?_eq_some_iff]
      exact ⟨fun h' => ⟨_, h', rfl⟩, by rintro ⟨_, h', rfl⟩; exact h'⟩
    simp only [htoken, hentra, Option.some.injEq, Prod.mk.injEq]
    split
    · next hnone =>
      refine iff_of_false (by rintro ⟨⟩) ?_
      rintro (⟨_, _, _, -, hsome, -⟩ | ⟨hnot, -⟩)
      · rw [hnone] at hsome
        cases hsome
      · cases hnot
    · next token hsome =>
      rw [hsome]
      cases hvalid : validate check tenantId clientId token with
      | none =>
        refine iff_of_false (by rintro ⟨⟩) ?_
        rintro (⟨_, _, _, ⟨rfl, rfl⟩, ⟨⟩, hsome⟩ | ⟨hnot, -⟩)
        · rw [hvalid] at hsome
          cases hsome
        · cases hnot
      | some claims' =>
        constructor
        · rintro ⟨⟩
          exact .inl ⟨_, _, _, ⟨rfl, rfl⟩, rfl, hvalid⟩
        · rintro (⟨_, _, _, ⟨rfl, rfl⟩, ⟨⟩, hsome⟩ | ⟨hnot, -⟩)
          · cases hvalid.symm.trans hsome
            rfl
          · cases hnot
  -- Entra is not configured: the headers count, but not in production
  · next hentra =>
    rw [hentra]
    split
    · next henv =>
      refine iff_of_false (by rintro ⟨⟩) ?_
      rintro (⟨_, _, _, hnot, -⟩ | ⟨-, hne, -⟩)
      · cases hnot
      · exact hne henv
    · next henv =>
      constructor
      · rintro ⟨⟩
        exact .inr ⟨rfl, henv, rfl⟩
      · rintro (⟨_, _, _, hnot, -⟩ | ⟨-, -, rfl⟩)
        · cases hnot
        · rfl

/-- Who passes the checks of an endpoint, and in which role: the token is verified by the library,
which is a parameter, and of its claims the role and the id are required as `validatedRole` has
them. -/
theorem authenticates_iff (s : AuthSettings) (check : TokenCheck F) (h : AuthHeaders)
    (userId : String) (role : Role) :
    (∃ claims, extractClaims s check h = .ok claims ∧ claims.userId = userId ∧
      validatedRole claims = .ok role) ↔ Admitted s check h userId role := by
  simp only [extractClaims_eq_ok_iff, validatedRole_eq_ok_iff]
  constructor
  · rintro ⟨claims, ⟨hbypass, ⟨tenantId, clientId, token, hentra, hbearer, hvalid⟩ |
      ⟨hentra, henv, rfl⟩⟩, rfl, hrole⟩
    · obtain ⟨htenant, htenant', hclient, hclient'⟩ := entra?_eq_some_iff.mp hentra
      obtain ⟨payload, roles, hcheck, hroles, huser, hprimary⟩ := validate_eq_some_iff.mp hvalid
      have hhighest : Highest roles role :=
        (primaryRole_eq_some_iff roles role).mp (hprimary.symm.trans hrole)
      refine .token (fun henv => ?_) htenant htenant' hclient hclient' hbearer hcheck huser hroles
        hhighest
      exact Bool.eq_false_iff.mpr fun h' => hbypass ⟨henv, h'⟩
    · exact .bypass henv hentra rfl hrole
  · intro hadmitted
    cases hadmitted with
    | @token tenantId clientId token payload roles hheaders htenant htenant' hclient hclient'
        hbearer hcheck huser hroles hrole =>
      refine ⟨⟨userId, primaryRole roles⟩, ⟨?_, .inl ⟨tenantId, clientId, token, ?_, hbearer, ?_⟩⟩,
        rfl, (primaryRole_eq_some_iff roles role).mpr hrole⟩
      · rintro ⟨henv, hbypasses⟩
        rw [hheaders henv] at hbypasses
        cases hbypasses
      · exact entra?_eq_some_iff.mpr ⟨htenant, htenant', hclient, hclient'⟩
      · exact validate_eq_some_iff.mpr ⟨payload, roles, hcheck, hroles, huser, rfl⟩
    | bypass henv hentra huser hrole =>
      refine ⟨⟨userId, h.xUserRole⟩, ⟨fun h' => henv h'.1, .inr ⟨hentra, henv, ?_⟩⟩, rfl, hrole⟩
      rw [huser]

end DecisionCenter.Auth
