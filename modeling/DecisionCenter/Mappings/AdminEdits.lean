import DecisionCenter.Mappings.Handlers
import DecisionCenter.Py.Whole

/-!
# What an admin has said, against the automations

An admin's `PUT` says what all columns of a row hold, and `disable` what its status is. A
handler that automates a mapping may rewrite the columns it owns, and should leave the others as
the admin has said. It writes the whole row, though, from what it has read some awaits before.
Nothing the admin has said is lost in a run in which no handler writes a row on top of an edit
it has not read, or on top of a `disable`.

What is said is recorded next to the run. `Intent` has, for each project, how often it was put,
for each column the body that says it, unless an automation which owns the column has written it
since, and whether the project has been disabled; `Intent.Stands` compares it with the table,
column by column. A column is compared as JSON whose entries have no order (`Same`), since the
database keeps none. `Watched` are the handlers with this record, and the tables that their
pending writes were made from.

`Careful` is the condition on a step: a handler writes no row of a project for which something
has been said that it has not read, in a column it does not own, nor activates a disabled one,
and a statement of `init_schema` respects what has been said.

The invariant is about writes that are pending. A row made from a table in which all stands
holds what was said then (`pending_writes`), and stays good as long as no new edit of its
project lands (`Pending.record`). `stands_throughout` follows for every interleaving, from any
table. A confirmation that reads before a `PUT` and writes after it is the failing run.
-/

namespace DecisionCenter.Mappings

open Async.Run Py

variable {F : Type}

/-! ### Columns -/

/-- The columns a request body says. -/
inductive Column where
  | projectName | contractNumbers | sharepoint | owncloud | email | microsoft | odoo
  | relatedPeople | enabledSources | allowedRoles
  deriving DecidableEq, Repr

namespace Column

/-- Two rows have the same in the column. -/
def Same (r r' : MappingRow F) : Column → Prop
  | projectName => r.projectName = r'.projectName
  | contractNumbers => r.contractNumbers = r'.contractNumbers
  | sharepoint => r.sharepoint = r'.sharepoint
  | owncloud => r.owncloud = r'.owncloud
  | email => r.email = r'.email
  | microsoft => r.microsoft = r'.microsoft
  | odoo => r.odoo = r'.odoo
  | relatedPeople => r.relatedPeople = r'.relatedPeople
  | enabledSources => r.enabledSources = r'.enabledSources
  | allowedRoles => r.allowedRoles = r'.allowedRoles

/-- Two bodies say the same of the column. -/
def Agree (b b' : SourceMappingUpsertRequest) : Column → Prop
  | projectName => b.projectName = b'.projectName
  | contractNumbers => b.contractNumbers = b'.contractNumbers
  | sharepoint => b.sharepoint = b'.sharepoint
  | owncloud => b.owncloud = b'.owncloud
  | email => b.email = b'.email
  | microsoft => b.microsoft = b'.microsoft
  | odoo => b.odoo = b'.odoo
  | relatedPeople => b.relatedPeople = b'.relatedPeople
  | enabledSources => b.enabledSources = b'.enabledSources
  | allowedRoles => b.allowedRoles = b'.allowedRoles

/-- The row holds in the column what the body says. -/
def Holds (body : SourceMappingUpsertRequest) (r : MappingRow F) (c : Column) : Prop :=
  c.Same (body.row r.projectCode r.mappingStatus) r

/-- A column is the same as itself. -/
theorem Same.refl (r : MappingRow F) (c : Column) : c.Same r r := by
  cases c <;> rfl

/-- What a column holds is also held by one that is the same JSON. -/
theorem Holds.same {body : SourceMappingUpsertRequest} {r r' : MappingRow F} {c : Column}
    (h : c.Holds body r) (hsame : c.Same r r') : c.Holds body r' := by
  cases c <;> exact Eq.trans h hsame

/-- Every body agrees with itself. -/
theorem Agree.refl (b : SourceMappingUpsertRequest) (c : Column) : c.Agree b b := by
  cases c <;> rfl

/-- Agreement goes from one body to the next. -/
theorem Agree.trans {b b' b'' : SourceMappingUpsertRequest} {c : Column} (h : c.Agree b b')
    (h' : c.Agree b' b'') : c.Agree b b'' := by
  cases c <;> exact Eq.trans h h'

/-- A row stored from a body holds what that body says, and all bodies that agree with it. -/
theorem holds_row {b body : SourceMappingUpsertRequest} {c : Column} (h : c.Agree b body)
    (code status : String) : c.Holds b (body.row code status : MappingRow F) := by
  cases c
  case projectName => exact h
  case contractNumbers => exact h
  case sharepoint => exact congrArg SourceMappingSharePoint.dump h
  case owncloud => exact congrArg SourceMappingOwnCloud.dump h
  case email => exact congrArg SourceMappingEmail.dump h
  case microsoft => exact congrArg SourceMappingMicrosoft.dump h
  case odoo => exact congrArg SourceMappingOdoo.dump h
  case relatedPeople => exact congrArg RelatedPeople.dump h
  case enabledSources => exact h
  case allowedRoles => exact h

/-- What a handler reads of a row is what the row holds. A column that holds a dumped part is read
as that part. -/
theorem agree_of_holds [Text] [Floats F] {b body : SourceMappingUpsertRequest} {r : MappingRow F}
    {c : Column} (h : c.Holds b r) (hbody : r.body = .ok body) : c.Agree b body := by
  have hreads : ReadsBody r body := body_eq_ok.mp hbody
  cases c
  case projectName => exact Eq.trans h hreads.projectName.symm
  case contractNumbers => exact Eq.trans h hreads.contractNumbers.symm
  case sharepoint =>
    have hdump : b.sharepoint.dump = r.sharepoint := h
    exact Except.ok.inj ((sharepointOf_dump b.sharepoint).symm.trans (hdump ▸ hreads.sharepoint))
  case owncloud =>
    have hdump : b.owncloud.dump = r.owncloud := h
    have hpath := hreads.owncloud
    rw [← hdump] at hpath
    exact congrArg SourceMappingOwnCloud.mk (Except.ok.inj hpath)
  case email =>
    have hdump : b.email.dump = r.email := h
    exact Except.ok.inj ((emailOf_dump b.email).symm.trans (hdump ▸ hreads.email))
  case microsoft =>
    have hdump : b.microsoft.dump = r.microsoft := h
    exact Except.ok.inj ((microsoftOf_dump b.microsoft).symm.trans (hdump ▸ hreads.microsoft))
  case odoo =>
    have hdump : b.odoo.dump = r.odoo := h
    exact Except.ok.inj ((odooOf_dump b.odoo).symm.trans (hdump ▸ hreads.odoo))
  case relatedPeople =>
    have hdump : b.relatedPeople.dump = r.relatedPeople := h
    exact Except.ok.inj
      ((relatedPeopleOf_dump b.relatedPeople).symm.trans (hdump ▸ hreads.relatedPeople))
  case enabledSources => exact Eq.trans h hreads.enabledSources.symm
  case allowedRoles => exact Eq.trans h hreads.allowedRoles.symm

end Column

/-! ### What an endpoint owns -/

/-- The columns an automation may rewrite. -/
def Edit.owns : Edit → Column → Bool
  | .enrich _ _, c => decide (c ∈ [.email, .microsoft, .owncloud, .relatedPeople, .enabledSources])
  | .confirm _ _, c => decide (c ∈ [.sharepoint, .email])
  | _, _ => false

/-- A confirmation leaves the columns that it does not own. -/
theorem agree_confirm {code : String} {req : MicrosoftMappingConfirmRequest}
    (existing : SourceMappingUpsertRequest) {c : Column}
    (h : (Edit.confirm code req).owns c = false) : c.Agree existing (req.merge existing) := by
  cases c <;> first | rfl | cases h

/-- An enrichment leaves the columns that it does not own. -/
theorem agree_enrich [Text] {requested : List String}
    {results : Option (List EmailGroupProjectResult)} (result : EmailGroupProjectResult)
    (existing : SourceMappingUpsertRequest) {c : Column}
    (h : (Edit.enrich requested results).owns c = false) :
    c.Agree existing (result.merge existing) := by
  cases c <;> first | rfl | cases h

/-! ### The record of what the admin has said -/

/-- What the admin has said. -/
structure Intent where
  /-- How many `PUT`s of a project have landed. -/
  puts : String → ℕ
  /-- The body that says the column, unless an automation that owns the column has written it
  since. -/
  edited : String → Column → Option SourceMappingUpsertRequest
  /-- The project has been disabled, and no `PUT` has come since. -/
  disabled : String → Bool

/-- A write of an endpoint lands in a table. -/
def Intent.record (t : Intent) (rows : List (MappingRow F)) (e : Edit) (op : Write F) : Intent :=
  match e with
  | .put code body =>
    { puts := Function.update t.puts code (t.puts code + 1)
      edited := Function.update t.edited code fun _ => some body
      disabled := Function.update t.disabled code false }
  | e =>
    match op with
    | .disable code =>
      if (getSourceMapping code rows).isSome then
        { t with disabled := Function.update t.disabled code true }
      else t
    | .upsert w =>
      { t with
        edited := Function.update t.edited w.projectCode fun c =>
          if e.owns c then none else t.edited w.projectCode c }

/-- What the admin has said stands in the table. -/
structure Intent.Stands (t : Intent) (rows : List (MappingRow F)) : Prop where
  edited : ∀ code c body, t.edited code c = some body →
    ∃ r, getSourceMapping code rows = some r ∧ c.Holds body r
  disabled : ∀ code, t.disabled code = true →
    ∃ r, getSourceMapping code rows = some r ∧ r.mappingStatus = "disabled"

/-! ### What lands -/

namespace Intent

variable {t : Intent} {rows : List (MappingRow F)}

/-- A `PUT` of a project is counted; nothing else adds to what is said of its columns. The count
tells a handler's reading that is out of date from one that is not. -/
theorem record_cases (t : Intent) (rows : List (MappingRow F)) (e : Edit) (op : Write F)
    (code : String) :
    (∃ body, e = .put code body ∧ (t.record rows e op).puts code = t.puts code + 1) ∨
      ((t.record rows e op).puts code = t.puts code ∧
        ∀ c body, (t.record rows e op).edited code c = some body →
          t.edited code c = some body) := by
  -- an upsert can only forget columns, those that the edit owns
  have hupsert : ∀ (e : Edit) (w : MappingRow F) c body,
      Function.update t.edited w.projectCode
        (fun c => if e.owns c then none else t.edited w.projectCode c) code c = some body →
      t.edited code c = some body := by
    intro e w c body h
    by_cases hcode : code = w.projectCode
    · subst hcode
      rw [Function.update_self] at h
      split at h
      · cases h
      · exact h
    · rwa [Function.update_of_ne hcode] at h
  cases e with
  | put code' body =>
    by_cases hcode : code = code'
    · subst hcode
      exact .inl ⟨body, rfl, Function.update_self ..⟩
    · refine .inr ⟨Function.update_of_ne hcode .., fun c b h => ?_⟩
      have hedited : (t.record rows (.put code' body) op).edited code = t.edited code :=
        Function.update_of_ne hcode ..
      rwa [hedited] at h
  | _ =>
    right
    cases op with
    | upsert w => exact ⟨rfl, hupsert _ w⟩
    | disable code' =>
      dsimp only [record]
      split
      · exact ⟨rfl, fun _ _ h => h⟩
      · exact ⟨rfl, fun _ _ h => h⟩

/-- The rows are migrated one by one. -/
theorem Stands.map (h : t.Stands rows) {rows' : List (MappingRow F)}
    {f : MappingRow F → MappingRow F}
    (hrows' : ∀ code r, getSourceMapping code rows = some r →
      getSourceMapping code rows' = some (f r))
    (hedited : ∀ code r, getSourceMapping code rows = some r →
      ∀ c, (t.edited code c).isSome → c.Same r (f r))
    (hdisabled : ∀ code r, getSourceMapping code rows = some r → t.disabled code = true →
      (f r).mappingStatus = r.mappingStatus) : t.Stands rows' where
  edited code c body hbody := by
    obtain ⟨r, hr, hholds⟩ := h.edited code c body hbody
    exact ⟨f r, hrows' code r hr,
      hholds.same (hedited code r hr c (Option.isSome_of_eq_some hbody))⟩
  disabled code hcode := by
    obtain ⟨r, hr, hstatus⟩ := h.disabled code hcode
    exact ⟨f r, hrows' code r hr, (hdisabled code r hr hcode).trans hstatus⟩

/-- A row is written that holds what is still said of its columns. What is said of other projects is
looked up in other rows. -/
theorem Stands.upsert (h : t.Stands rows) {t' : Intent} {w : MappingRow F}
    (hother : ∀ code, code ≠ w.projectCode →
      t'.edited code = t.edited code ∧ t'.disabled code = t.disabled code)
    (hedited : ∀ c body, t'.edited w.projectCode c = some body → c.Holds body w)
    (hdisabled : t'.disabled w.projectCode = false) :
    t'.Stands (upsertSourceMapping w rows) where
  edited code c body hbody := by
    rw [upsertSourceMapping, getSourceMapping, Table.lookup_upsert]
    by_cases hcode : code = w.projectCode
    · rw [if_pos hcode]
      exact ⟨w, rfl, hedited c body (hcode ▸ hbody)⟩
    · rw [if_neg hcode]
      exact h.edited code c body ((hother code hcode).1 ▸ hbody)
  disabled code hcode' := by
    rw [upsertSourceMapping, getSourceMapping, Table.lookup_upsert]
    by_cases hcode : code = w.projectCode
    · rw [hcode, hdisabled] at hcode'
      cases hcode'
    · rw [if_neg hcode]
      exact h.disabled code ((hother code hcode).2 ▸ hcode')

/-- A `PUT` that lands is what the admin has said from then on. -/
theorem Stands.put [Text] (h : t.Stands rows) (owncloudConfigured : Bool) (code : String)
    (body : SourceMappingUpsertRequest) (op : Write F) :
    (t.record rows (.put code body) op).Stands
      (upsertSourceMapping (storedRow owncloudConfigured code body) rows) := by
  refine h.upsert (fun c hc => ⟨Function.update_of_ne hc .., Function.update_of_ne hc ..⟩) ?_
    (Function.update_self ..)
  intro c b hb
  have hself : (t.record rows (.put code body) op).edited code = fun _ => some body :=
    Function.update_self ..
  change (t.record rows (.put code body) op).edited code c = some b at hb
  rw [hself] at hb
  obtain rfl := Option.some.inj hb
  exact Column.holds_row (Column.Agree.refl body c) code _

/-- An automation writes a row that keeps what the admin has said of the columns it does not
own. -/
theorem Stands.automation (h : t.Stands rows) {e : Edit} (hput : ∀ code body, e ≠ .put code body)
    {w : MappingRow F} (hdisabled : t.disabled w.projectCode = false)
    (hkeeps : ∀ c body, e.owns c = false → t.edited w.projectCode c = some body →
      c.Holds body w) :
    (t.record rows e (.upsert w)).Stands (upsertSourceMapping w rows) := by
  have hrecord : t.record rows e (.upsert w) =
      { t with
        edited := Function.update t.edited w.projectCode fun c =>
          if e.owns c then none else t.edited w.projectCode c } := by
    cases e with
    | put code body => exact absurd rfl (hput code body)
    | _ => rfl
  rw [hrecord]
  refine h.upsert (fun c hc => ⟨Function.update_of_ne hc .., rfl⟩) ?_ hdisabled
  intro c body hbody
  dsimp only at hbody
  rw [Function.update_self] at hbody
  split at hbody
  · cases hbody
  · next howns => exact hkeeps c body (Bool.eq_false_iff.mpr howns) hbody

/-- A `disable` that lands is what the admin has said of the status; the columns stay as they are.
-/
theorem Stands.disable (h : t.Stands rows) (code : String) :
    (t.record rows (.disable code) (.disable code)).Stands (disableSourceMapping code rows) := by
  have hrows' : ∀ c r, getSourceMapping c rows = some r →
      getSourceMapping c (disableSourceMapping code rows) =
        some (if r.projectCode = code then { r with mappingStatus := "disabled" } else r) := by
    intro c r hr
    rw [getSourceMapping_disable, hr, Option.map_some]
  -- disabling changes the status, which is no column of the intent
  have hsame : ∀ (c : Column) (r : MappingRow F),
      c.Same r (if r.projectCode = code then { r with mappingStatus := "disabled" } else r) := by
    intro c r
    split
    · cases c <;> rfl
    · exact Column.Same.refl r c
  have hold : t.Stands (disableSourceMapping code rows) := by
    refine h.map hrows' (fun _ r _ c _ => hsame c r) fun c r hr hc => ?_
    obtain ⟨r', hr', hstatus⟩ := h.disabled c hc
    obtain rfl := Option.some.inj (hr.symm.trans hr')
    split
    · exact hstatus.symm
    · rfl
  dsimp only [record]
  split
  · next hsome =>
    obtain ⟨r, hr⟩ := Option.isSome_iff_exists.mp hsome
    refine ⟨hold.edited, fun c hc => ?_⟩
    by_cases hcode : c = code
    · subst hcode
      refine ⟨_, hrows' c r hr, ?_⟩
      rw [if_pos (Table.key_of_lookup hr)]
    · have hkept : Function.update t.disabled code true c = true := hc
      rw [Function.update_of_ne hcode] at hkept
      exact hold.disabled c hkept
  · exact hold

end Intent

/-- The handlers, watched. -/
structure Watched (F : Type) where
  world : World F
  intent : Intent
  /-- How many `PUT`s had landed when a handler read the table. -/
  seen : ℕ → String → ℕ

namespace Watched

/-- Nothing has been said. -/
def start (table : List (MappingRow F)) : Watched F where
  world := World.start table
  intent := ⟨fun _ => 0, fun _ _ => none, fun _ => false⟩
  seen _ _ := 0

/-- A statement of a migration does not change what the admin has said. -/
def Respects (s : Watched F) (stmt : Statement) : Prop :=
  ∀ code r, getSourceMapping code s.world.table = some r →
    (∀ c, (s.intent.edited code c).isSome → c.Same r (stmt.row r)) ∧
      (s.intent.disabled code = true → (stmt.row r).mappingStatus = r.mappingStatus)

/-- A handler does not write a row over what the admin has said since it has read the table, nor
over a `disable`; the synchronisation, which keeps nothing of a row, does not write one the admin
has said anything of. -/
def Overwrites (s : Watched F) (i : ℕ) (w : MappingRow F) : Edit → Prop
  | .put _ _ => False
  | .disable _ => False
  | .sync _ => (∃ c, (s.intent.edited w.projectCode c).isSome) ∨
      s.intent.disabled w.projectCode = true
  | _ => s.seen i w.projectCode ≠ s.intent.puts w.projectCode ∨
      s.intent.disabled w.projectCode = true

/-- What handler `i` does next loses nothing the admin has said. -/
def CarefulNext (s : Watched F) (i : ℕ) (h : Handler F) : Prop :=
  match h.phase with
  | .schema (stmt :: _) => s.Respects stmt
  | .writing (.upsert w :: _) => ¬ s.Overwrites i w h.edit
  | _ => True

def Careful (s : Watched F) : Action → Prop
  | .advance i => s.CarefulNext i (s.world.handler i)
  | _ => True

/-- What the admin has said once handler `h` has gone on. -/
def said (s : Watched F) (h : Handler F) : Intent :=
  match h.phase with
  | .writing (w :: _) => s.intent.record s.world.table h.edit w
  | _ => s.intent

/-- The `PUT`s that handler `i` has read once it has gone on. -/
def seenBy (s : Watched F) (i : ℕ) (h : Handler F) : String → ℕ :=
  match h.phase with
  | .schema [] => s.intent.puts
  | _ => s.seen i

section Step

variable [Text] [Floats F] (owncloudConfigured : Bool) (file : MappingFile)

def step (s : Watched F) (a : Action) : Watched F where
  world := s.world.step owncloudConfigured file a
  intent :=
    match a with
    | .advance i => s.said (s.world.handler i)
    | _ => s.intent
  seen :=
    match a with
    | .advance i => Function.update s.seen i (s.seenBy i (s.world.handler i))
    | _ => s.seen

/-! ### Writes that are pending -/

/-- A write an endpoint is left with. Where no `PUT` of the row has landed since the endpoint read
the table, the row holds what the admin has said in the columns the endpoint does not own. -/
def Pending (t : Intent) (seen : String → ℕ) : Edit → Write F → Prop
  | .put code body, op => op = .upsert (storedRow owncloudConfigured code body)
  | .disable code, op => op = .disable code
  | .sync _, op => ∃ w, op = .upsert w
  | e, op => ∃ w, op = .upsert w ∧ (seen w.projectCode = t.puts w.projectCode →
      ∀ c body, e.owns c = false → t.edited w.projectCode c = some body → c.Holds body w)

/-- What holds of every state of a run. -/
structure Inv (s : Watched F) : Prop where
  stands : s.intent.Stands s.world.table
  seen_le : ∀ i code, s.seen i code ≤ s.intent.puts code
  pending : ∀ i todo, (s.world.handler i).phase = .writing todo → ∀ op ∈ todo,
    Pending owncloudConfigured s.intent (s.seen i) (s.world.handler i).edit op

variable {owncloudConfigured} {file}

omit [Floats F] in
/-- A write that lands leaves what is pending as it was, or out of date. It is out of date if the
write was a `PUT` of the project that was read. -/
theorem Pending.record {t : Intent} {seen : String → ℕ} (hle : ∀ code, seen code ≤ t.puts code)
    {e : Edit} {op : Write F} (h : Pending owncloudConfigured t seen e op)
    (rows : List (MappingRow F)) (e' : Edit) (op' : Write F) :
    Pending owncloudConfigured (t.record rows e' op') seen e op := by
  have hcurrent : ∀ {w : MappingRow F},
      (seen w.projectCode = t.puts w.projectCode → ∀ c body, e.owns c = false →
        t.edited w.projectCode c = some body → c.Holds body w) →
      seen w.projectCode = (t.record rows e' op').puts w.projectCode →
      ∀ c body, e.owns c = false →
        (t.record rows e' op').edited w.projectCode c = some body → c.Holds body w := by
    intro w hw hseen c body howns hbody
    rcases Intent.record_cases t rows e' op' w.projectCode with ⟨_, -, hputs⟩ | ⟨hputs, hedited⟩
    · have hlt : seen w.projectCode ≤ t.puts w.projectCode := hle w.projectCode
      omega
    · exact hw (hseen.trans hputs) c body howns (hedited c body hbody)
  cases e with
  | put code body => exact h
  | disable code => exact h
  | sync pairs => exact h
  | confirm code req =>
    obtain ⟨w, hop, hw⟩ := h
    exact ⟨w, hop, hcurrent hw⟩
  | enrich requested results =>
    obtain ⟨w, hop, hw⟩ := h
    exact ⟨w, hop, hcurrent hw⟩

/-- What an endpoint makes of the table it reads holds what the admin has said. A body that is
merged with the row read has the columns that the endpoint does not own. -/
theorem pending_writes {t : Intent} {rows : List (MappingRow F)} (h : t.Stands rows)
    (seen : String → ℕ) (e : Edit) {op : Write F} (hop : op ∈ e.writes owncloudConfigured rows) :
    Pending owncloudConfigured t seen e op := by
  -- a body merged with the row that was read holds the edited columns it does not own
  have hmerged : ∀ {code c body row existing} {merged : SourceMappingUpsertRequest},
      getSourceMapping code rows = some row → row.body = .ok existing →
      c.Agree existing merged → t.edited code c = some body →
      c.Holds body (storedRow owncloudConfigured code merged : MappingRow F) := by
    intro code c body row existing merged hrow hexisting hagree hbody
    obtain ⟨r, hr, hholds⟩ := h.edited code c body hbody
    obtain rfl := Option.some.inj (hrow.symm.trans hr)
    exact Column.holds_row ((Column.agree_of_holds hholds hexisting).trans hagree) code _
  cases e with
  | put code body => exact List.mem_singleton.mp hop
  | disable code =>
    rw [Edit.writes] at hop
    split at hop
    · cases hop
    · split at hop
      · cases hop
      · exact List.mem_singleton.mp hop
  | sync pairs =>
    obtain ⟨w, -, rfl⟩ := List.mem_map.mp hop
    exact ⟨w, rfl⟩
  | confirm code req =>
    obtain ⟨w, hw, rfl⟩ := List.mem_map.mp hop
    obtain ⟨row, existing, hrow, hexisting, -, rfl⟩ :=
      confirmRow_eq_some.mp (Option.mem_toList.mp hw)
    exact ⟨_, rfl, fun _ c body howns hbody =>
      hmerged hrow hexisting (agree_confirm existing howns) hbody⟩
  | enrich requested results =>
    obtain ⟨w, hw, rfl⟩ := List.mem_map.mp hop
    rw [Edit.written] at hw
    split at hw
    · obtain ⟨result, -, hresult⟩ := List.mem_filterMap.mp hw
      obtain ⟨row, existing, hrow, hexisting, rfl⟩ := enrichRow_eq_some.mp hresult
      exact ⟨_, rfl, fun _ c body howns hbody =>
        hmerged hrow hexisting (agree_enrich result existing howns) hbody⟩
    · cases hw

omit [Floats F] in
/-- A write lands that does not overwrite what the admin has said. A write of an automation keeps it
where it was read after the last `PUT`. -/
theorem stands_write {s : Watched F} (hs : s.intent.Stands s.world.table) {i : ℕ} {e : Edit}
    {op : Write F} (hop : Pending owncloudConfigured s.intent (s.seen i) e op)
    (hcareful : ∀ w, op = .upsert w → ¬ s.Overwrites i w e) :
    (s.intent.record s.world.table e op).Stands (op.exec s.world.table) := by
  -- a write of an automation keeps the intent where it was read after the last `PUT`
  have hautomation : ∀ {w : MappingRow F}, (∀ code body, e ≠ .put code body) →
      (s.seen i w.projectCode = s.intent.puts w.projectCode → ∀ c body, e.owns c = false →
        s.intent.edited w.projectCode c = some body → c.Holds body w) →
      ¬ (s.seen i w.projectCode ≠ s.intent.puts w.projectCode ∨
        s.intent.disabled w.projectCode = true) →
      (s.intent.record s.world.table e (.upsert w)).Stands
        (upsertSourceMapping w s.world.table) := by
    intro w hput hw hclear
    obtain ⟨hseen, hdisabled⟩ := not_or.mp hclear
    exact hs.automation hput (Bool.eq_false_iff.mpr hdisabled) (hw (not_not.mp hseen))
  cases e with
  | put code body =>
    obtain rfl : op = .upsert (storedRow owncloudConfigured code body) := hop
    exact hs.put owncloudConfigured code body _
  | disable code =>
    obtain rfl : op = .disable code := hop
    exact hs.disable code
  | sync pairs =>
    obtain ⟨w, rfl⟩ := hop
    obtain ⟨hnone, hdisabled⟩ := not_or.mp (hcareful w rfl)
    refine hs.automation (by rintro _ _ ⟨⟩) (Bool.eq_false_iff.mpr hdisabled)
      fun c body _ hbody => ?_
    exact absurd ⟨c, Option.isSome_of_eq_some hbody⟩ hnone
  | confirm code req =>
    obtain ⟨w, rfl, hw⟩ := hop
    exact hautomation (by rintro _ _ ⟨⟩) hw (hcareful w rfl)
  | enrich requested results =>
    obtain ⟨w, rfl, hw⟩ := hop
    exact hautomation (by rintro _ _ ⟨⟩) hw (hcareful w rfl)

omit [Text] [Floats F] in
/-- A statement of `init_schema` that respects what the admin has said. -/
theorem stands_statement {s : Watched F} (hs : s.intent.Stands s.world.table) {stmt : Statement}
    (hrespects : s.Respects stmt) : s.intent.Stands (stmt.exec s.world.table) := by
  refine hs.map (f := stmt.row) ?_ (fun code r hr => (hrespects code r hr).1)
    (fun code r hr => (hrespects code r hr).2)
  intro code r hr
  cases stmt with
  | insertSeed e =>
    rw [Statement.exec, getSourceMapping_insertSeed, hr]
    rfl
  | fillName e =>
    exact (Table.lookup_map _ (projectCode_fillName · e) code).trans (congrArg (Option.map _) hr)
  | repairRow e =>
    exact (Table.lookup_map _ (projectCode_repairRow · e) code).trans (congrArg (Option.map _) hr)

/-! ### Runs -/

omit [Floats F] in
/-- Handler `i` goes on, and the others stay as they are. What each step has to show is then left as
hypotheses: the table, the counts that were seen, and what is pending. -/
theorem Inv.of_handler {s s' : Watched F} (hs : Inv owncloudConfigured s) (i : ℕ)
    (hstands : s'.intent.Stands s'.world.table)
    (hseen : ∀ j code, s'.seen j code ≤ s'.intent.puts code)
    (hother : ∀ j, j ≠ i → s'.world.handler j = s.world.handler j ∧ s'.seen j = s.seen j)
    (hpending : ∀ {seen : String → ℕ} {e : Edit} {op : Write F},
      (∀ code, seen code ≤ s.intent.puts code) → Pending owncloudConfigured s.intent seen e op →
      Pending owncloudConfigured s'.intent seen e op)
    (hself : ∀ todo, (s'.world.handler i).phase = .writing todo → ∀ op ∈ todo,
      Pending owncloudConfigured s'.intent (s'.seen i) (s'.world.handler i).edit op) :
    Inv owncloudConfigured s' where
  stands := hstands
  seen_le := hseen
  pending j todo hphase op hop := by
    by_cases hj : j = i
    · subst hj
      exact hself todo hphase op hop
    · rw [(hother j hj).1] at hphase ⊢
      rw [(hother j hj).2]
      exact hpending (hs.seen_le j) (hs.pending j todo hphase op hop)

omit [Floats F] in
/-- A handler goes on that has nothing to write, and the table is as it was. -/
theorem inv_idle {s : Watched F} (hs : Inv owncloudConfigured s) (i n : ℕ) {h : Handler F}
    (hidle : ∀ todo, h.phase = .writing todo → todo = []) :
    Inv owncloudConfigured
      { s with
        world :=
          { s.world with
            handler := Function.update s.world.handler i h
            handlers := n } } := by
  refine hs.of_handler i hs.stands hs.seen_le (fun j hj => ⟨Function.update_of_ne hj .., rfl⟩)
    (fun _ h => h) ?_
  intro todo hphase op hop
  dsimp only at hphase
  rw [Function.update_self] at hphase
  rw [hidle todo hphase] at hop
  cases hop

omit [Floats F] in
private theorem inv_statement {s : Watched F} (hs : Inv owncloudConfigured s) (i : ℕ) (e : Edit)
    {stmt : Statement} (todo : List Statement) (hrespects : s.Respects stmt) :
    Inv owncloudConfigured
      { s with
        world :=
          { s.world with
            table := stmt.exec s.world.table
            handler := Function.update s.world.handler i ⟨e, .schema todo⟩ } } := by
  refine hs.of_handler i (stands_statement hs.stands hrespects) hs.seen_le
    (fun j hj => ⟨Function.update_of_ne hj .., rfl⟩) (fun _ h => h) ?_
  intro todo' hphase
  dsimp only at hphase
  rw [Function.update_self] at hphase
  cases hphase

/-- A handler reads the table, in which all stands. From here on it is known which puts it has seen.
-/
theorem inv_read {s : Watched F} (hs : Inv owncloudConfigured s) (i : ℕ) (e : Edit) :
    Inv owncloudConfigured
      { s with
        world :=
          { s.world with
            handler := Function.update s.world.handler i
              ⟨e, .writing (e.writes owncloudConfigured s.world.table)⟩ }
        seen := Function.update s.seen i s.intent.puts } := by
  refine hs.of_handler i hs.stands ?_
    (fun j hj => ⟨Function.update_of_ne hj .., Function.update_of_ne hj ..⟩) (fun _ h => h) ?_
  · intro j code
    dsimp only
    by_cases hj : j = i
    · rw [hj, Function.update_self]
    · rw [Function.update_of_ne hj]
      exact hs.seen_le j code
  · intro todo hphase op hop
    dsimp only at hphase ⊢
    rw [Function.update_self] at hphase
    cases hphase
    rw [Function.update_self, Function.update_self]
    exact pending_writes hs.stands _ e hop

omit [Floats F] in
/-- A pending write that is careful keeps the invariant: the row holds what has been said when the
table was read, and nothing has been said since that it would overwrite. -/
private theorem inv_write {s : Watched F} (hs : Inv owncloudConfigured s) {i : ℕ} {e : Edit}
    {op : Write F} {todo : List (Write F)} (hi : s.world.handler i = ⟨e, .writing (op :: todo)⟩)
    (hcareful : ∀ w, op = .upsert w → ¬ s.Overwrites i w e) :
    Inv owncloudConfigured
      { s with
        world :=
          { s.world with
            table := op.exec s.world.table
            handler := Function.update s.world.handler i ⟨e, .writing todo⟩ }
        intent := s.intent.record s.world.table e op } := by
  have hpending : ∀ op' ∈ op :: todo,
      Pending owncloudConfigured s.intent (s.seen i) e op' := by
    intro op' hop'
    have h := hs.pending i (op :: todo) (by rw [hi]) op' hop'
    rwa [hi] at h
  refine hs.of_handler i (stands_write hs.stands (hpending op List.mem_cons_self) hcareful) ?_
    (fun j hj => ⟨Function.update_of_ne hj .., rfl⟩) (fun hle h => h.record hle _ _ _) ?_
  · intro j code
    have hle : s.seen j code ≤ s.intent.puts code := hs.seen_le j code
    have hputs : s.intent.puts code ≤ (s.intent.record s.world.table e op).puts code := by
      rcases Intent.record_cases s.intent s.world.table e op code with
        ⟨_, -, hnext⟩ | ⟨hsame, -⟩ <;> omega
    exact hle.trans hputs
  · intro todo' hphase op' hop'
    dsimp only at hphase ⊢
    rw [Function.update_self] at hphase ⊢
    cases hphase
    exact (hpending op' (List.mem_cons_of_mem op hop')).record (hs.seen_le i) _ _ _

/-- Every careful step keeps the invariant. -/
private theorem inv_step {s : Watched F} (hs : Inv owncloudConfigured s) {a : Action}
    (ha : s.Careful a) : Inv owncloudConfigured (s.step owncloudConfigured file a) := by
  cases a with
  | arrive e => exact inv_idle hs s.world.handlers _ nofun
  | abort i =>
    refine inv_idle hs i s.world.handlers fun todo hphase => ?_
    cases hphase
    rfl
  | advance i =>
    cases hi : s.world.handler i with
    | mk e phase =>
      have hcareful : s.CarefulNext i ⟨e, phase⟩ := hi ▸ ha
      -- what the step does, once the handler that advances is named
      have hstep : s.step owncloudConfigured file (.advance i) =
          { s with
            world :=
              { s.world with
                table := ((Handler.mk e phase).next owncloudConfigured file s.world.table).1
                handler := Function.update s.world.handler i
                  ⟨e, ((Handler.mk e phase).next owncloudConfigured file s.world.table).2⟩ }
            intent := s.said ⟨e, phase⟩
            seen := Function.update s.seen i (s.seenBy i ⟨e, phase⟩) } := by
        simp only [step, World.step, hi]
      have hkept : Function.update s.seen i (s.seen i) = s.seen := Function.update_eq_self i s.seen
      rw [hstep]
      cases phase with
      | arrived =>
        dsimp only [said, seenBy]
        rw [hkept]
        exact inv_idle hs i s.world.handlers nofun
      -- the last statement of the schema is followed by the read that the intent is about
      | schema todo =>
        cases todo with
        | nil => exact inv_read hs i e
        | cons stmt todo =>
          dsimp only [said, seenBy]
          rw [hkept]
          exact inv_statement hs i e todo hcareful
      | writing todo =>
        dsimp only [seenBy]
        rw [hkept]
        cases todo with
        | nil =>
          refine inv_idle hs i s.world.handlers fun todo hphase => ?_
          cases hphase
          rfl
        | cons op todo =>
          refine inv_write hs hi ?_
          rintro w rfl
          exact hcareful

omit [Floats F] in
/-- At the start nothing has been said, and nothing is pending. -/
theorem inv_start (table : List (MappingRow F)) : Inv owncloudConfigured (start table) where
  stands := ⟨nofun, nofun⟩
  seen_le _ _ := le_rfl
  pending i todo hphase := by
    cases hphase
    exact nofun

/-- In every interleaving of the endpoints, from any table, whose steps write no row over what the
admin has said, all that the admin has said stands in the table throughout. What an automation owns
it may rewrite, and has then said itself. -/
theorem stands_throughout (owncloudConfigured : Bool) (file : MappingFile)
    (table : List (MappingRow F)) (run : List Action)
    (hrun : Along (step owncloudConfigured file) Careful (start table) run) :
    Throughout (step owncloudConfigured file)
      (fun s : Watched F => s.intent.Stands s.world.table) (start table) run := by
  rintro before after rfl
  have hinv : Inv owncloudConfigured (exec (step owncloudConfigured file) (start table) before) :=
    @exec_induction _ _ _ Careful (Inv owncloudConfigured) (fun _ _ hs ha => inv_step hs ha)
      before (start table) (inv_start table) (along_append.mp hrun).1
  exact hinv.stands

end Step

/-! ### A confirmation around a `PUT` -/

section Whole

open Py.Whole

/-- The table with a project that has no site yet. -/
def bridgeTable : List (MappingRow ℤ) := [storedRow false "P1" { projectName := "Bridge" }]

def bridgeConfirm : Edit :=
  .confirm "P1"
    { siteId := "contoso,bridge,1"
      driveId := "drive-1"
      siteId_ne := by decide
      driveId_ne := by decide }

def bridgePut : Edit := .put "P1" { projectName := "Bridge North" }

/-- A confirmation that begins when the `PUT` is done keeps the new name. -/
theorem stands_throughout_confirmed :
    Throughout (step false []) (fun s : Watched ℤ => s.intent.Stands s.world.table)
      (start bridgeTable)
      [.arrive bridgePut, .advance 0, .advance 0, .advance 0,
        .arrive bridgeConfirm, .advance 1, .advance 1, .advance 1] := by
  refine stands_throughout false [] bridgeTable _ ?_
  refine ⟨trivial, trivial, trivial, ?_, trivial, trivial, trivial, ?_, trivial⟩
  · exact not_false
  · rintro (hseen | hdisabled)
    · exact hseen rfl
    · cases hdisabled

/-- One that has read the table before writes the old name back. -/
theorem not_stands_confirmed :
    ¬ ∀ run : List Action, Throughout (step false [])
      (fun s : Watched ℤ => s.intent.Stands s.world.table) (start bridgeTable) run := by
  intro h
  let run : List Action :=
    [.arrive bridgeConfirm, .advance 0, .advance 0,
      .arrive bridgePut, .advance 1, .advance 1, .advance 1, .advance 0]
  let last : Watched ℤ := exec (step false []) (start bridgeTable) run
  have hstands : last.intent.Stands last.world.table := h run run [] (List.append_nil run).symm
  have hsaid : last.intent.edited "P1" .projectName = some { projectName := "Bridge North" } := by
    decide +kernel
  obtain ⟨r, hr, hname⟩ := hstands.edited "P1" .projectName _ hsaid
  have hstored : (getSourceMapping "P1" last.world.table).map (·.projectName) = some "Bridge" := by
    decide +kernel
  rw [hr, Option.map_some, ← show "Bridge North" = r.projectName from hname] at hstored
  exact absurd (Option.some.inj hstored) (by decide)

end Whole

end Watched

end DecisionCenter.Mappings
