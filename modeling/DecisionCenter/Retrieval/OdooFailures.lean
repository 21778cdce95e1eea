import DecisionCenter.Retrieval.LedgerAccuracy
import DecisionCenter.Retrieval.OdooWorkflow
import DecisionCenter.Scan.Source

/-!
# Failures of Odoo

What becomes of an error object among the answers of Odoo: on its way through the workflow and
the connector, in node 8 and in the scan of a source. An error of the login or of the count
arrives as an exception. An error of `search_read` arrives as an empty list, which both readers
of the list take for an empty ledger.

For one read the question is whether the connector keeps to the records: as many items as the
result has records, and an exception where the answer is an error. `itemPerRecord_iff` reduces
it to the one answer that goes astray, a `search_read` that is answered by an error
(`Swallowed`).

For node 8 the world has Odoo behind the webhook, with any answers, and everything else that the
nodes await (`OdooWorld`). A timed read is a number of attempts at one query of which the last
one returned, or none did (`Attempts`); the registered sources are gone through by induction on
the list of specs. What the node takes for an empty ledger can then be said in terms of the
reads alone: the project record returned, and no read delivered an item
(`OdooWorld.status_eq_zeroNoMatch`).

`nodeSeesFailures_iff` is exact: the node sees the failures just if none is left beside a
project record that was read, with no item delivered by any read. For the scan the same is
proved of the read of one page.
-/

namespace DecisionCenter

open Async Py

section Failures

variable {F : Type} [Floats F] [Script F]

/-! ### One read -/

/-- The workflow comes to its `search_read`. -/
def ComesToRead (env : OdooEnv) (payload : Dict F) (login : RpcAnswer F (Value F)) : Prop :=
  ∃ request uid, checkRequest env payload = .ok request ∧ request.operation = .read ∧
    authenticate login = .ok uid ∧ checkWindow payload = .ok ()

/-- Where the connector returns on a request for records, it has one item for each record of the
result, in their order. -/
def ItemPerRecord (env : OdooEnv) (payload : Dict F) (answers : OdooAnswers F) : Prop :=
  operationOf payload ≠ .ok .count → ∀ items, readOdoo env payload answers = .ok items →
    ∃ request records, checkRequest env payload = .ok request ∧
      answers.searchRead = .result records ∧
      List.Forall₂ (fun item e => validateItem item = .ok e)
        (records.mapIdx (odooItem env.odooUrl request)) items

/-- A request that passes the checks has an operation. -/
theorem operationOf_of_checkRequest {env : OdooEnv} {payload : Dict F} {request : OdooRequest F}
    (h : checkRequest env payload = .ok request) : operationOf payload = .ok request.operation := by
  obtain ⟨model, -, h⟩ := bind_eq_ok.mp h
  split at h
  · cases h
  obtain ⟨operation, hoperation, h⟩ := bind_eq_ok.mp h
  split_ifs at h
  obtain ⟨domain, -, h⟩ := bind_eq_ok.mp h
  cases h
  exact hoperation

/-- The connector returns what the workflow answers without throwing. -/
theorem readOdoo_eq_ok {env : OdooEnv} {payload : Dict F} {answers : OdooAnswers F}
    {items : List (Evidence F)} :
    readOdoo env payload answers = .ok items ↔
      ∃ body, odooQueryNode env payload answers = .ok body ∧
        validateEvidencePayload body = .ok items := by
  rw [readOdoo, odooResponse]
  cases hnode : odooQueryNode env payload answers with
  | ok body =>
    simp only [Except.ok.injEq, exists_eq_left']
    change (validateEvidencePayload body).mapError _ = _ ↔ _
    cases validateEvidencePayload body <;> simp [Except.mapError]
  | error e => cases e <;> simp [webhookPost, Thrown.statusCode]

/-- On a request for records the workflow answers with items, if it answers at all. The errors of
Odoo's answer to the search are not looked at, and come out as no items. -/
theorem odooQueryNode_read {env : OdooEnv} {payload : Dict F} {answers : OdooAnswers F}
    (hop : operationOf payload ≠ .ok .count) {body : OdooBody F} :
    odooQueryNode env payload answers = .ok body ↔
      ComesToRead env payload answers.authenticate ∧ ∃ request,
        checkRequest env payload = .ok request ∧
          body = .evidence (answers.records.mapIdx (odooItem env.odooUrl request)) := by
  constructor
  · intro h
    obtain ⟨request, hrequest, h⟩ := bind_eq_ok.mp h
    obtain ⟨uid, huid, h⟩ := bind_eq_ok.mp h
    have hread : request.operation = .read := by
      cases hoperation : request.operation with
      | read => rfl
      | count =>
        rw [operationOf_of_checkRequest hrequest, hoperation] at hop
        exact absurd rfl hop
    rw [hread] at h
    obtain ⟨⟨⟩, hwindow, h⟩ := bind_eq_ok.mp h
    cases h
    exact ⟨⟨request, uid, hrequest, hread, huid, hwindow⟩, request, hrequest, rfl⟩
  · rintro ⟨⟨request, uid, hrequest, hread, huid, hwindow⟩, request', hrequest', rfl⟩
    cases hrequest.symm.trans hrequest'
    refine bind_eq_ok.mpr ⟨request, hrequest, bind_eq_ok.mpr ⟨uid, huid, ?_⟩⟩
    rw [hread]
    exact bind_eq_ok.mpr ⟨(), hwindow, rfl⟩

/-- On a request for records the connector returns where the workflow comes to its `search_read`
and the items are valid. -/
theorem readOdoo_read {env : OdooEnv} {payload : Dict F} {answers : OdooAnswers F}
    (hop : operationOf payload ≠ .ok .count) {items : List (Evidence F)} :
    readOdoo env payload answers = .ok items ↔
      ComesToRead env payload answers.authenticate ∧ ∃ request,
        checkRequest env payload = .ok request ∧
          List.Forall₂ (fun item e => validateItem item = .ok e)
          (answers.records.mapIdx (odooItem env.odooUrl request)) items := by
  simp only [readOdoo_eq_ok, odooQueryNode_read hop]
  constructor
  · rintro ⟨body, ⟨hcomes, request, hrequest, rfl⟩, hitems⟩
    exact ⟨hcomes, request, hrequest, mapM_eq_ok.mp hitems⟩
  · rintro ⟨hcomes, request, hrequest, hitems⟩
    exact ⟨_, ⟨hcomes, request, hrequest, rfl⟩, mapM_eq_ok.mpr hitems⟩

/-- The workflow comes to its `search_read`, and Odoo answers with an error. -/
def Swallowed (env : OdooEnv) (payload : Dict F) (answers : OdooAnswers F) : Prop :=
  ComesToRead env payload answers.authenticate ∧ answers.searchRead.isError = true

/-- An error of `search_read` is an empty list to the connector. -/
theorem Swallowed.readOdoo {env : OdooEnv} {payload : Dict F} {answers : OdooAnswers F}
    (hop : operationOf payload ≠ .ok .count) (h : Swallowed env payload answers) :
    readOdoo env payload answers = .ok [] := by
  obtain ⟨⟨request, uid, hrequest, hrest⟩, herror⟩ := h
  refine (readOdoo_read hop).mpr ⟨⟨request, uid, hrequest, hrest⟩, request, hrequest, ?_⟩
  rw [OdooAnswers.records]
  cases hanswer : answers.searchRead with
  | result records => rw [hanswer] at herror; cases herror
  | error e => exact .nil

/-- The connector keeps to the records of the result just if Odoo does not answer the
`search_read` with an error. -/
theorem itemPerRecord_iff {env : OdooEnv} {payload : Dict F} {answers : OdooAnswers F} :
    ItemPerRecord env payload answers ↔ ¬ Swallowed env payload answers := by
  constructor
  · intro h hswallowed
    have hop : operationOf payload ≠ .ok .count := by
      obtain ⟨⟨request, uid, hrequest, hread, -, -⟩, -⟩ := hswallowed
      rw [operationOf_of_checkRequest hrequest, hread]
      nofun
    obtain ⟨request, records, -, hrecords, -⟩ := h hop [] (hswallowed.readOdoo hop)
    have herror := hswallowed.2
    rw [hrecords] at herror
    cases herror
  · intro h hop items hitems
    obtain ⟨hcomes, request, hrequest, hvalid⟩ := (readOdoo_read hop).mp hitems
    rw [OdooAnswers.records] at hvalid
    cases hanswer : answers.searchRead with
    | result records => rw [hanswer] at hvalid; exact ⟨request, records, hrequest, rfl, hvalid⟩
    | error e =>
      refine absurd ⟨hcomes, ?_⟩ h
      rw [hanswer]
      rfl

/-! ### The webhook -/

/-- How a call of the webhook ends. -/
inductive WebhookReply (F : Type) where
  | answered (answers : OdooAnswers F)
  | timeout
  | unreachable (className text : String)

/-- Odoo answers a request for records with an error. -/
def Erred (env : OdooEnv) (payload : Dict F) (reply : WebhookReply F) : Prop :=
  ∃ answers, reply = .answered answers ∧
    ((∃ request, checkRequest env payload = .ok request) ∧ answers.authenticate.isError = true ∨
      Swallowed env payload answers)

section Node

variable [Exceptions]

/-- `await read_odoo(payload)`, where the webhook so replies. -/
def callRead (env : OdooEnv) (payload : Dict F) : WebhookReply F → ReadResult F
  | .answered answers => (readOdoo env payload answers).mapError fun e => .error (Exceptions.text e)
  | .timeout => .error .timeout
  | .unreachable className text => .error (.error (Exceptions.text (.unreachable className text)))

private theorem callRead_answered {env : OdooEnv} {payload : Dict F} {answers : OdooAnswers F}
    {items : List (Evidence F)} :
    callRead env payload (.answered answers) = .ok items ↔
      readOdoo env payload answers = .ok items := by
  change (readOdoo env payload answers).mapError _ = _ ↔ _
  cases readOdoo env payload answers <;> simp [Except.mapError]

/-- The value of a domain leaf. -/
def DomainValue.toValue : DomainValue → Value F
  | id n => .int n
  | name s => .str s

/-- The payload of a read. -/
def OdooQuery.payload (q : OdooQuery) : Dict F :=
  [("project_code", q.projectCode.elim .null .str), ("model", .str q.model),
    ("domain",
      .str (Script.dumps (.list [.list [.str q.path, .str "=", q.value.toValue]] : Value F))),
    ("fields", .str (Script.dumps (.list (q.fields.map .str) : Value F)))] ++
  q.limit.toList.map (fun n => ("limit", .int n)) ++
  [("allowed_odoo_ids", .list (q.allowedOdooIds.map .str))]

/-! ### Node 8 -/

/-- Odoo behind the webhook, and all else the nodes await. -/
structure OdooWorld (F S : Type) where
  reply : OdooQuery → S → WebhookReply F
  others : Connectors F S

variable {S : Type} (env : OdooEnv) (world : OdooWorld F S)

/-- What a read of Odoo returns. -/
def OdooWorld.result (r : OdooQuery × S) : ReadResult F :=
  callRead env r.1.payload (world.reply r.1 r.2)

/-- The answers to what the nodes await. -/
def OdooWorld.answer (c : Call F) (s : S) : c.Result × S :=
  match c with
  | .read (.odoo q) limit =>
    (world.result env (q, s), (world.others.answer (.read (.odoo q) limit) s).2)
  | c => world.others.answer c s

omit [Script F] [Exceptions] in
private theorem validateItem_odoo {item : OdooItem F} {e : Evidence F}
    (h : validateItem item = .ok e) : e.sourceType = .odoo := by
  obtain ⟨title, -, h⟩ := bind_eq_ok.mp h
  obtain ⟨projectCode, -, h⟩ := bind_eq_ok.mp h
  obtain ⟨contractNo, -, h⟩ := bind_eq_ok.mp h
  obtain ⟨timestamp, -, h⟩ := bind_eq_ok.mp h
  obtain ⟨metadata, -, h⟩ := bind_eq_ok.mp h
  cases h
  rfl

omit [Exceptions] in
/-- The connector returns Odoo items only. -/
theorem readOdoo_allFrom {env : OdooEnv} {payload : Dict F} {answers : OdooAnswers F}
    {items : List (Evidence F)}
    (h : readOdoo env payload answers = .ok items) : AllFrom .odoo items := by
  obtain ⟨body, -, hbody⟩ := readOdoo_eq_ok.mp h
  cases body with
  | evidence raw =>
    intro e he
    obtain ⟨item, -, hitem⟩ := (mem_of_mapM hbody).mp he
    exact validateItem_odoo hitem
  | count total => cases hbody; exact AllFrom.nil
  | failed message => cases hbody; exact AllFrom.nil

/-- The connectors of the world. -/
def OdooWorld.connectors : Connectors F S where
  answer := world.answer env
  labelled c s := by
    match c with
    | .read (.odoo q) limit =>
      intro items hitems
      change callRead env q.payload (world.reply q s) = .ok items at hitems
      cases hreply : world.reply q s with
      | answered answers =>
        rw [hreply, callRead_answered] at hitems
        exact readOdoo_allFrom hitems
      | timeout => rw [hreply] at hitems; cases hitems
      | unreachable className text => rw [hreply] at hitems; cases hitems
    | .read (.sharepoint q) limit => exact world.others.labelled _ s
    | .read (.owncloud code path) limit => exact world.others.labelled _ s
    | .read (.group id mail code) limit => exact world.others.labelled _ s
    | .read (.email q) limit => exact world.others.labelled _ s
    | .remaining => trivial
    | .plan => trivial

/-- The reads of Odoo among the steps of a run. -/
def odooReads (steps : List (Call F × S)) : List (OdooQuery × S) :=
  steps.filterMap fun
    | (.read (.odoo q) _, s) => some (q, s)
    | _ => none

omit [Floats F] [Script F] [Exceptions] in
private theorem odooReads_append (steps steps' : List (Call F × S)) :
    odooReads (steps ++ steps') = odooReads steps ++ odooReads steps' := List.filterMap_append

/-- The reads of Odoo in the run of a program. -/
def OdooWorld.reads {R : Type} (t : Retrieval F R) (s : S) : List (OdooQuery × S) :=
  odooReads (t.steps (world.answer env) s)

/-- None of the reads delivered an item. -/
def OdooWorld.Barren (reads : List (OdooQuery × S)) : Prop :=
  ∀ r ∈ reads, ∀ items, world.result env r = .ok items → items = []

/-- The reads are attempts at one query, and what they returned is what one of them did. -/
structure OdooWorld.Attempts (q : OdooQuery) (reads : List (OdooQuery × S)) (x : ReadResult F) :
    Prop where
  query : ∀ r ∈ reads, r.1 = q
  returned : ∀ items, x = .ok items ↔ ∃ r ∈ reads, world.result env r = .ok items

variable {env world}

private theorem OdooWorld.reads_bind {R R' : Type} (t : Retrieval F R) (f : R → Retrieval F R')
    (s : S) : world.reads env (t.bind f) s = world.reads env t s ++
      world.reads env (f (t.run (world.answer env) s).1) (t.run (world.answer env) s).2 := by
  rw [reads, Task.steps_bind, odooReads_append]
  rfl

private theorem OdooWorld.barren_append {reads reads' : List (OdooQuery × S)} :
    world.Barren env (reads ++ reads') ↔ world.Barren env reads ∧ world.Barren env reads' :=
  List.forall_mem_append

private theorem OdooWorld.Attempts.barren_iff {q : OdooQuery} {reads : List (OdooQuery × S)}
    {x : ReadResult F} (h : world.Attempts env q reads x) :
    world.Barren env reads ↔ ∀ items, x = .ok items → items = [] := by
  constructor
  · intro hbarren items hx
    obtain ⟨r, hr, hresult⟩ := (h.returned items).mp hx
    exact hbarren r hr items hresult
  · intro hx r hr items hresult
    exact hx items ((h.returned items).mpr ⟨r, hr, hresult⟩)

variable (env world) in
/-- A timed read is one attempt, or none when the time is up. In that case there is nothing that
could have failed. -/
theorem OdooWorld.attempts_timed (q : OdooQuery) (capMs : ℤ) (s : S) :
    world.Attempts env q (world.reads env (readOdooTimed q capMs) s)
      ((readOdooTimed q capMs).run (world.answer env) s).1 := by
  rw [readOdooTimed, reads_bind, Task.run_bind']
  generalize (Retrieval.remaining.run (world.answer env) s).1 = left
  generalize (Retrieval.remaining.run (world.answer env) s).2 = s'
  have hclock : world.reads env Retrieval.remaining s = [] := rfl
  rw [hclock, List.nil_append]
  split
  · exact ⟨nofun, fun items => ⟨nofun, nofun⟩⟩
  · have hread :
        world.reads env (Retrieval.read (.odoo q) (some (min capMs left))) s' = [(q, s')] :=
      rfl
    rw [hread]
    refine ⟨fun r hr => by rw [List.mem_singleton.mp hr], fun items => ?_⟩
    constructor
    · exact fun hresult => ⟨_, List.mem_singleton_self _, hresult⟩
    · rintro ⟨r, hr, hresult⟩
      rwa [List.mem_singleton.mp hr] at hresult

/-- Attempts behind a failed one are attempts. -/
theorem OdooWorld.Attempts.append {q : OdooQuery} {reads reads' : List (OdooQuery × S)}
    {f : ReadFailure} {x : ReadResult F} (h : world.Attempts env q reads (.error f))
    (h' : world.Attempts env q reads' x) : world.Attempts env q (reads ++ reads') x := by
  refine ⟨List.forall_mem_append.mpr ⟨h.query, h'.query⟩, fun items => ?_⟩
  rw [h'.returned items]
  constructor
  · rintro ⟨r, hr, hresult⟩
    exact ⟨r, List.mem_append_right reads hr, hresult⟩
  · rintro ⟨r, hr, hresult⟩
    obtain hr | hr := List.mem_append.mp hr
    · cases (h.returned items).mpr ⟨r, hr, hresult⟩
    · exact ⟨r, hr, hresult⟩

variable (env world) in
/-- Only the last attempt returns: the others are tried again. So what is returned is judged by the
last one alone. -/
theorem OdooWorld.attempts_withRetry (q : OdooQuery) (capMs : ℤ) (retries : ℕ) (s : S) :
    world.Attempts env q (world.reads env (readOdooWithRetry q capMs retries) s)
      ((readOdooWithRetry q capMs retries).run (world.answer env) s).1 := by
  induction retries generalizing s with
  | zero => exact attempts_timed env world q capMs s
  | succ retries ih =>
    rw [readOdooWithRetry, reads_bind, Task.run_bind']
    have hfirst := attempts_timed env world q capMs s
    generalize hx : ((readOdooTimed q capMs).run (world.answer env) s).1 = x at hfirst ⊢
    generalize ((readOdooTimed q capMs).run (world.answer env) s).2 = s'
    have hdone : ∀ s, world.reads env (.ret x : Retrieval F (ReadResult F)) s = [] := fun _ => rfl
    match x with
    | .ok items => rwa [hdone, List.append_nil]
    | .error .timeout => rwa [hdone, List.append_nil]
    | .error (.error text) =>
      dsimp only
      rw [reads_bind, Task.run_bind']
      have hclock : world.reads env Retrieval.remaining s' = [] := rfl
      rw [hclock, List.nil_append]
      split
      · rwa [hdone, List.append_nil]
      · exact hfirst.append (ih _)

/-- The query of the project record has been answered. -/
def OdooWorld.Returned (env : OdooEnv) (world : OdooWorld F S) (q : OdooQuery)
    (reads : List (OdooQuery × S)) : Prop :=
  ∃ r ∈ reads, r.1 = q ∧ ∃ items, world.result env r = .ok items

private theorem OdooWorld.Attempts.returned_iff {q : OdooQuery} {reads : List (OdooQuery × S)}
    {x : ReadResult F} (h : world.Attempts env q reads x) :
    world.Returned env q reads ↔ ∃ items, x = .ok items := by
  constructor
  · rintro ⟨r, hr, -, items, hresult⟩
    exact ⟨items, (h.returned items).mpr ⟨r, hr, hresult⟩⟩
  · rintro ⟨items, hx⟩
    obtain ⟨r, hr, hresult⟩ := (h.returned items).mp hx
    exact ⟨r, hr, h.query r hr, items, hresult⟩

section Facts

variable [Text]

omit [Text] in
/-- No cost line was delivered just if none is found. -/
private theorem OdooWorld.barren_costLines (query : Option OdooQuery) (s : S) :
    world.Barren env (world.reads env (readCostLines query) s) ↔
      ((readCostLines query).run (world.answer env) s).1.items = [] := by
  cases query with
  | none => exact iff_of_true (fun _ hr => by cases hr) rfl
  | some q =>
    rw [readCostLines, reads_bind, Task.run_bind']
    have hread := attempts_withRetry env world q costTimeoutMs odooMaxRetries s
    generalize ((readOdooWithRetry q costTimeoutMs odooMaxRetries).run (world.answer env) s).1 = x
      at hread ⊢
    cases x with
    | ok items =>
      have hnone : world.reads env (.ret (.found items) : Retrieval F (CostRead F)) =
          fun _ => [] := rfl
      rw [hnone, List.append_nil, hread.barren_iff]
      exact ⟨fun h => h items rfl, fun h _ heq => by cases heq; exact h⟩
    | error f =>
      have hnone : world.reads env (.ret (.failed f) : Retrieval F (CostRead F)) =
          fun _ => [] := rfl
      rw [hnone, List.append_nil, hread.barren_iff]
      exact iff_of_true (fun _ heq => by cases heq) rfl

omit [Text] in
variable (env world) in
/-- The loop adds nothing just if none of its sources delivered an item. A source that fails and one
that is empty look alike from here. -/
theorem OdooWorld.barren_specs (specs : List SourceSpec) (acc : List (Evidence F)) (s : S) :
    ((readSpecs specs acc).run (world.answer env) s).1 = [] ↔
      acc = [] ∧ world.Barren env (world.reads env (readSpecs specs acc) s) := by
  induction specs generalizing acc s with
  | nil => exact ⟨fun h => ⟨h, fun _ hr => by cases hr⟩, fun h => h.1⟩
  | cons spec specs ih =>
    obtain ⟨source, query⟩ := spec
    cases query with
    | none => exact ih acc s
    | some q =>
      rw [readSpecs, reads_bind, Task.run_bind']
      have hread := attempts_timed env world q extendedTimeoutMs s
      generalize ((readOdooTimed q extendedTimeoutMs).run (world.answer env) s).1 = x at hread ⊢
      rw [barren_append, hread.barren_iff]
      have hfailed {f : ReadFailure} :
          ∀ items : List (Evidence F), Except.error f = Except.ok items → items = [] := by
        rintro _ ⟨⟩
      cases x with
      | ok items =>
        refine (ih (acc ++ items.map (tagItem source)) _).trans ?_
        rw [List.append_eq_nil_iff, List.map_eq_nil_iff, and_assoc]
        refine and_congr_right fun _ => and_congr_left fun _ => ?_
        exact ⟨fun h _ heq => by cases heq; exact h, fun h => h items rfl⟩
      | error f =>
        cases f with
        | error text =>
          refine (ih acc _).trans ?_
          exact and_congr_right fun _ => (and_iff_right hfailed).symm
        -- the clock is asked before the next source: the loop may end here
        | timeout =>
          have hempty : world.Barren env ([] : List (OdooQuery × S)) := fun _ hr => by cases hr
          dsimp only
          rw [reads_bind, Task.run_bind', barren_append]
          split
          · exact ⟨fun h => ⟨h, hfailed, hempty, hempty⟩, fun h => h.1⟩
          · refine (ih acc _).trans ?_
            exact and_congr_right fun _ => ⟨fun h => ⟨hfailed, hempty, h⟩, fun h => h.2.2⟩

variable (env world) in
/-- The registered sources add nothing just if none of them delivered an item. -/
theorem OdooWorld.barren_extendedSources (odoo : OdooConfig) (code : String) (ids : List String)
    (sources : List OdooSource) (s : S) :
    ((readExtendedSources odoo code ids sources []).run (world.answer env) s).1 = [] ↔
      world.Barren env (world.reads env (readExtendedSources odoo code ids sources []) s) := by
  rw [readExtendedSources]
  split
  · exact iff_of_true rfl fun _ hr => by cases hr
  · exact (barren_specs env world _ [] s).trans (and_iff_right rfl)

omit [Floats F] [Script F] [Exceptions] [Text] in
private theorem foundStatus_eq_zeroNoMatch {items : List (Evidence F)} :
    foundStatus items = .zeroNoMatch ↔ items = [] := by
  rw [foundStatus]
  cases items <;> simp

variable (env world) in
/-- Once the project record is read, node 8 finds an empty ledger just if the query of the cost
lines can be built and neither the record nor any further read delivered an item. -/
theorem OdooWorld.status_readFurther (settings : RetrievalSettings) (m : ProjectEntry)
    (state : DecisionState F) (code : String) (project : List (Evidence F)) (s : S) :
    ((readFurther settings m state code project).run (world.answer env) s).1.status =
        .zeroNoMatch ↔
      ReadableId m.odoo.analyticAccountId ∧ project = [] ∧
        world.Barren env (world.reads env (readFurther settings m state code project) s) := by
  have hdone (x : OdooRead F) (s : S) : world.reads env (.ret x) s = [] := rfl
  have hreadable : (∃ q, costQuery m.odoo code state.allowedOdooIds = .ok q) ↔
      ReadableId m.odoo.analyticAccountId := costQuery_eq_ok_iff
  rw [← hreadable, readFurther]
  cases costQuery m.odoo code state.allowedOdooIds with
  | error exc =>
    refine iff_of_false (by rintro ⟨⟩) ?_
    rintro ⟨⟨_, ⟨⟩⟩, _⟩
  | ok query =>
    rw [and_iff_right ⟨query, rfl⟩]
    dsimp only
    rw [reads_bind, Task.run_bind', barren_append, barren_costLines]
    generalize ((readCostLines query).run (world.answer env) s).1 = cost
    generalize ((readCostLines query).run (world.answer env) s).2 = s'
    split
    · rw [reads_bind, Task.run_bind', hdone, List.append_nil, ← barren_extendedSources,
        Task.run_ret, OdooRead.status, foundStatus_eq_zeroNoMatch, OdooRead.items,
        List.append_eq_nil_iff, List.append_eq_nil_iff, and_assoc]
    · rw [hdone, Task.run_ret, OdooRead.status, foundStatus_eq_zeroNoMatch, OdooRead.items,
        List.append_nil, List.append_eq_nil_iff]
      exact and_congr_right fun _ => (and_iff_left fun _ hr => by cases hr).symm

/-- The query of the project record has been answered, and the one of the cost lines can be built:
node 8 comes to record what it has read. -/
def OdooWorld.ProjectReturned (env : OdooEnv) (world : OdooWorld F S) (m : ProjectEntry)
    (code : String) (state : DecisionState F) (reads : List (OdooQuery × S)) : Prop :=
  (∃ q, projectQuery m.odoo code state.allowedOdooIds = .ok q ∧ world.Returned env q reads) ∧
    ReadableId m.odoo.analyticAccountId

variable (env world) in
/-- Node 8 finds an empty ledger just if the read of the project record returned and no read
delivered an item. -/
theorem OdooWorld.status_eq_zeroNoMatch (settings : RetrievalSettings) (m : ProjectEntry)
    (perms : RolePermissions) (state : DecisionState F) (code : String) (s : S) :
    let facts := readOdooFacts settings m perms state code
    (facts.run (world.answer env) s).1.status = .zeroNoMatch ↔
      world.ProjectReturned env m code state (world.reads env facts s) ∧
        world.Barren env (world.reads env facts s) := by
  intro facts
  have hdone (x : OdooRead F) (s : S) : world.reads env (.ret x) s = [] := rfl
  change ((readOdooFacts settings m perms state code).run (world.answer env) s).1.status = _ ↔
    world.ProjectReturned env m code state
        (world.reads env (readOdooFacts settings m perms state code) s) ∧
      world.Barren env (world.reads env (readOdooFacts settings m perms state code) s)
  rw [readOdooFacts, ProjectReturned]
  split
  -- without the permission nothing is read
  · refine iff_of_false (by rintro ⟨⟩) ?_
    rintro ⟨⟨⟨_, _, _, hr, _⟩, _⟩, _⟩
    cases hr
  -- the reads of the node are those of the project record, then the further ones
  cases projectQuery m.odoo code state.allowedOdooIds with
  | error exc =>
    refine iff_of_false (by rintro ⟨⟩) ?_
    rintro ⟨⟨⟨_, ⟨⟩, _⟩, _⟩, _⟩
  | ok q =>
    have hbuilt (P : OdooQuery → Prop) :
        (∃ q', (Except.ok q : Except Raised OdooQuery) = .ok q' ∧ P q') ↔ P q :=
      ⟨by rintro ⟨_, ⟨⟩, h⟩; exact h, fun h => ⟨q, rfl, h⟩⟩
    dsimp only
    rw [hbuilt, reads_bind, Task.run_bind']
    have hread := attempts_withRetry env world q projectTimeoutMs odooMaxRetries s
    generalize
      ((readOdooWithRetry q projectTimeoutMs odooMaxRetries).run (world.answer env) s).1 = x
      at hread ⊢
    cases x with
    | error f =>
      rw [hdone, List.append_nil, hread.returned_iff]
      refine iff_of_false (by cases f <;> rintro ⟨⟩) ?_
      rintro ⟨⟨⟨_, hok⟩, _⟩, _⟩
      cases hok
    | ok project =>
      have hreturned (reads : List (OdooQuery × S)) : world.Returned env q
          (world.reads env (readOdooWithRetry q projectTimeoutMs odooMaxRetries) s ++ reads) := by
        obtain ⟨r, hr, hresult⟩ := hread.returned_iff.mpr ⟨project, rfl⟩
        exact ⟨r, List.mem_append_left reads hr, hresult⟩
      have hproject : world.Barren env
          (world.reads env (readOdooWithRetry q projectTimeoutMs odooMaxRetries) s) ↔
        project = [] :=
        hread.barren_iff.trans ⟨fun h => h project rfl, fun h _ heq => by cases heq; exact h⟩
      rw [and_iff_right (hreturned _), barren_append, hproject]
      exact status_readFurther env world settings m state code project _

/-! ### What node 8 makes of failures -/

/-- The read was not tried again. -/
def Settled (reads : List (OdooQuery × S)) (r : OdooQuery × S) : Prop :=
  ∃ before after, reads = before ++ r :: after ∧ ∀ r' ∈ after, r'.1 ≠ r.1

variable (env world) (settings : RetrievalSettings) (m : ProjectEntry) (perms : RolePermissions)
  (code : String) (state : DecisionState F) (s : S)

/-- The reads of Odoo in a run of node 8. -/
def OdooWorld.nodeReads : List (OdooQuery × S) :=
  world.reads env (readOdooFacts settings m perms state code) s

/-- An empty ledger is recorded only if Odoo answered no read, as often as it was tried, with an
error. -/
def NodeSeesFailures : Prop :=
  ∀ entry, (odooNode (world.connectors env) settings m perms code state s).outputs.sourceCoverage
      .odoo = some entry →
    entry.status = .zeroNoMatch →
      ∀ r, Settled (world.nodeReads env settings m perms code state s) r →
        ¬ Erred env r.1.payload (world.reply r.1 r.2)

/-- Node 8 sees the failures just if none is left beside a project record that was read, with no
item delivered by any read. -/
theorem nodeSeesFailures_iff :
    NodeSeesFailures env world settings m perms code state s ↔
      (world.ProjectReturned env m code state
          (world.nodeReads env settings m perms code state s) →
        world.Barren env (world.nodeReads env settings m perms code state s) →
          ∀ r, Settled (world.nodeReads env settings m perms code state s) r →
            ¬ Erred env r.1.payload (world.reply r.1 r.2)) := by
  have hstatus := OdooWorld.status_eq_zeroNoMatch env world settings m perms state code s
  obtain ⟨available, reason, hrecord⟩ := recordOdoo_eq m
    ((readOdooFacts settings m perms state code).run (world.answer env) s).1 state
  -- the status of the ledger is the one that `status_eq_zeroNoMatch` explains
  have hentry (entry : CoverageEntry) :
      (odooNode (world.connectors env) settings m perms code state s).outputs.sourceCoverage
          .odoo = some entry →
        (entry.status = .zeroNoMatch ↔
          world.ProjectReturned env m code state
            (world.nodeReads env settings m perms code state s) ∧
            world.Barren env (world.nodeReads env settings m perms code state s)) := by
    intro h
    rw [odooNode, OdooWorld.connectors, hrecord] at h
    cases h
    exact hstatus
  constructor
  · intro h hreturned hbarren
    have hcovered : ∃ entry, (odooNode (world.connectors env) settings m perms code state
        s).outputs.sourceCoverage .odoo = some entry := by
      rw [odooNode, OdooWorld.connectors, hrecord]
      exact ⟨_, rfl⟩
    obtain ⟨entry, hcovered⟩ := hcovered
    exact h entry hcovered ((hentry entry hcovered).mpr ⟨hreturned, hbarren⟩)
  · intro h entry hcovered hzero
    obtain ⟨hreturned, hbarren⟩ := (hentry entry hcovered).mp hzero
    exact h hreturned hbarren

end Facts

end Node

end Failures

end DecisionCenter
