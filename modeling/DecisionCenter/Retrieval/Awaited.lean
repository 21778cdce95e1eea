import DecisionCenter.Retrieval.Workflow

/-!
# What a retrieval awaits

The calls of the nodes 5 to 11, for an authorized request. The lemmas follow the nodes; what
they say of a read is all that the results on the scope of a report use of the nodes.

`Authorized.Awaits` lists the calls, one constructor for each place in the source at which one
is made: a search for documents, the list of files, the conversations of the group, the messages
of the caller, and the three kinds of Odoo queries, each with the arguments that it can have.
The query of a search may be anything, since node 11 takes it from the planner; the site, the
mailbox and the linked records are those of the entry of the project, and where the node asks
for a permission or looks at the allowlist first, this is a premise.

A task awaits only such calls if each operation in it is one, whatever the answers are
(`Task.Always`). That is closed under `bind` and under the choices that the nodes make, so each
lemma goes through the code of one node: its loop over the terms by induction on them, its reads
by the constructor of the call.

The lemma for the whole phase is the last one. `Retrieval.ReadScope` and `Retrieval.OdooScope`
go on from it to the addresses that are fetched, and to what Odoo is called for.
-/

namespace DecisionCenter

open Async Py

variable {F : Type} [Text] [Floats F] {mapping : ProjectMapping}

/-- A call that the nodes 5 to 11 may await. -/
inductive Authorized.Awaits (a : Authorized F mapping) : Call F → Prop
  | remaining : a.Awaits .remaining
  | plan : a.Awaits .plan
  /-- Node 5 searches for its terms, node 11 for what the planner asks for. -/
  | documents (query : Value F) :
    a.Awaits (.read (.sharepoint ⟨query, a.code, a.entry.siteId, a.entry.driveId⟩))
  | files (hrole : a.role.permissions.canAccessOwncloud = true) :
    a.Awaits (.read (.owncloud a.code a.entry.owncloudBasePath))
  | conversations {id : String} (hrole : a.role.permissions.canAccessSharepoint = true)
    (h : a.entry.mailGroup? = some id) :
    a.Awaits (.read (.group id a.entry.group.mail a.code))
  | messages (query : String) (hrole : a.role.permissions.canAccessOwnMailbox = true)
    (h : lower a.state.userId ∈ a.entry.allowedMailboxes.map lower) :
    a.Awaits (.read (.email ⟨query, a.code, a.state.userId, a.entry.allowedMailboxes⟩))
  | project {ids : List String} {q : OdooQuery} (h : projectQuery a.entry.odoo a.code ids = .ok q)
    (limit : Option ℤ) : a.Awaits (.read (.odoo q) limit)
  | costs {ids : List String} {q : OdooQuery}
    (h : costQuery a.entry.odoo a.code ids = .ok (some q)) (limit : Option ℤ) :
    a.Awaits (.read (.odoo q) limit)
  | source {s : OdooSource} (hs : s ∈ odooSources) {ids : List String} {q : OdooQuery}
    (h : buildSourceQuery s a.entry.odoo a.code ids = .ok (some q)) (limit : Option ℤ) :
    a.Awaits (.read (.odoo q) limit)

variable {a : Authorized F mapping}

/-- The task awaits such calls only. -/
abbrev Authorized.AwaitsIn {R : Type} (a : Authorized F mapping) (t : Retrieval F R) : Prop :=
  t.Always a.Awaits fun _ => True

omit [Floats F] in
private theorem awaitsIn_remaining : a.AwaitsIn (Retrieval.remaining (F := F)) :=
  ⟨.remaining, fun _ => trivial⟩

omit [Floats F] in
private theorem awaitsIn_read {r : Read F} {limit : Option ℤ} (h : a.Awaits (.read r limit)) :
    a.AwaitsIn (Retrieval.read r limit) :=
  ⟨h, fun _ => trivial⟩

/-! ### Documents and mail -/

private theorem awaitsIn_searchTerms (query : String) (terms : List String)
    (acc : SharepointFound F) : a.AwaitsIn (searchTerms a.entry query a.code terms acc) := by
  induction terms generalizing acc with
  | nil => trivial
  | cons term terms ih =>
    refine (awaitsIn_read (.documents _)).bind fun x _ => ?_
    cases x with
    | error f => trivial
    | ok raw =>
      dsimp only
      split
      · exact ih _
      · trivial

private theorem awaitsIn_searchSharepoint :
    a.AwaitsIn (searchSharepoint a.entry a.role.permissions a.state.query a.code) := by
  rw [searchSharepoint]
  split
  · exact awaitsIn_searchTerms _ _ _
  · trivial

omit [Floats F] in
private theorem awaitsIn_listOwncloud :
    a.AwaitsIn (listOwncloud a.entry a.role.permissions a.code) := by
  rw [listOwncloud]
  split
  · next hrole => exact (awaitsIn_read (.files hrole)).bind fun _ _ => trivial
  · trivial

/-- Node 7, in a state that nodes 5 and 6 have left. It reads the group of the mapping, or the
caller's own mailbox where it is on the list. -/
theorem awaitsIn_searchMessages {state : DecisionState F} (huser : state.userId = a.state.userId)
    (hmailboxes : state.allowedMailboxes = a.entry.allowedMailboxes) :
    a.AwaitsIn (searchMessages a.entry a.role.permissions state a.code) := by
  rw [searchMessages]
  split
  · next id hid =>
    split
    · next hrole => exact (awaitsIn_read (.conversations hrole hid)).bind fun _ _ => trivial
    · trivial
  · rw [huser, hmailboxes]
    split
    · trivial
    · next hrole =>
      dsimp only
      split
      · trivial
      · split
        · trivial
        · next hown =>
          have hrole' : a.role.permissions.canAccessOwnMailbox = true := by simpa using hrole
          exact (awaitsIn_read (.messages _ hrole' (not_not.mp hown))).bind fun _ _ => trivial

/-! ### Odoo -/

variable {q : OdooQuery}

omit [Floats F] in
private theorem awaitsIn_timed (hq : ∀ limit, a.Awaits (.read (.odoo q) limit)) (capMs : ℤ) :
    a.AwaitsIn (readOdooTimed (F := F) q capMs) := by
  refine awaitsIn_remaining.bind fun left _ => ?_
  split
  · trivial
  · exact awaitsIn_read (hq _)

omit [Floats F] in
private theorem awaitsIn_withRetry (hq : ∀ limit, a.Awaits (.read (.odoo q) limit)) (capMs : ℤ)
    (retries : ℕ) : a.AwaitsIn (readOdooWithRetry (F := F) q capMs retries) := by
  induction retries with
  | zero => exact awaitsIn_timed hq capMs
  | succ retries ih =>
    refine (awaitsIn_timed hq capMs).bind fun x _ => ?_
    cases x with
    | ok items => trivial
    | error failure =>
      cases failure with
      | timeout => trivial
      | error text =>
        refine awaitsIn_remaining.bind fun left _ => ?_
        split
        · trivial
        · exact ih

omit [Floats F] in
/-- The loop over the registered sources reads their queries. -/
private theorem awaitsIn_specs {specs : List SourceSpec}
    (h : ∀ spec ∈ specs, ∀ q, spec.2 = some q → ∀ limit, a.Awaits (.read (.odoo q) limit))
    (acc : List (Evidence F)) : a.AwaitsIn (readSpecs specs acc) := by
  induction specs generalizing acc with
  | nil => trivial
  | cons spec specs ih =>
    obtain ⟨s, query⟩ := spec
    have hrest := ih fun spec hspec => h spec (List.mem_cons_of_mem _ hspec)
    cases query with
    | none => exact hrest acc
    | some q =>
      rw [readSpecs]
      refine (awaitsIn_timed (h _ List.mem_cons_self q rfl) _).bind fun x _ => ?_
      cases x with
      | ok items => exact hrest _
      | error failure =>
        cases failure with
        | timeout =>
          refine awaitsIn_remaining.bind fun left _ => ?_
          split
          · trivial
          · exact hrest acc
        | error text => exact hrest acc

omit [Floats F] in
private theorem awaitsIn_extended (ids : List String) {sources : List OdooSource}
    (hsources : sources ⊆ odooSources) (acc : List (Evidence F)) :
    a.AwaitsIn (readExtendedSources a.entry.odoo a.code ids sources acc) := by
  rw [readExtendedSources]
  split
  · trivial
  · next specs hspecs =>
    refine awaitsIn_specs (fun spec hspec q hq => ?_) acc
    obtain ⟨hsource, hbuilt⟩ := buildSourceQuery_of_mem hspecs spec hspec
    exact .source (hsources hsource) (hq ▸ hbuilt)

omit [Floats F] in
private theorem awaitsIn_further (settings : RetrievalSettings) (state : DecisionState F)
    (project : List (Evidence F)) :
    a.AwaitsIn (readFurther settings a.entry state a.code project) := by
  rw [readFurther]
  split
  · trivial
  next query hquery =>
  have hcosts : a.AwaitsIn (readCostLines (F := F) query) := by
    cases query with
    | none => trivial
    | some q =>
      refine (awaitsIn_withRetry (.costs hquery) _ _).bind fun x _ => ?_
      cases x <;> trivial
  refine hcosts.bind fun cost _ => ?_
  split
  · exact (awaitsIn_extended _ (List.filter_subset_self _) _).bind fun _ _ => trivial
  · trivial

omit [Floats F] in
private theorem awaitsIn_facts (settings : RetrievalSettings) (state : DecisionState F) :
    a.AwaitsIn (readOdooFacts settings a.entry a.role.permissions state a.code) := by
  rw [readOdooFacts]
  split
  · trivial
  split
  · trivial
  next query hquery =>
  refine (awaitsIn_withRetry (.project hquery) _ _).bind fun x _ => ?_
  cases x with
  | error failure => trivial
  | ok project => exact awaitsIn_further settings state project

/-! ### Self-correction -/

omit [Floats F] in
private theorem awaitsIn_reread {r : Read F} (h : a.Awaits (.read r)) (planned : Bool) :
    a.AwaitsIn (reread planned r) := by
  rw [reread]
  split
  · exact (awaitsIn_read h).bind fun _ _ => trivial
  · trivial

/-- Node 11 reads the mapped project, whatever is planned. The plan says which of the two sources to
ask, and what for. -/
theorem awaitsIn_selfCorrect (state : DecisionState F) :
    a.AwaitsIn (selfCorrect a.entry state a.code) := by
  rw [selfCorrect]
  split
  · trivial
  split
  · trivial
  refine ⟨.plan, fun reply => ?_⟩
  cases reply with
  | none => trivial
  | some parsed =>
    dsimp only
    split
    · trivial
    rw [tryRetrieval]
    split
    · trivial
    next targets _ =>
    refine (awaitsIn_reread (.documents _) _).bind fun documents _ => ?_
    have hrecords : a.AwaitsIn (rereadRecord (targets "odoo")
        (projectQuery a.entry.odoo a.code state.allowedOdooIds)) := by
      cases hquery : projectQuery a.entry.odoo a.code state.allowedOdooIds with
      | error exc => trivial
      | ok q => exact awaitsIn_reread (.project hquery _) _
    exact hrecords.bind fun _ _ => trivial

/-! ### The phase -/

private theorem frame_recordSharepoint (m : ProjectEntry) (r : SharepointRead F)
    (state : DecisionState F) :
    (recordSharepoint m r state).userId = state.userId ∧
      (recordSharepoint m r state).allowedMailboxes = state.allowedMailboxes := by
  cases r <;> exact ⟨rfl, rfl⟩

/-- All that is awaited for an authorized request is a call that `Awaits` lists. -/
theorem awaitsIn_gather (a : Authorized F mapping) (settings : RetrievalSettings) :
    a.AwaitsIn (a.gather settings) := by
  have hcollect : a.AwaitsIn (a.collect settings) := by
    refine awaitsIn_searchSharepoint.bind fun sharepoint _ => ?_
    refine awaitsIn_listOwncloud.bind fun owncloud _ => ?_
    obtain ⟨huser, hmailboxes⟩ := frame_recordSharepoint a.entry sharepoint a.state
    refine (awaitsIn_searchMessages huser (hmailboxes.trans a.mailboxes_eq)).bind fun email _ => ?_
    exact (awaitsIn_facts settings _).bind fun _ _ => trivial
  refine hcollect.bind fun reads _ => ?_
  exact (awaitsIn_selfCorrect _).bind fun _ _ => trivial

end DecisionCenter
