import DecisionCenter.Async.Secrets
import DecisionCenter.Graph.WithheldFigures
import DecisionCenter.Retrieval.PackCoverage

/-!
# Odoo behind a permission

The permission to read Odoo is checked in node 8, and node 11 does not check it. A run for a
role without it stays clear of Odoo, and draws up the same report whatever Odoo holds, just if
the planner of node 11 is not asked or does not ask for Odoo; the figures of the report are then
those of the draft.

Confidentiality compares worlds: `AgreeButOdoo` relates connectors that differ in what Odoo
answers, and `Confidential` says that over all of them no item of Odoo is in the pack after any
node, no figure is in the report, and the reports are the same. That a task avoids Odoo, on the
other hand, is a property of its operations (`AvoidsOdoo`), and from it follows that its result
is the same in related worlds.

Nodes 5 to 8 avoid Odoo for a role without the permission. Node 11 does where its planner is not
asked or asks for something else, or where the id of the project record is none that can be
read, so that the query raises before it is sent. Otherwise it reads the record, and a world in
which Odoo holds one item makes the difference (`selfCorrect_asks`).

The figures are the other half. Without Odoo items no figure is backed, and
`Graph.WithheldFigures` says which drafts show some nevertheless. `odooConfidential_iff` has
both conditions and is exact for all connectors, planners and replies.
-/

namespace DecisionCenter

open Async Py

variable {F S : Type}

/-! ### Worlds that differ in Odoo -/

/-- A read of Odoo. -/
def Call.ReadsOdoo : Call F → Prop
  | .read r _ => r.source = .odoo
  | _ => False

/-- The connectors differ in nothing but what Odoo returns. -/
def Connectors.AgreeButOdoo (world world' : Connectors F S) : Prop :=
  AgreeBut Call.ReadsOdoo world.answer world'.answer

/-- The connectors, where Odoo holds one item. -/
def Connectors.holding (world : Connectors F S) (item : Evidence F)
    (hitem : item.sourceType = .odoo) : Connectors F S where
  answer c s := match c with
    | .read (.odoo q) timeoutMs => (.ok [item], (world.answer (.read (.odoo q) timeoutMs) s).2)
    | c => world.answer c s
  labelled c s := by
    cases c with
    | read r timeoutMs =>
      cases r with
      | odoo q =>
        rintro items ⟨⟩ e he
        rw [List.mem_singleton.mp he]
        exact hitem
      | _ => exact world.labelled _ s
    | _ => trivial

private theorem Connectors.agreeButOdoo_holding (world : Connectors F S) (item : Evidence F)
    (hitem : item.sourceType = .odoo) : world.AgreeButOdoo (world.holding item hitem) := by
  intro c s
  cases c with
  | read r timeoutMs =>
    cases r with
    | odoo q => exact ⟨rfl, fun h => absurd rfl h⟩
    | _ => exact ⟨rfl, fun _ => rfl⟩
  | _ => exact ⟨rfl, fun _ => rfl⟩

/-! ### The first reads -/

section Reads

variable [Text] [Floats F] {mapping : ProjectMapping} (a : Authorized F mapping)

/-- The task awaits no read of Odoo, and its result satisfies `Q`. -/
abbrev AvoidsOdoo {R : Type} (Q : R → Prop) (t : Retrieval F R) : Prop :=
  t.Always (fun c => ¬ c.ReadsOdoo) Q

omit [Text] [Floats F] in
private theorem avoidsOdoo_read {r : Read F} (hr : r.source ≠ .odoo) (timeoutMs : Option ℤ) :
    AvoidsOdoo (fun _ => True) (Retrieval.read r timeoutMs) :=
  ⟨hr, fun _ => trivial⟩

private theorem avoidsOdoo_searchTerms (m : ProjectEntry) (query code : String)
    (terms : List String) (acc : SharepointFound F) :
    AvoidsOdoo (fun _ => True) (searchTerms m query code terms acc) := by
  induction terms generalizing acc with
  | nil => trivial
  | cons term terms ih =>
    refine (avoidsOdoo_read (by rintro ⟨⟩) _).bind fun x _ => ?_
    cases x with
    | error f => trivial
    | ok raw =>
      dsimp only
      split
      · exact ih _
      · trivial

private theorem avoidsOdoo_searchMessages (m : ProjectEntry) (perms : RolePermissions)
    (state : DecisionState F) (code : String) :
    AvoidsOdoo (fun _ => True) (searchMessages m perms state code) := by
  rw [searchMessages]
  split
  · split
    · exact (avoidsOdoo_read (by rintro ⟨⟩) _).bind fun _ _ => trivial
    · trivial
  · split
    · trivial
    · dsimp only
      split
      · trivial
      · split
        · trivial
        · exact (avoidsOdoo_read (by rintro ⟨⟩) _).bind fun _ _ => trivial

/-- Nodes 5 to 8 leave Odoo alone for a role without the permission. Node 8 asks for it before
anything else, and the other nodes read other sources. -/
theorem Authorized.avoidsOdoo_collect (settings : RetrievalSettings)
    (hrole : a.role.permissions.canAccessOdooBudget = false) :
    AvoidsOdoo (fun reads => reads.odoo = .denied) (a.collect settings) := by
  have hsharepoint : AvoidsOdoo (fun _ => True)
      (searchSharepoint a.entry a.role.permissions a.state.query a.code : Retrieval F _) := by
    rw [searchSharepoint]
    split
    · exact avoidsOdoo_searchTerms _ _ _ _ _
    · trivial
  have howncloud : AvoidsOdoo (fun _ => True)
      (listOwncloud a.entry a.role.permissions a.code : Retrieval F _) := by
    rw [listOwncloud]
    split
    · exact (avoidsOdoo_read (by rintro ⟨⟩) _).bind fun _ _ => trivial
    · trivial
  refine hsharepoint.bind fun sharepoint _ => howncloud.bind fun owncloud _ => ?_
  refine (avoidsOdoo_searchMessages _ _ _ _).bind fun email _ => ?_
  dsimp only
  rw [readOdooFacts, hrole]
  rfl

/-! ### Self-correction -/

omit [Text] [Floats F] in
/-- The planner's reply is a plan that has node 11 read Odoo. -/
def PlansOdoo (reply : Option (Option (Dict F))) : Prop :=
  ∃ plan, reply = some (some plan) ∧ (plan.getD "action" (.str "stop")).eqStr "stop" = false ∧
    ∃ targets, holdsName? (plan.getD "target_sources" (.list [])) = some targets ∧
      targets "odoo" = true

omit [Text] [Floats F] in
/-- Node 11 adds no item of Odoo. -/
def Correction.NoRecords (c : Correction F) : Prop :=
  ∀ documents records, c = .retried documents records → records = []

omit [Text] [Floats F] in
private theorem Correction.NoRecords.ne_odoo {c : Correction F} (h : c.NoRecords)
    (hlabelled : c.Labelled) {e : Evidence F} (he : e ∈ c.items) : e.sourceType ≠ .odoo := by
  cases c with
  | retried documents records =>
    obtain rfl := h documents records rfl
    rw [items, List.append_nil] at he
    rw [hlabelled.1 e he]
    decide
  | _ => cases he

/-- A plan that does not name Odoo, or a record that cannot be asked for, leaves Odoo alone. -/
private theorem avoidsOdoo_tryRetrieval (m : ProjectEntry) (state : DecisionState F) (code : String)
    {plan : Dict F} (hplan : ReadableId m.odoo.projectExternalId → ∀ targets,
      holdsName? (plan.getD "target_sources" (.list [])) = some targets → targets "odoo" = false) :
    AvoidsOdoo Correction.NoRecords (tryRetrieval m state code plan) := by
  rw [tryRetrieval]
  split
  · rintro documents records ⟨⟩
    rfl
  · next targets htargets =>
    -- the query of the record is not built, or not called for
    have hrecords : rereadRecord (targets "odoo") (projectQuery m.odoo code
        state.allowedOdooIds) = (.ret [] : Retrieval F (List (Evidence F))) := by
      cases hquery : projectQuery m.odoo code state.allowedOdooIds with
      | error exc => rfl
      | ok q =>
        rw [hplan (projectQuery_eq_ok_iff.mp ⟨q, hquery⟩) targets htargets]
        rfl
    rw [hrecords]
    have hdocuments : AvoidsOdoo (fun _ => True) (reread (targets "sharepoint")
        (.sharepoint
          ⟨(plan.get "new_query").orElse (.str state.query), code, m.siteId, m.driveId⟩) :
          Retrieval F _) := by
      rw [reread]
      split
      · exact (avoidsOdoo_read (by rintro ⟨⟩) _).bind fun _ _ => trivial
      · trivial
    refine hdocuments.bind fun found _ => ?_
    rintro documents records ⟨⟩
    rfl

omit [Text] [Floats F] in
/-- A call of something other than Odoo is avoided with what comes after its answer. -/
theorem AvoidsOdoo.op {α : Type} {P : α → Prop} {act : (c : Call F) → S → c.Result × S}
    {c : Call F} {k : c.Result → Retrieval F α} {s : S} (hc : ¬ c.ReadsOdoo)
    (h : AvoidsOdoo P (k (act c s).1)) :
    (∀ x ∈ (Task.op c k).steps act s, ¬ x.1.ReadsOdoo) ∧ P ((Task.op c k).run act s).1 := by
  rw [Task.steps_op, Task.run_op]
  refine ⟨fun x hx => ?_, h.run _⟩
  obtain rfl | hx := List.mem_cons.mp hx
  · exact hc
  · exact h.steps _ x hx

/-- Where the planner is not asked or does not ask for Odoo, or the record has no readable id, node
11 leaves Odoo alone. -/
theorem selfCorrect_avoids (act : (c : Call F) → S → c.Result × S) (m : ProjectEntry)
    (state : DecisionState F) (code : String) (s : S)
    (h : ¬ (state.outputs.evidenceSufficient ≠ some true ∧ PlansOdoo (act .plan s).1 ∧
      ReadableId m.odoo.projectExternalId)) :
    (∀ x ∈ (selfCorrect m state code).steps act s, ¬ x.1.ReadsOdoo) ∧
      ((selfCorrect m state code).run act s).1.NoRecords := by
  rw [selfCorrect]
  split
  · exact ⟨fun _ hx => (by cases hx), fun _ _ hc => (by cases hc)⟩
  split
  · exact ⟨fun _ hx => (by cases hx), fun _ _ hc => (by cases hc)⟩
  next hinsufficient =>
  refine AvoidsOdoo.op id ?_
  cases hcall : (act .plan s).1 with
  | none =>
    rintro _ _ ⟨⟩
  | some parsed =>
    dsimp only
    split
    · rintro _ _ ⟨⟩
    · next hstop =>
      refine avoidsOdoo_tryRetrieval m state code fun hid targets htargets => ?_
      by_contra hodoo
      cases parsed with
      | none => exact hstop (.inl rfl)
      | some plan =>
        refine h ⟨hinsufficient, ⟨plan, hcall, ?_, targets, htargets, ?_⟩, hid⟩
        · exact Bool.not_eq_true _ ▸ fun h => hstop (.inl h)
        · exact Bool.not_eq_false _ ▸ hodoo

/-- Where the planner asks for Odoo, node 11 adds what Odoo holds. It looks at the plan and at no
permission. -/
theorem selfCorrect_asks {act : (c : Call F) → S → c.Result × S} (m : ProjectEntry)
    {state : DecisionState F} (code : String) {s : S} {item : Evidence F}
    (hloops : state.loopCount = 0) (hinsufficient : state.outputs.evidenceSufficient ≠ some true)
    (hplan : PlansOdoo (act .plan s).1) (hid : ReadableId m.odoo.projectExternalId)
    (hodoo : ∀ q s, (act (.read (.odoo q) none) s).1 = .ok [item]) :
    ∃ documents, ((selfCorrect m state code).run act s).1 = .retried documents [item] := by
  obtain ⟨plan, hreply, haction, targets, htargets, hasks⟩ := hplan
  have hstop : ¬ ((plan.getD "action" (.str "stop")).eqStr "stop" = true ∨
      maxLoops - 1 ≤ state.loopCount) := by
    rw [haction, hloops]
    decide
  rw [selfCorrect, if_neg (by rw [hloops]; decide), if_neg hinsufficient, Task.run_op, hreply]
  dsimp only [Option.getD_some]
  rw [if_neg hstop, tryRetrieval, htargets]
  dsimp only
  obtain ⟨q, hquery⟩ : ∃ q, projectQuery m.odoo code state.allowedOdooIds = .ok q :=
    projectQuery_eq_ok_iff.mpr hid
  have hrecords (s : S) : ((rereadRecord true (.ok q)).run act s).1 = [item] := by
    rw [rereadRecord, reread, if_pos rfl, Task.run_bind', Task.run_ret]
    change ((act (.read (.odoo q) none) s).1.toOption.getD []) = [item]
    rw [hodoo]
    rfl
  rw [Task.run_bind', Task.run_bind', hasks, hquery, hrecords]
  exact ⟨_, rfl⟩

end Reads

/-! ### The run -/

section Run

variable [Text] [Floats F] {mapping : ProjectMapping} (a : Authorized F mapping)

namespace Authorized

/-- The states the nodes 1 to 11 leave, as far as they come. -/
def retrieved (g : Gathered F) : List (DecisionState F) :=
  let afterOwncloud := (a.afterSharepoint g.reads.sharepoint).extend g.reads.owncloud
  [a.state, a.afterSharepoint g.reads.sharepoint, afterOwncloud,
    recordEmail a.entry g.reads.email afterOwncloud, a.collected g.reads,
    normalizeRun (a.collected g.reads), a.prepared g.reads] ++ (a.ready? g).toList

/-- The states the nodes 12 and 13 leave, as far as they come. The later nodes change neither the
pack nor the report. -/
def reported (replies : DraftReplies F) (g : Gathered F) : List (DecisionState F) :=
  (a.ready? g).toList.flatMap fun ready =>
    (draftRun mapping replies ready).toOption.toList.flatMap fun drafted =>
      drafted :: (gateRun drafted).toOption.toList

/-- No item of Odoo is in the pack after any node, and no figure in the report. -/
structure KeepsOdooOut (replies : DraftReplies F) (g : Gathered F) : Prop where
  items : ∀ state ∈ a.retrieved g ++ a.reported replies g, ∀ e ∈ state.evidence,
    e.sourceType ≠ .odoo
  figures : ∀ state ∈ a.reported replies g, ∀ report, state.reportJson = some report →
    ReportsNoFigure report

/-- Whatever Odoo returns, it is kept out of the run, and the reports are the same. -/
def Confidential (settings : RetrievalSettings) (replies : DraftReplies F) (world : Connectors F S)
    (s₀ : S) : Prop :=
  ∀ world', world.AgreeButOdoo world' →
    a.KeepsOdooOut replies ((a.gather settings).run world'.answer s₀).1 ∧
      (a.reported replies ((a.gather settings).run world'.answer s₀).1).map (·.reportJson) =
        (a.reported replies ((a.gather settings).run world.answer s₀).1).map (·.reportJson)

/-- Node 11 comes to ask the planner, as node 10 finds the pack insufficient, the planner asks for
Odoo, and the query of the project record can be built. -/
def AsksOdoo (settings : RetrievalSettings) (world : Connectors F S) (s₀ : S) : Prop :=
  let c := (a.collect settings).run world.answer s₀
  (a.prepared c.1).outputs.evidenceSufficient ≠ some true ∧
    PlansOdoo (world.answer .plan c.2).1 ∧ ReadableId a.entry.odoo.projectExternalId

/-! ### Runs that leave Odoo alone -/

variable {settings : RetrievalSettings} {world world' : Connectors F S} {s₀ : S}

/-- The first reads do not depend on Odoo. -/
theorem run_collect_eq (hrole : a.role.permissions.canAccessOdooBudget = false)
    (h : world.AgreeButOdoo world') :
    (a.collect settings).run world'.answer s₀ = (a.collect settings).run world.answer s₀ :=
  h.run_eq ((a.avoidsOdoo_collect settings hrole).steps s₀)

/-- Where the planner does not ask for Odoo, all that is gathered is independent of it. -/
theorem run_gather_eq (hrole : a.role.permissions.canAccessOdooBudget = false)
    (h : world.AgreeButOdoo world') (hasks : ¬ a.AsksOdoo settings world s₀) :
    (a.gather settings).run world'.answer s₀ = (a.gather settings).run world.answer s₀ := by
  rw [gather, Task.run_bind', Task.run_bind', a.run_collect_eq hrole h, Task.run_bind',
    Task.run_bind']
  have havoids := selfCorrect_avoids world.answer a.entry
    (a.prepared ((a.collect settings).run world.answer s₀).1) a.code
    ((a.collect settings).run world.answer s₀).2
    hasks
  rw [h.run_eq havoids.1]
  rfl

/-! ### What is in the pack -/

omit [Floats F] in
private theorem normalizeEvidence_subset (items : List (Evidence F)) :
    normalizeEvidence items ⊆ items :=
  fun _ he => Dedup.mem_of_mem_keepBest hashKey outranks
    ((Dedup.keepFirst_sublist compositeKey _).subset he)

/-- After the nodes 1 to 11 the pack holds what was read, and nothing else. Node by node it is a
prefix of what was read, then it is deduplicated, and then node 11 adds to it. -/
theorem evidence_retrieved {g : Gathered F} {state : DecisionState F}
    (h : state ∈ a.retrieved g) : state.evidence ⊆ g.reads.items ++ g.correction.items := by
  obtain ⟨sharepointReason, hsharepoint⟩ := recordSharepoint_eq a.entry g.reads.sharepoint a.state
  -- the pack node by node; the packs are the prefixes of what was read, then deduplicated
  have hfive : (a.afterSharepoint g.reads.sharepoint).evidence = g.reads.sharepoint.items := by
    rw [afterSharepoint, hsharepoint]
    change a.state.evidence ++ _ = _
    rw [a.noEvidence, List.nil_append]
  have hsix : ((a.afterSharepoint g.reads.sharepoint).extend g.reads.owncloud).evidence =
      g.reads.sharepoint.items ++ g.reads.owncloud := by
    rw [← hfive]
    rfl
  obtain ⟨emailReason, hemail⟩ := recordEmail_eq a.entry g.reads.email
    ((a.afterSharepoint g.reads.sharepoint).extend g.reads.owncloud)
  have hnormal : normalizeEvidence g.reads.items ⊆ g.reads.items := normalizeEvidence_subset _
  simp only [retrieved, List.mem_append, List.mem_cons, List.not_mem_nil, or_false,
    Option.mem_toList] at h
  rcases h with (rfl | rfl | rfl | rfl | rfl | rfl | rfl) | hready
  · rw [a.noEvidence]
    exact List.nil_subset _
  · rw [hfive, Reads.items]
    simp [List.append_assoc]
  · rw [hsix, Reads.items]
    simp [List.append_assoc]
  · have hseven : (recordEmail a.entry g.reads.email
        ((a.afterSharepoint g.reads.sharepoint).extend g.reads.owncloud)).evidence =
          g.reads.sharepoint.items ++ g.reads.owncloud ++ g.reads.email.items := by
      rw [hemail, ← hsix]
      rfl
    rw [hseven]
    exact List.subset_append_of_subset_left _ (List.subset_append_left _ _)
  · rw [a.collected_evidence]
    exact List.subset_append_left _ _
  · change normalizeEvidence (a.collected g.reads).evidence ⊆ _
    rw [a.collected_evidence]
    exact List.Subset.trans hnormal (List.subset_append_left _ _)
  · change normalizeEvidence (a.collected g.reads).evidence ⊆ _
    rw [a.collected_evidence]
    exact List.Subset.trans hnormal (List.subset_append_left _ _)
  · rw [a.ready_evidence hready]
    exact List.append_subset.mpr ⟨List.subset_append_of_subset_left _ hnormal,
      List.subset_append_right _ _⟩

omit [Floats F] in
private theorem loopCount_recordEmail (m : ProjectEntry) (r : EmailRead F)
    (state : DecisionState F) : (recordEmail m r state).loopCount = state.loopCount := by
  obtain ⟨reason, hrecord⟩ := recordEmail_eq m r state
  rw [hrecord]
  rfl

/-- No correction has been made before node 11. -/
theorem loopCount_prepared (reads : Reads F) : (a.prepared reads).loopCount = 0 := by
  obtain ⟨available, odooReason, hodoo⟩ := recordOdoo_eq a.entry reads.odoo
    (recordEmail a.entry reads.email ((a.afterSharepoint reads.sharepoint).extend reads.owncloud))
  obtain ⟨sharepointReason, hsharepoint⟩ := recordSharepoint_eq a.entry reads.sharepoint a.state
  have hcollected : (a.collected reads).loopCount = 0 := by
    rw [collected, hodoo]
    change (recordEmail a.entry reads.email _).loopCount = 0
    rw [loopCount_recordEmail]
    change (a.afterSharepoint reads.sharepoint).loopCount = 0
    rw [afterSharepoint, hsharepoint]
    exact a.noLoops
  exact hcollected

/-- The nodes 12 and 13 leave the pack as it is. -/
theorem mem_reported {replies : DraftReplies F} {g : Gathered F} {state : DecisionState F}
    (h : state ∈ a.reported replies g) :
    ∃ ready drafted, a.ready? g = some ready ∧ draftRun mapping replies ready = .ok drafted ∧
      state.evidence = ready.evidence ∧ ∀ report, state.reportJson = some report →
        ∃ report', drafted.reportJson = some report' ∧
          report.dict? "financial_snapshot" = report'.dict? "financial_snapshot" := by
  obtain ⟨ready, hready, h⟩ := List.mem_flatMap.mp h
  obtain ⟨drafted, hdrafted, h⟩ := List.mem_flatMap.mp h
  rw [Option.mem_toList] at hready hdrafted
  have hrun : draftRun mapping replies ready = .ok drafted := eq_ok_of_toOption hdrafted
  have hpack : drafted.evidence = ready.evidence := by
    rcases draftRun_cases hrun with ⟨-, hpack, -⟩ | ⟨-, hpack, -⟩ <;> exact hpack
  refine ⟨ready, drafted, hready, hrun, ?_⟩
  obtain rfl | h := List.mem_cons.mp h
  · exact ⟨hpack, fun report hreport => ⟨report, hreport, rfl⟩⟩
  · rw [Option.mem_toList] at h
    obtain ⟨hgate, hreport⟩ := gateRun_frame (eq_ok_of_toOption h)
    exact ⟨hgate.trans hpack, hreport⟩

private theorem draftRun_mem_reported {replies : DraftReplies F} {g : Gathered F}
    {ready drafted : DecisionState F} (hready : a.ready? g = some ready)
    (hrun : draftRun mapping replies ready = .ok drafted) : drafted ∈ a.reported replies g := by
  refine List.mem_flatMap.mpr ⟨ready, Option.mem_toList.mpr hready, ?_⟩
  refine List.mem_flatMap.mpr ⟨drafted, ?_, List.mem_cons_self⟩
  rw [hrun]
  exact Option.mem_toList.mpr rfl

end Authorized

omit [Text] [Floats F] in
private theorem odooEvidence_eq_nil {evidence : List (Evidence F)} :
    odooEvidence evidence = [] ↔ ∀ e ∈ evidence, e.sourceType ≠ .odoo := by
  rw [odooEvidence, List.filter_eq_nil_iff]
  exact forall₂_congr fun e _ => not_congr Evidence.isOdoo_iff

/-- Nothing of Odoo is gathered where the planner does not ask for it. Nodes 5 to 7 label what they
read with their own sources. -/
theorem Authorized.no_odoo_gathered {settings : RetrievalSettings} {world : Connectors F S} {s₀ : S}
    (hrole : a.role.permissions.canAccessOdooBudget = false)
    (hasks : ¬ a.AsksOdoo settings world s₀) :
    ∀ e ∈ ((a.gather settings).run world.answer s₀).1.reads.items ++
      ((a.gather settings).run world.answer s₀).1.correction.items, e.sourceType ≠ .odoo := by
  have hlabelled : Gathered.Labelled ((a.gather settings).run world.answer s₀).1 :=
    world.run_ensures (a.gather_labelled settings) s₀
  have hdenied : ((a.collect settings).run world.answer s₀).1.odoo = .denied :=
    (a.avoidsOdoo_collect settings hrole).run s₀
  have hrecords := (selfCorrect_avoids world.answer a.entry
    (a.prepared ((a.collect settings).run world.answer s₀).1) a.code
    ((a.collect settings).run world.answer s₀).2
    hasks).2
  rw [gather, Task.run_bind', Task.run_bind'] at hlabelled ⊢
  intro e he
  rw [List.mem_append, Reads.items, List.mem_append, List.mem_append, List.mem_append] at he
  rcases he with (((he | he) | he) | he) | he
  · rw [hlabelled.project .sharepoint e he]
    decide
  · rw [hlabelled.owncloud e he]
    decide
  · rw [hlabelled.project .email e he]
    decide
  · change e ∈ ((a.collect settings).run world.answer s₀).1.odoo.items at he
    rw [hdenied] at he
    cases he
  · exact hrecords.ne_odoo hlabelled.correction he

/-- In the runs of a role without the permission, whatever Odoo returns is kept out of the pack and
out of the report, and the report is the same, exactly when the planner of node 11 is not asked or
does not ask for Odoo, or the id of the project record is none, and node 12, where it draws up a
report, takes no draft that shows a figure. -/
theorem odooConfidential_iff {settings : RetrievalSettings} {replies : DraftReplies F}
    {world : Connectors F S} {s₀ : S} (hrole : a.role.permissions.canAccessOdooBudget = false) :
    a.Confidential settings replies world s₀ ↔
      ¬ a.AsksOdoo settings world s₀ ∧
        ∀ ready, a.ready? ((a.gather settings).run world.answer s₀).1 = some ready →
          Completes (draftRun mapping replies ready) → DraftWithholds replies ready := by
  constructor
  · intro hconf
    refine ⟨?_, ?_⟩
    · rintro ⟨hinsufficient, hplan, hid⟩
      -- where the planner asks for Odoo, a world in which Odoo holds one item delivers it
      obtain ⟨item, hitem⟩ : ∃ item : Evidence F, item.sourceType = .odoo :=
        ⟨{ evidenceId := "", sourceType := .odoo, sourceUri := "", title := "", timestamp := none
           excerpt := "", hashSha256 := "", confidence := .high, tags := [], metadata := [] }, rfl⟩
      have hagree := world.agreeButOdoo_holding item hitem
      obtain ⟨hkept, -⟩ := hconf _ hagree
      have hcollect : (a.collect settings).run (world.holding item hitem).answer s₀ =
          (a.collect settings).run world.answer s₀ := a.run_collect_eq hrole hagree
      have hplan' : PlansOdoo ((world.holding item hitem).answer .plan
          ((a.collect settings).run world.answer s₀).2).1 := hplan
      obtain ⟨documents, hcorrection⟩ := selfCorrect_asks a.entry a.code
        (a.loopCount_prepared _) hinsufficient hplan' hid fun _ _ => rfl
      have hgather : ((a.gather settings).run (world.holding item hitem).answer s₀).1 =
          ⟨((a.collect settings).run world.answer s₀).1, .retried documents [item]⟩ := by
        rw [Authorized.gather, Task.run_bind', hcollect, Task.run_bind', Task.run_ret, hcorrection]
      rw [hgather] at hkept
      refine hkept.items _ (List.mem_append_left _ (List.mem_append_right _
        (Option.mem_toList.mpr rfl))) item ?_ hitem
      exact List.mem_append_right _ (List.mem_append_right _ (List.mem_singleton_self _))
    -- the run's own world: no Odoo item is in the pack, so no figure may come from the draft
    · rintro ready hready ⟨drafted, hrun⟩
      obtain ⟨hkept, -⟩ := hconf world AgreeBut.refl
      have hmem := a.draftRun_mem_reported hready hrun
      have hodoo : odooEvidence ready.evidence = [] := odooEvidence_eq_nil.mpr
        (hkept.items ready (List.mem_append_left _ (List.mem_append_right _
          (Option.mem_toList.mpr hready))))
      exact (reportsNoFigure_draftRun_iff hodoo hrun).mp (hkept.figures drafted hmem)
  -- a run that does not ask Odoo cannot tell the two worlds apart
  · rintro ⟨hasks, hdraft⟩ world' hagree
    rw [a.run_gather_eq hrole hagree hasks]
    have hnone := a.no_odoo_gathered hrole hasks
    have hretrieved : ∀ state ∈ a.retrieved ((a.gather settings).run world.answer s₀).1,
        ∀ e ∈ state.evidence, e.sourceType ≠ .odoo := fun state hstate e he =>
      hnone e (a.evidence_retrieved hstate he)
    have hready : ∀ ready, a.ready? ((a.gather settings).run world.answer s₀).1 = some ready →
        ∀ e ∈ ready.evidence, e.sourceType ≠ .odoo := fun ready hready =>
      hretrieved ready (List.mem_append_right _ (Option.mem_toList.mpr hready))
    refine ⟨⟨fun state hstate => ?_, fun state hstate report hreport => ?_⟩, rfl⟩
    · obtain hstate | hstate := List.mem_append.mp hstate
      · exact hretrieved state hstate
      · obtain ⟨ready, -, hsome, -, hpack, -⟩ := a.mem_reported hstate
        rw [hpack]
        exact hready ready hsome
    · obtain ⟨ready, drafted, hsome, hrun, -, hsame⟩ := a.mem_reported hstate
      obtain ⟨report', hreport', hfs⟩ := hsame report hreport
      rw [ReportsNoFigure, hfs]
      exact (reportsNoFigure_draftRun_iff (odooEvidence_eq_nil.mpr (hready ready hsome)) hrun).mpr
        (hdraft ready hsome ⟨drafted, hrun⟩) report' hreport'

end Run

section Whole

open Py.Whole

/-- A document controller's request, past node 1. -/
def controllerState : Authorized ℤ (fun _ => some odooOnlyProject) where
  role := .documentControl
  code := "P1"
  entry := odooOnlyProject
  state := { odooOnlyState.state with role := some "document_control" }
  known := odooOnlyState.known
  generates := rfl
  role_eq := rfl
  code_eq := rfl
  mailboxes_eq := rfl
  odooIds_eq := rfl
  noEvidence := rfl
  noCoverage := rfl
  noLoops := rfl

/-- With a document in the pack the planner is not asked. -/
theorem confidential_controllerState :
    controllerState.Confidential {} ⟨none, none, none⟩ documentConnectors () := by
  refine (odooConfidential_iff controllerState rfl).mpr ⟨fun hasks => hasks.1 (by decide), ?_⟩
  rintro ready - - - draft corrected hdraft
  cases hdraft

/-- The planner asks for Odoo, and the project's record is read for the document controller. -/
theorem not_confidential_controllerState :
    ¬ ∀ (S : Type) (world : Connectors ℤ S) (settings : RetrievalSettings)
      (replies : DraftReplies ℤ) (mapping : ProjectMapping) (a : Authorized ℤ mapping) (s₀ : S),
      a.role.permissions.canAccessOdooBudget = false →
        a.Confidential settings replies world s₀ := by
  intro h
  obtain ⟨hkept, -⟩ := h Bool lateConnectors {} ⟨none, none, none⟩ _ controllerState true rfl
    lateConnectors AgreeBut.refl
  have hpack : (controllerState.ready? ((controllerState.gather {}).run
      lateConnectors.answer true).1).map (·.evidence) = some [yardRecord] := rfl
  obtain ⟨ready, hready, hevidence⟩ := Option.map_eq_some_iff.mp hpack
  refine hkept.items ready (List.mem_append_left _ (List.mem_append_right _
    (Option.mem_toList.mpr hready))) yardRecord ?_ rfl
  rw [hevidence]
  exact List.mem_singleton_self _

end Whole

end DecisionCenter
