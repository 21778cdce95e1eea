import DecisionCenter.Scan.Holding

/-!
# Sessions settle

A registered session that nobody is at work on has an overall state other than pending and
running, in every run in which each admitted retry covers its session and the audit insert of a
retry of a registered session does not fail. A retry with `mode=failed` of a session that was
interrupted leaves the sources that were being scanned as they are, and the session running for
good.

`Settles` is about every registered session in a state, and `Clean` a condition on a step: a
retry that is admitted, and selects a source, selects all that are open (`RetryCovers`), and a
handler that has set a registered session to pending does not fail before its task is launched.

The invariant `Orderly` extends that on who holds a session. What an actor is still to scan
covers the open sources of the session it holds, and a registered session that nobody holds is
finished. A task takes its sources one by one, and what its next phase covers is what it leaves
to be scanned; when it lets the session go, nothing is open, so that the overall state is a
final one (`finished_taskStep`).

The steps are gone through by `Moves`, and `settles_throughout` is the induction over the run,
with any requests and answers, from any table of saved sessions. A retry of the incomplete
sources takes up what was interrupted and settles; a retry of the failed ones passes it over.
-/

namespace DecisionCenter.Scan

open Async Py

/-! ### Settled sessions -/

/-- The state of the session is the one its sources have, and none of them is to be scanned. -/
def Finished (s : ScanSession) : Prop :=
  s.state = overallState s.sources ∧ ∀ st ∈ s.sources, ¬ st.status.Open

/-- The session does not block another scan, and is completed when its sources are. -/
def Settled (s : ScanSession) : Prop :=
  ¬ s.state.Open ∧
    (s.state = .completed ↔ ∀ st ∈ s.sources, st.status ≠ .unmapped → st.status ∈ terminalOk)

instance (s : ScanSession) : Decidable (Settled s) := inferInstanceAs (Decidable (_ ∧ _))

/-- A session whose sources are finished has settled. -/
private theorem settled_of_finished {s : ScanSession} (h : Finished s) : Settled s := by
  obtain ⟨hstate, hopen⟩ := h
  have hnone : ¬ ∃ st ∈ s.sources.map (·.status), st.Open := by
    rintro ⟨status, hstatus, hso⟩
    obtain ⟨st, hst, rfl⟩ := List.mem_map.mp hstatus
    exact hopen st hst hso
  have hconsidered : (∀ status ∈ (s.sources.map (·.status)).filter (· ≠ .unmapped),
      status ∈ terminalOk) ↔
        ∀ st ∈ s.sources, st.status ≠ .unmapped → st.status ∈ terminalOk := by
    simp only [List.mem_filter, List.mem_map, decide_eq_true_eq, and_imp, forall_exists_index,
      forall_apply_eq_imp_iff₂]
  rw [Settled, hstate, overallState, ← hconsidered]
  rw [if_neg hnone]
  by_cases hempty : (s.sources.map (·.status)).filter (· ≠ .unmapped) = []
  · rw [if_pos hempty, hempty]
    exact ⟨by decide, by simp⟩
  rw [if_neg hempty]
  by_cases hok : ∀ status ∈ (s.sources.map (·.status)).filter (· ≠ .unmapped),
      status ∈ terminalOk
  · rw [if_pos hok]
    exact ⟨by decide, iff_of_true rfl hok⟩
  rw [if_neg hok]
  split
  · exact ⟨by decide, iff_of_false (by decide) hok⟩
  · exact ⟨by decide, iff_of_false (by decide) hok⟩

/-- Neither a handler nor a task is at work on the session. -/
def World.Idle (w : World) (ref : ℕ) : Prop := ∀ i < w.actors, (w.actor i).held ≠ some ref

instance (w : World) (ref : ℕ) : Decidable (w.Idle ref) :=
  inferInstanceAs (Decidable (∀ i < w.actors, _))

/-- Every registered session that nobody is at work on is settled. -/
def Settles (w : World) : Prop := ∀ e ∈ w.active, w.Idle e.ref → Settled (w.session e.ref)

instance (w : World) : Decidable (Settles w) :=
  inferInstanceAs (Decidable (∀ e ∈ w.active, _))

/-! ### The condition -/

/-- A retry scans all sources of the session that are pending or running, and the registry knows
the ones it selects. -/
def RetryCovers (session : ScanSession) (mode : String) : Prop :=
  (∀ st ∈ session.sources, st.status.Open → st.key ∈ selectRetryKeys session mode) ∧
    ∀ k ∈ selectRetryKeys session mode, k ∈ odooSources.map (·.key)

/-- The step admits no retry that selects a source and leaves another one behind, and no audit
insert of a retry of a registered session fails. -/
def Clean (w : World) : Action → Prop
  | .gotContext i _ _ =>
    match w.actor i with
    | .retryRequest code sessionId mode => ∀ ref, w.getActive sessionId = some ref →
        (w.session ref).projectCode = code → ¬ (w.session ref).state.Open →
          selectRetryKeys (w.session ref) mode ≠ [] → RetryCovers (w.session ref) mode
    | _ => True
  | .resume i =>
    match w.actor i with
    | .retryLoad code sessionId mode _ => ∀ snap,
        Table.lookup ScanSession.sessionId sessionId w.saved = some snap →
          snap.projectCode = code → selectRetryKeys snap mode ≠ [] → RetryCovers snap mode
    | _ => True
  | .failed i _ =>
    match w.actor i with
    | .retryLog ref _ _ => ∀ e ∈ w.active, e.ref ≠ ref
    | _ => True
  | _ => True

/-! ### The invariant -/

/-- Every source that is to be scanned will be, and what is registered and not held is finished. -/
structure Orderly (w : World) : Prop extends Base w where
  covered : ∀ i ref, (w.actor i).held = some ref →
    ∀ st ∈ (w.session ref).sources, st.status.Open → st.key ∈ (w.actor i).keys
  finished : ∀ e ∈ w.active, (∀ i, (w.actor i).held ≠ some e.ref) → Finished (w.session e.ref)
  /-- A new session is registered with the launch of its task. -/
  unregistered : ∀ i ref ctx, w.actor i = .scanPersist ref ctx → ∀ e ∈ w.active, e.ref ≠ ref

private theorem orderly_start (saved : List ScanSession) : Orderly (.start saved) where
  toBase := base_start saved
  covered i ref h := by cases h
  finished e he := by cases he
  unregistered i ref ctx h := by cases h

private theorem settles_of_orderly {w : World} (h : Orderly w) : Settles w := by
  intro e he hidle
  refine settled_of_finished (h.finished e he fun i hi => ?_)
  by_cases hlt : i < w.actors
  · exact hidle i hlt hi
  · rw [h.started i (Nat.not_lt.mp hlt)] at hi
    cases hi

/-- What a step on session `r` does to an actor: nothing, if it is not at work on `r`; it lets the
session go; or it has it from now on, and covers its sources. -/
def Changes (w w' : World) (r j : ℕ) : Prop :=
  (w'.actor j = w.actor j ∧ (w.actor j).held ≠ some r) ∨
  (((w.actor j).held = none ∨ (w.actor j).held = some r) ∧
    ((w'.actor j).held = none ∨ (w'.actor j).held = some r ∧
      (∀ st ∈ (w'.session r).sources, st.status.Open → st.key ∈ (w'.actor j).keys) ∧
      ∀ ctx, w'.actor j = .scanPersist r ctx → ∀ e ∈ w'.active, e.ref ≠ r))

/-- A step that changes one session and leaves the others is judged by this session: it is covered
by whoever holds it, or finished. -/
theorem Orderly.update {w w' : World} (h : Orderly w) (hbase : Base w') {r : ℕ}
    (hchanges : ∀ j, Changes w w' r j)
    (hsession : ∀ ref < w.refs, ref ≠ r → w'.session ref = w.session ref)
    (hactive : ∀ e ∈ w'.active, e ∈ w.active ∨ e.ref = r)
    (hfinished : (∀ j, (w'.actor j).held ≠ some r) → (∃ e ∈ w'.active, e.ref = r) →
      Finished (w'.session r)) : Orderly w' := by
  refine ⟨hbase, fun j ref hj => ?_, fun e he hidle => ?_, fun j ref ctx hj e he => ?_⟩
  -- an actor whose scan is not `r` holds what it held; the others are covered by hypothesis
  · rcases hchanges j with ⟨hsame, hne⟩ | ⟨-, hnone | ⟨hsome, hcovered, -⟩⟩
    · rw [hsame] at hj ⊢
      have href : ref ≠ r := by
        rintro rfl
        exact hne hj
      rw [hsession ref (h.held_lt j ref hj) href]
      exact h.covered j ref hj
    · rw [hnone] at hj
      cases hj
    · rw [hsome] at hj
      obtain rfl := Option.some.inj hj
      exact hcovered
  -- a registered scan other than `r` had its actor, or none, before the step too
  · by_cases href : e.ref = r
    · rw [href]
      refine hfinished (fun j hj => hidle j ?_) ⟨e, he, href⟩
      rw [href]
      exact hj
    · have hmem : e ∈ w.active := (hactive e he).resolve_right href
      rw [hsession e.ref (h.active_lt e hmem) href]
      refine h.finished e hmem fun j hj => ?_
      rcases hchanges j with ⟨hsame, -⟩ | ⟨hnone | hsome, -⟩
      · exact hidle j (by rw [hsame]; exact hj)
      · rw [hnone] at hj
        cases hj
      · rw [hsome] at hj
        exact href (Option.some.inj hj).symm
  · have hheld : (w'.actor j).held = some ref := by
      rw [hj]
      rfl
    rcases hchanges j with ⟨hsame, hne⟩ | ⟨-, hnone | ⟨hsome, -, hnew⟩⟩
    · rw [hsame] at hj hheld
      rcases hactive e he with hmem | rfl
      · exact h.unregistered j ref ctx hj e hmem
      · rintro rfl
        exact hne hheld
    · rw [hnone] at hheld
      cases hheld
    · rw [hsome] at hheld
      obtain rfl := Option.some.inj hheld
      exact hnew ctx hj e he

/-! ### Steps -/

variable {w w' : World}

/-- An actor that the step leaves alone, and that is not at work on the session. -/
theorem changes_of_eq {r j : ℕ} (h : w'.actor j = w.actor j) (hne : (w.actor j).held ≠ some r) :
    Changes w w' r j := .inl ⟨h, hne⟩

private theorem held_ne_refs (h : Base w) (j : ℕ) : (w.actor j).held ≠ some w.refs := by
  intro hj
  exact absurd (h.held_lt j _ hj) (Nat.lt_irrefl _)

private theorem not_registered_refs (h : Base w) : ¬ ∃ e ∈ w.active, e.ref = w.refs := by
  rintro ⟨e, he, href⟩
  exact absurd (href ▸ h.active_lt e he) (Nat.lt_irrefl _)

/-- A handler that takes a new session over covers it, or lets it go. A new session is registered by
nobody. -/
theorem orderly_alloc (h : Orderly w) {i : ℕ} {s : ScanSession} {x : Actor}
    (hi : (w.actor i).held = none) (hbase : Base ((w.alloc s).become i x))
    (hx : x.held = none ∨ x.held = some w.refs ∧
      ∀ st ∈ s.sources, st.status.Open → st.key ∈ x.keys) :
    Orderly ((w.alloc s).become i x) := by
  have hnew : ((w.alloc s).become i x).session w.refs = s :=
    (World.session_alloc w s w.refs).trans (if_pos rfl)
  refine h.update hbase (r := w.refs) (fun j => ?_) (fun ref _ hne => ?_) (fun e he => .inl he)
    (fun _ hreg => absurd hreg (not_registered_refs h.toBase))
  · by_cases hji : j = i
    · subst hji
      have hactor : ((w.alloc s).become j x).actor j = x := by
        rw [World.actor_become, if_pos rfl]
      refine .inr ⟨.inl hi, ?_⟩
      rw [hactor, hnew]
      refine hx.imp_right fun hcovers => ⟨hcovers.1, hcovers.2, fun _ _ e he href => ?_⟩
      exact not_registered_refs h.toBase ⟨e, he, href⟩
    · refine changes_of_eq ?_ (held_ne_refs h.toBase j)
      rw [World.actor_become, if_neg hji]
      rfl
  · exact (World.session_alloc w s ref).trans (if_neg hne)

/-- The sources of a retry that covers its session. -/
theorem covers_retryStart {s : ScanSession} {mode : String} (h : RetryCovers s mode) :
    ∀ st ∈ (retryStart s mode).1.sources, st.status.Open →
      st.key ∈ (retryStart s mode).2.map OdooSource.key := by
  intro st hst hopen
  have hkey : st.key ∈ selectRetryKeys s mode := by
    rcases mem_foldl_requeue hst with hkey | hold
    · exact hkey
    · exact h.1 st hold hopen
  obtain ⟨source, hs, hsource⟩ := List.mem_map.mp (h.2 _ hkey)
  refine List.mem_map.mpr ⟨source, List.mem_filter.mpr ⟨hs, ?_⟩, hsource⟩
  rw [hsource]
  exact decide_eq_true hkey

/-- What the next state of a task leaves to be scanned is what its next phase covers. A source that
has been scanned is not open any more. -/
theorem taskStep_covers [Text] {cfg : ScanConfig} {ctx : MapContext}
    {answers : Responses} {s : ScanSession} {ref : ℕ} {phase : TaskPhase}
    (h : ∀ st ∈ s.sources, st.status.Open → st.key ∈ (Actor.task ref ctx phase).keys) :
    ∀ st ∈ (taskStep cfg ctx answers s phase).1.sources, st.status.Open →
      st.key ∈ (TaskPhase.actor ref ctx (taskStep cfg ctx answers s phase).2).keys := by
  intro st hst hopen
  match phase with
  | .created sources => exact h st hst hopen
  | .between (source :: rest) =>
    rcases Table.mem_upsert hst with rfl | ⟨hold, -⟩
    · exact List.mem_cons_self
    · exact h st hold hopen
  | .scanning source prior rest =>
    rcases Table.mem_upsert hst with rfl | ⟨hold, hne⟩
    · exact absurd hopen not_open_scanResult
    · rw [key_scanResult] at hne
      exact (List.mem_cons.mp (h st hold hopen)).resolve_left hne
  | .between [] => exact h st hst hopen
  | .flushing => exact h st hst hopen

/-- A task that lets its session go has finished it. -/
theorem finished_taskStep [Text] {cfg : ScanConfig} {ctx : MapContext}
    {answers : Responses} {s : ScanSession} {ref : ℕ} {phase : TaskPhase}
    (h : ∀ st ∈ s.sources, st.status.Open → st.key ∈ (Actor.task ref ctx phase).keys)
    (hheld : (Actor.task ref ctx phase).held = some ref)
    (hdone : (TaskPhase.actor ref ctx (taskStep cfg ctx answers s phase).2).held ≠ some ref) :
    Finished (taskStep cfg ctx answers s phase).1 := by
  match phase with
  | .created sources => exact absurd rfl hdone
  | .between (source :: rest) => exact absurd rfl hdone
  | .scanning source prior rest => exact absurd rfl hdone
  | .between [] => exact ⟨rfl, fun st hst hopen => absurd (h st hst hopen) List.not_mem_nil⟩
  | .flushing => cases hheld

/-- A request arrives. -/
theorem orderly_spawn (h : Orderly w) {x : Actor} (hx : x.held = none)
    (hbase : Base (w.spawn x)) : Orderly (w.spawn x) := by
  have hnew : (w.actor w.actors).held = none := by
    rw [h.started w.actors (Nat.le_refl _)]
    rfl
  refine h.update hbase (r := w.refs) (fun j => ?_) (fun _ _ _ => rfl) (fun e he => .inl he)
    (fun _ hreg => (not_registered_refs h.toBase hreg).elim)
  by_cases hj : j = w.actors
  · subst hj
    refine .inr ⟨.inl hnew, .inl ?_⟩
    rw [World.actor_spawn, if_pos rfl, hx]
  · refine changes_of_eq ?_ (held_ne_refs h.toBase j)
    rw [World.actor_spawn, if_neg hj]

/-- An actor goes on that holds no session. -/
theorem orderly_become (h : Orderly w) {i : ℕ} {x : Actor} (hi : (w.actor i).held = none)
    (hx : x.held = none) (hbase : Base (w.become i x)) : Orderly (w.become i x) := by
  refine h.update hbase (r := w.refs) (fun j => ?_) (fun _ _ _ => rfl) (fun e he => .inl he)
    (fun _ hreg => (not_registered_refs h.toBase hreg).elim)
  by_cases hj : j = i
  · subst hj
    refine .inr ⟨.inl hi, .inl ?_⟩
    rw [World.actor_become, if_pos rfl, hx]
  · refine changes_of_eq ?_ (held_ne_refs h.toBase j)
    rw [World.actor_become, if_neg hj]

/-- A retry is admitted that covers the live session it takes over. What the retry does not select
was finished before. -/
theorem orderly_retry (h : Orderly w) {i ref : ℕ} {mode : String} {ctx : MapContext}
    (hi : (w.actor i).held = none) (hidle : ¬ (w.session ref).state.Open)
    (hcovers : RetryCovers (w.session ref) mode)
    (hbase : Base ((w.write ref (retryStart (w.session ref) mode).1).become i
      (.retryLog ref (retryStart (w.session ref) mode).2 ctx))) :
    Orderly ((w.write ref (retryStart (w.session ref) mode).1).become i
      (.retryLog ref (retryStart (w.session ref) mode).2 ctx)) := by
  refine h.update hbase (r := ref) (fun j => ?_) (fun ref' _ hne => ?_) (fun e he => .inl he)
    (fun hnone _ => ?_)
  · by_cases hj : j = i
    · subst hj
      refine .inr ⟨.inl hi, .inr ?_⟩
      have hsession := (World.session_write w ref ref (retryStart (w.session ref) mode).1).trans
        (if_pos rfl)
      have hstart := covers_retryStart hcovers
      rw [← hsession] at hstart
      rw [World.actor_become, if_pos rfl]
      exact ⟨rfl, hstart, nofun⟩
    · refine changes_of_eq ?_ fun hheld => hidle (h.isOpen j ref hheld)
      rw [World.actor_become, if_neg hj]
      rfl
  · exact (World.session_write w ref ref' _).trans (if_neg hne)
  · refine absurd ?_ (hnone i)
    rw [World.actor_become, if_pos rfl]
    rfl

/-- An admitted handler hands its session to a task. From then on the session is registered, and
covered by the task. -/
theorem orderly_launch (h : Orderly w) {i ref : ℕ} {ctx : MapContext}
    {sources : List OdooSource} {saved : Bool} (hi : (w.actor i).Admitted ref ctx sources)
    (hbase : Base ((w.saveIf saved (w.session ref)).launch i ref ctx sources)) :
    Orderly ((w.saveIf saved (w.session ref)).launch i ref ctx sources) := by
  obtain ⟨hheld, hkeys⟩ := hi.held
  have hactors : (w.saveIf saved (w.session ref)).actors = w.actors := World.actors_saveIf _ _ _
  have htask : ((w.saveIf saved (w.session ref)).launch i ref ctx sources).actor w.actors =
      .task ref ctx (.created sources) := by
    rw [World.actor_launch, hactors, if_pos rfl]
  have hsession : ((w.saveIf saved (w.session ref)).launch i ref ctx sources).session =
      w.session := by
    simp [World.launch, World.spawn, World.become, World.register]
  refine h.update hbase (r := ref) (fun j => ?_) (fun ref' _ _ => by rw [hsession])
    (fun e he => ?_) (fun hnone _ => ?_)
  -- the new task takes over what the handler held; the handler is done
  · by_cases hj : j = w.actors
    · subst hj
      refine .inr ⟨.inl ?_, .inr ⟨by rw [htask]; rfl, ?_, by rw [htask]; rintro _ ⟨⟩⟩⟩
      · rw [h.started w.actors (Nat.le_refl _)]
        rfl
      · rw [htask, hsession]
        have hcovered := h.covered i ref hheld
        rw [hkeys] at hcovered
        exact hcovered
    · by_cases hji : j = i
      · subst hji
        refine .inr ⟨.inr hheld, .inl ?_⟩
        rw [World.actor_launch, hactors, if_neg hj, if_pos rfl]
        rfl
      · refine changes_of_eq ?_ fun hheld' => hji (h.single j i ref hheld' hheld)
        rw [World.actor_launch, hactors, if_neg hj, if_neg hji, World.actor_saveIf]
  · rcases mem_register he with rfl | ⟨hmem, -⟩
    · exact .inr rfl
    · rw [World.active_saveIf] at hmem
      exact .inl hmem
  · exact absurd (by rw [htask]; rfl) (hnone w.actors)

/-- An admitted handler gives up a session that is not registered. So nothing is asked of it any
more. -/
theorem orderly_giveUp (h : Orderly w) {i ref : ℕ} {ctx : MapContext} {sources : List OdooSource}
    {saved : Bool} (hi : (w.actor i).Admitted ref ctx sources)
    (hunregistered : ∀ e ∈ w.active, e.ref ≠ ref)
    (hbase : Base ((w.saveIf saved (w.session ref)).become i .done)) :
    Orderly ((w.saveIf saved (w.session ref)).become i .done) := by
  have hheld := hi.held.1
  refine h.update hbase (r := ref) (fun j => ?_) (fun ref' _ _ => ?_) (fun e he => .inl ?_)
    (fun _ hreg => ?_)
  · by_cases hji : j = i
    · subst hji
      refine .inr ⟨.inr hheld, .inl ?_⟩
      rw [World.actor_become, if_pos rfl]
      rfl
    · refine changes_of_eq ?_ fun hheld' => hji (h.single j i ref hheld' hheld)
      rw [World.actor_become, if_neg hji, World.actor_saveIf]
  · simp [World.become]
  · simpa [World.become] using he
  · obtain ⟨e, he, href⟩ := hreg
    simp only [World.become, World.active_saveIf] at he
    exact absurd href (hunregistered e he)

/-- A task goes on with the session it holds. With its last state the session is finished, and with
the ones before the rest is covered. -/
theorem orderly_work [Text] {cfg : ScanConfig} (h : Orderly w) {i ref : ℕ}
    {ctx : MapContext} {phase : TaskPhase} {answers : Responses} {saved : Bool} {w' : World}
    (hi : w.actor i = .task ref ctx phase) (hheld : (Actor.task ref ctx phase).held = some ref)
    (hw' : w' = ((w.write ref (taskStep cfg ctx answers (w.session ref) phase).1).saveIf saved
      (taskStep cfg ctx answers (w.session ref) phase).1).become i
        (TaskPhase.actor ref ctx (taskStep cfg ctx answers (w.session ref) phase).2))
    (hbase : Base w') : Orderly w' := by
  subst hw'
  have hheldi : (w.actor i).held = some ref := by rw [hi]; exact hheld
  have hopen : (Actor.task ref ctx phase).held = some ref → (w.session ref).state.Open :=
    fun _ => h.isOpen i ref hheldi
  have hcovered := h.covered i ref hheldi
  rw [hi] at hcovered
  have hsession : (((w.write ref (taskStep cfg ctx answers (w.session ref) phase).1).saveIf saved
      (taskStep cfg ctx answers (w.session ref) phase).1).become i (TaskPhase.actor ref ctx
        (taskStep cfg ctx answers (w.session ref) phase).2)).session ref =
      (taskStep cfg ctx answers (w.session ref) phase).1 := by
    simp [World.become]
  -- only actor `i` and its session move, and the session stays covered
  refine h.update hbase (r := ref) (fun j => ?_) (fun ref' _ hne => ?_) (fun e he => .inl ?_)
    (fun hnone _ => ?_)
  · by_cases hji : j = i
    · subst hji
      refine .inr ⟨.inr hheldi, ?_⟩
      rw [World.actor_become, if_pos rfl, hsession]
      refine (taskStep_held hopen).imp_right fun hsome => ?_
      refine ⟨hsome.1, taskStep_covers hcovered, fun ctx' hscan => ?_⟩
      cases hout : (taskStep cfg ctx answers (w.session ref) phase).2 <;>
        rw [hout] at hscan <;> cases hscan
    · refine changes_of_eq ?_ fun hheld' => hji (h.single j i ref hheld' hheldi)
      simp [hji, World.write]
  · simp [World.become, hne]
  · simpa [World.become, World.write] using he
  · rw [hsession]
    refine finished_taskStep hcovered hheld ?_
    have hi' := hnone i
    rw [World.actor_become, if_pos rfl] at hi'
    exact hi'

/-- A task makes its last step, which writes the session as it is. It holds it no longer. -/
theorem orderly_flush [Text] {cfg : ScanConfig} (h : Orderly w) {i ref : ℕ}
    {ctx : MapContext} {answers : Responses} {saved : Bool} {w' : World}
    (hi : w.actor i = .task ref ctx .flushing)
    (hw' : w' = ((w.write ref (taskStep cfg ctx answers (w.session ref) .flushing).1).saveIf saved
      (taskStep cfg ctx answers (w.session ref) .flushing).1).become i
        (TaskPhase.actor ref ctx (taskStep cfg ctx answers (w.session ref) .flushing).2))
    (hbase : Base w') : Orderly w' := by
  subst hw'
  refine h.update hbase (r := w.refs) (fun j => ?_) (fun ref' _ _ => ?_) (fun e he => .inl ?_)
    (fun _ hreg => ?_)
  · by_cases hji : j = i
    · subst hji
      refine .inr ⟨.inl (by rw [hi]; rfl), .inl ?_⟩
      rw [World.actor_become, if_pos rfl]
      rfl
    · refine changes_of_eq ?_ (held_ne_refs h.toBase j)
      simp [hji, World.write]
  · simp [World.become, World.write, taskStep]
  · simpa [World.become, World.write] using he
  · obtain ⟨e, he, href⟩ := hreg
    simp only [World.become, World.active_saveIf, World.write] at he
    exact (not_registered_refs h.toBase ⟨e, he, href⟩).elim

/-- Every clean step keeps the invariant, by cases on what moves. -/
private theorem orderly_moves [Text] {cfg : ScanConfig} {a : Action} (h : Orderly w)
    (hclean : Clean w a) (hmoves : Moves cfg w a w') : Orderly w' := by
  have hbase : Base w' := base_moves h.toBase hmoves
  cases hmoves with
  | skips => exact h
  | arrives _ x hx => exact orderly_spawn h hx.held hbase
  | goesOn _ i x hx hi hdone => exact orderly_become h hi.held hx.held hbase
  | scanAdmitted i code newId ctx hi henabled hidle hfresh =>
    refine orderly_alloc h (by rw [hi]; rfl) hbase (.inr ⟨rfl, fun st hst _ => ?_⟩)
    obtain ⟨source, hs, rfl⟩ := List.mem_map.mp hst
    exact List.mem_map_of_mem hs
  | liveAdmitted i ref code sessionId mode newId ctx hi hlive hcode hidle hkeys =>
    -- `Clean` is used here, where a retry must cover what it reopens, and on giving up
    have hcovers : RetryCovers (w.session ref) mode := by
      rw [Clean, hi] at hclean
      exact hclean ref hlive hcode hidle hkeys
    exact orderly_retry h (by rw [hi]; rfl) hidle hcovers hbase
  | loadedAdmitted i code sessionId mode ctx snap hi hsnap hcode hkeys =>
    have hcovers : RetryCovers snap mode := by
      rw [Clean, hi] at hclean
      exact hclean snap hsnap hcode hkeys
    exact orderly_alloc h (by rw [hi]; rfl) hbase (.inr ⟨rfl, covers_retryStart hcovers⟩)
  | loadedDone i code sessionId mode ctx snap hi hsnap =>
    exact orderly_alloc h (by rw [hi]; rfl) hbase (.inl rfl)
  | launches i ref ctx sources saved hi => exact orderly_launch h hi hbase
  | givesUp i ref ctx sources landed saved hi =>
    have hunregistered : ∀ e ∈ w.active, e.ref ≠ ref := by
      rcases hi with ⟨hi, -⟩ | hi
      · exact h.unregistered i ref ctx hi
      · rw [Clean, hi] at hclean
        exact hclean
    exact orderly_giveUp h hi hunregistered hbase
  | works i ref ctx phase answers saved hi =>
    cases phase with
    | flushing => exact orderly_flush h hi rfl hbase
    | created sources => exact orderly_work h hi rfl rfl hbase
    | between sources => exact orderly_work h hi rfl rfl hbase
    | scanning source prior rest => exact orderly_work h hi rfl rfl hbase

/-! ### Runs -/

/-- Where every admitted retry covers its session, and no audit insert of a retry of a registered
session fails, the sessions settle, in every state that is reached. A session that somebody is at
work on is not asked to be settled. -/
theorem settles_throughout [Text] (cfg : ScanConfig) (saved : List ScanSession)
    (run : List Action) (hrun : Run.Along (World.step cfg) Clean (.start saved) run) :
    Run.Throughout (World.step cfg) Settles (.start saved) run := by
  rintro before after rfl
  have hbefore : Run.Along (World.step cfg) Clean (.start saved) before :=
    (Run.along_append.mp hrun).1
  have hstep : ∀ w a, Orderly w → Clean w a → Orderly (w.step cfg a) :=
    fun w a h hclean => orderly_moves h hclean (moves_step cfg w a)
  exact settles_of_orderly (Run.exec_induction hstep (orderly_start saved) hbefore)

section Latin

open Py.Whole

/-- A mapped project. -/
def mapped : MapContext := ⟨linkConfig "14602" "21963", ["14602"], true⟩

/-- No connector call is answered. -/
def silent : Responses := ⟨.timeout, fun _ => false, fun _ => .timeout⟩

/-- The session of a process that was stopped while it scanned its first source. -/
def interrupted : ScanSession where
  sessionId := "s1"
  projectCode := "PRJ-003"
  state := .running
  sources := [{ key := "project_identity", status := .running },
    { key := "purchase_orders", status := .failed }]

/-- A retry that loads the session, and the steps of its task. -/
def interruptedRetry (mode : String) : List Action :=
  [.retry "PRJ-003" "s1" mode, .gotContext 0 mapped "s2", .resume 0, .resume 0] ++
    List.replicate 7 (.work 1 silent true)

/-- A retry of the incomplete sources covers the interrupted one, and the session settles. -/
theorem settles_interruptedRetry :
    Run.Throughout (World.step {}) Settles (.start [interrupted])
      (interruptedRetry "incomplete") := by
  refine settles_throughout {} [interrupted] _ ?_
  have hcovers : RetryCovers interrupted "incomplete" := by
    unfold RetryCovers
    decide
  have hwork : ∀ n w, Run.Along (World.step {}) Clean w
      (List.replicate n (.work 1 silent true)) := by
    intro n
    induction n with
    | zero => exact fun _ => trivial
    | succ n ih => exact fun w => ⟨trivial, ih _⟩
  refine ⟨trivial, nofun, ?_, trivial, hwork _ _⟩
  rintro snap hsnap - -
  obtain rfl : interrupted = snap := Option.some.inj hsnap
  exact hcovers

/-- A retry of the failed sources leaves the interrupted one running, and the session with it. -/
theorem not_settles_interrupted : ¬ ∀ (cfg : ScanConfig) (saved : List ScanSession)
    (run : List Action), Run.Throughout (World.step cfg) Settles (.start saved) run := by
  intro hall
  have hsettles := hall {} [interrupted] (interruptedRetry "failed") (interruptedRetry "failed") []
    (List.append_nil _).symm
  exact absurd hsettles (by decide +kernel)

end Latin

end DecisionCenter.Scan
