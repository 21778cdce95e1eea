import DecisionCenter.Scan.Settled

/-!
# One scan of a project at a time

The check for a running scan looks at the registered sessions, and a scan request makes it; a
retry looks at its own session only. What neither sees is a request that has been admitted and
has not launched its task yet, and a task that is saving its last state. Where no request is
admitted while there is one of these, and no retry while another session of the project is
running, there is one task for a project at a time.

`SingleFlight` says of a state that two tasks in progress have different projects and different
sessions. `Actor.unseen` is what the checks miss, `World.Quiet` a state of a project without any
of it, and `Alone` the condition on a step: what it admits is admitted in a quiet state. The
check that the handler makes is part of the step, so that nothing is asked where it refuses.

That session ids stay apart is an invariant of its own: an id that is new is one that neither
the registry nor the table knows, and objects with one id are of one project
(`World.Consistent`).

`Lone` is the main invariant: one busy actor for a project, and the session of a task that goes
on scanning is the registered one of its id. Its steps are an admission, a launch, which hands
the session over to the task, and the steps of a task. `singleFlight_throughout` follows for
every run. Two requests that are both checked before either launches its task are the failing
run.
-/

namespace DecisionCenter.Scan

open Async Py

/-! ### Tasks in progress -/

/-- The session of a task that has been launched and is not done. -/
def Actor.scans : Actor → Option ℕ
  | .task ref _ _ => some ref
  | _ => none

/-- No two tasks in progress scan the same project, or the same session. -/
structure SingleFlight (w : World) : Prop where
  project : ∀ i j ref ref', (w.actor i).scans = some ref → (w.actor j).scans = some ref' →
    (w.session ref).projectCode = (w.session ref').projectCode → i = j
  session : ∀ i j ref ref', (w.actor i).scans = some ref → (w.actor j).scans = some ref' →
    (w.session ref).sessionId = (w.session ref').sessionId → i = j

/-- The session of an admitted handler, or of a task that saves its last state: what the checks do
not see. -/
def Actor.unseen : Actor → Option ℕ
  | .scanPersist ref _ => some ref
  | .retryLog ref _ _ => some ref
  | .task ref _ .flushing => some ref
  | _ => none

/-- No request of the project is between its admission and its launch, and no task of it is saving
its last state. -/
def World.Quiet (w : World) (code : String) : Prop :=
  ∀ i ref, (w.actor i).unseen = some ref → (w.session ref).projectCode ≠ code

/-- A scan is admitted in a quiet state of its project; and a retry in one in which, besides, no
session of the project is pending or running. -/
def Alone (w : World) : Action → Prop
  | .gotContext i ctx _ =>
    match w.actor i with
    | .scanRequest code =>
      ctx.odooEnabled = true → w.activeRunningForProject code = none → w.Quiet code
    | .retryRequest code sessionId mode => ∀ ref, w.getActive sessionId = some ref →
        (w.session ref).projectCode = code → ¬ (w.session ref).state.Open →
          selectRetryKeys (w.session ref) mode ≠ [] →
            w.Quiet code ∧ w.activeRunningForProject code = none
    | _ => True
  | .resume i =>
    match w.actor i with
    | .retryLoad code sessionId mode _ => ∀ snap,
        Table.lookup ScanSession.sessionId sessionId w.saved = some snap →
          snap.projectCode = code → selectRetryKeys snap mode ≠ [] →
            w.Quiet code ∧ w.activeRunningForProject code = none
    | _ => True
  | _ => True

/-! ### Session ids -/

/-- A session with the id, of the project, is in memory or saved. -/
def World.Knows (w : World) (sessionId code : String) : Prop :=
  (∃ ref < w.refs, (w.session ref).sessionId = sessionId ∧ (w.session ref).projectCode = code) ∨
    ∃ s ∈ w.saved, s.sessionId = sessionId ∧ s.projectCode = code

/-- A session id belongs to one project. -/
def World.Consistent (w : World) : Prop :=
  ∀ sessionId code code', w.Knows sessionId code → w.Knows sessionId code' → code = code'

/-- The session objects keep their ids and projects. -/
def KeepsIds (w w' : World) : Prop :=
  ∀ ref < w.refs, (w'.session ref).sessionId = (w.session ref).sessionId ∧
    (w'.session ref).projectCode = (w.session ref).projectCode

private theorem World.Consistent.of_knows {w w' : World} (h : w.Consistent)
    (hknows : ∀ id code, w'.Knows id code → w.Knows id code) : w'.Consistent :=
  fun id _ _ hc hc' => h id _ _ (hknows id _ hc) (hknows id _ hc')

variable {w w' : World}

private theorem knows_session {ref : ℕ} (h : ref < w.refs) :
    w.Knows (w.session ref).sessionId (w.session ref).projectCode := .inl ⟨ref, h, rfl, rfl⟩

/-- A save knows no session that was not known. -/
theorem knows_saveIf {ref : ℕ} (href : ref < w.refs) {saved : Bool} {id code : String}
    (h : (w.saveIf saved (w.session ref)).Knows id code) : w.Knows id code := by
  cases saved with
  | false => exact h
  | true =>
    rcases h with hlive | ⟨s, hs, rfl, rfl⟩
    · exact .inl hlive
    · rcases Table.mem_upsert hs with rfl | ⟨hold, -⟩
      · exact knows_session href
      · exact .inr ⟨s, hold, rfl, rfl⟩

private theorem knows_write {ref : ℕ} {s : ScanSession}
    (hid : s.sessionId = (w.session ref).sessionId)
    (hcode : s.projectCode = (w.session ref).projectCode) {id code : String}
    (h : (w.write ref s).Knows id code) : w.Knows id code := by
  rcases h with ⟨r, hr, hrid, hrcode⟩ | hsaved
  · rw [World.session_write] at hrid hrcode
    by_cases hrr : r = ref
    · rw [if_pos hrr] at hrid hrcode
      exact .inl ⟨r, hr, by rw [hrr, ← hid, hrid], by rw [hrr, ← hcode, hrcode]⟩
    · rw [if_neg hrr] at hrid hrcode
      exact .inl ⟨r, hr, hrid, hrcode⟩
  · exact .inr hsaved

private theorem knows_alloc {s : ScanSession} {id code : String} (h : (w.alloc s).Knows id code) :
    w.Knows id code ∨ id = s.sessionId ∧ code = s.projectCode := by
  rcases h with ⟨r, hr, hrid, hrcode⟩ | hsaved
  · rw [World.session_alloc] at hrid hrcode
    by_cases hrr : r = w.refs
    · rw [if_pos hrr] at hrid hrcode
      exact .inr ⟨hrid.symm, hrcode.symm⟩
    · rw [if_neg hrr] at hrid hrcode
      exact .inl (.inl ⟨r, Nat.lt_of_le_of_ne (Nat.le_of_lt_succ hr) hrr, hrid, hrcode⟩)
  · exact .inl (.inr hsaved)

private theorem ids_retryStart (s : ScanSession) (mode : String) :
    (retryStart s mode).1.sessionId = s.sessionId ∧
      (retryStart s mode).1.projectCode = s.projectCode :=
  ⟨sessionId_foldl_requeue _ _, projectCode_foldl_requeue _ _⟩

private theorem ids_taskStep [Text] (cfg : ScanConfig) (ctx : MapContext) (answers : Responses)
    (s : ScanSession) (phase : TaskPhase) :
    (taskStep cfg ctx answers s phase).1.sessionId = s.sessionId ∧
      (taskStep cfg ctx answers s phase).1.projectCode = s.projectCode := by
  match phase with
  | .created sources => exact ⟨rfl, rfl⟩
  | .between (source :: rest) => exact ⟨rfl, rfl⟩
  | .scanning source prior rest => exact ⟨rfl, rfl⟩
  | .between [] => exact ⟨rfl, rfl⟩
  | .flushing => exact ⟨rfl, rfl⟩

private theorem World.FreshId.not_knows {newId code : String} (h : w.FreshId newId) :
    ¬ w.Knows newId code := by
  rintro (⟨ref, href, hid, -⟩ | ⟨s, hs, hid, -⟩)
  · exact h.1 ref href hid
  · exact h.2 s hs hid

private theorem knows_of_lookup {sessionId : String} {snap : ScanSession}
    (h : Table.lookup ScanSession.sessionId sessionId w.saved = some snap) :
    w.Knows snap.sessionId snap.projectCode :=
  .inr ⟨snap, Table.mem_of_lookup h, rfl, rfl⟩

/-- Session ids stay consistent, whatever the step. New ids are fresh, and no step changes the id of
a session. -/
theorem consistent_moves [Text] {cfg : ScanConfig} {a : Action} (hbase : Base w)
    (hscans : ∀ i ref, (w.actor i).scans = some ref → ref < w.refs) (h : w.Consistent)
    (hmoves : Moves cfg w a w') : w'.Consistent := by
  cases hmoves with
  | skips => exact h
  | arrives _ x hx => exact h
  | goesOn _ i x hx hi hdone => exact h
  | scanAdmitted i code newId ctx hi henabled hidle hfresh =>
    intro id c c' hc hc'
    -- the new id is fresh, so both sessions of an id are old or both are the new one
    rcases knows_alloc hc with hold | ⟨hid, rfl⟩
    · rcases knows_alloc hc' with hold' | ⟨hid', rfl⟩
      · exact h id c c' hold hold'
      · exact absurd (hid' ▸ hold) hfresh.not_knows
    · rcases knows_alloc hc' with hold' | ⟨-, rfl⟩
      · exact absurd (hid ▸ hold') hfresh.not_knows
      · rfl
  -- the other steps write sessions that keep their id and their project
  | liveAdmitted i ref code sessionId mode newId ctx hi hlive hcode hidle hkeys =>
    obtain ⟨hid, hproject⟩ := ids_retryStart (w.session ref) mode
    exact h.of_knows fun _ _ hknows => knows_write hid hproject hknows
  | loadedAdmitted i code sessionId mode ctx snap hi hsnap hcode hkeys =>
    obtain ⟨hid, hproject⟩ := ids_retryStart snap mode
    refine h.of_knows fun id c hknows => ?_
    rcases knows_alloc hknows with hold | ⟨rfl, rfl⟩
    · exact hold
    · rw [hid, hproject]
      exact knows_of_lookup hsnap
  | loadedDone i code sessionId mode ctx snap hi hsnap =>
    refine h.of_knows fun id c hknows => ?_
    rcases knows_alloc hknows with hold | ⟨rfl, rfl⟩
    · exact hold
    · exact knows_of_lookup hsnap
  | launches i ref ctx sources saved hi =>
    have hlt : ref < w.refs := hbase.held_lt i ref hi.held.1
    exact h.of_knows fun id c hknows => @knows_saveIf w ref hlt saved id c hknows
  | givesUp i ref ctx sources landed saved hi =>
    have hlt : ref < w.refs := hbase.held_lt i ref hi.held.1
    exact h.of_knows fun id c hknows => @knows_saveIf w ref hlt saved id c hknows
  | works i ref ctx phase answers saved hi =>
    obtain ⟨hid, hproject⟩ := ids_taskStep cfg ctx answers (w.session ref) phase
    have hlt : ref < w.refs := hscans i ref (by rw [hi]; rfl)
    let written := w.write ref (taskStep cfg ctx answers (w.session ref) phase).1
    have hwritten : written.session ref = (taskStep cfg ctx answers (w.session ref) phase).1 := by
      simp [written]
    refine h.of_knows fun id c hknows => knows_write hid hproject ?_
    have hsaved : (written.saveIf saved (written.session ref)).Knows id c := by
      rw [hwritten]
      exact hknows
    exact knows_saveIf (w := written) hlt hsaved

/-! ### The invariant -/

/-- The session that an admitted handler or a task is about. -/
def Actor.busy : Actor → Option ℕ
  | .scanPersist ref _ => some ref
  | .retryLog ref _ _ => some ref
  | .task ref _ _ => some ref
  | _ => none

/-- One admitted handler or task for each project; and the session of a task that goes on scanning
is the registered one of its id. -/
structure Lone (w : World) extends Base w where
  busy_lt : ∀ i ref, (w.actor i).busy = some ref → ref < w.refs
  consistent : w.Consistent
  one : ∀ i j ref ref', (w.actor i).busy = some ref → (w.actor j).busy = some ref' →
    (w.session ref).projectCode = (w.session ref').projectCode → i = j
  seen : ∀ i ref ctx phase, w.actor i = .task ref ctx phase → (w.actor i).held = some ref →
    w.getActive (w.session ref).sessionId = some ref

private theorem busy_of_scans {a : Actor} {ref : ℕ} (h : a.scans = some ref) :
    a.busy = some ref := by
  cases a with
  | task ref' ctx phase => exact h
  | _ => cases h

private theorem busy_of_held {a : Actor} {ref : ℕ} (h : a.held = some ref) : a.busy = some ref := by
  cases a with
  | scanPersist ref' ctx => exact h
  | retryLog ref' sources ctx => exact h
  | task ref' ctx phase =>
    cases phase with
    | flushing => cases h
    | _ => exact h
  | _ => cases h

private theorem Actor.Free.busy {a : Actor} (h : a.Free) : a.busy = none := by
  cases a <;> first | rfl | cases h

private theorem singleFlight_of_lone (h : Lone w) : SingleFlight w where
  project i j ref ref' hi hj hcode := h.one i j ref ref' (busy_of_scans hi) (busy_of_scans hj) hcode
  session i j ref ref' hi hj hid := by
    have hknows := knows_session (h.busy_lt i ref (busy_of_scans hi))
    have hknows' := knows_session (h.busy_lt j ref' (busy_of_scans hj))
    rw [hid] at hknows
    exact h.one i j ref ref' (busy_of_scans hi) (busy_of_scans hj)
      (h.consistent _ _ _ hknows hknows')

/-- Where the state is quiet and no session of the project is pending or running, nothing is at
work for the project. -/
theorem Lone.not_busy (h : Lone w) {code : String} (hquiet : w.Quiet code)
    (hactive : w.activeRunningForProject code = none) :
    ∀ i ref, (w.actor i).busy = some ref → (w.session ref).projectCode ≠ code := by
  intro i ref hbusy hcode
  -- What is busy is unseen, or a task whose session the registry shows.
  by_cases hunseen : (w.actor i).unseen = some ref
  · exact hquiet i ref hunseen hcode
  have htask : ∃ ctx phase, w.actor i = .task ref ctx phase ∧ (w.actor i).held = some ref := by
    cases hi : w.actor i with
    | scanPersist ref' ctx =>
      rw [hi] at hbusy hunseen
      exact absurd hbusy hunseen
    | retryLog ref' sources ctx =>
      rw [hi] at hbusy hunseen
      exact absurd hbusy hunseen
    | task ref' ctx phase =>
      rw [hi] at hbusy hunseen
      obtain rfl := Option.some.inj hbusy
      refine ⟨ctx, phase, rfl, ?_⟩
      cases phase with
      | flushing => exact absurd rfl hunseen
      | _ => rfl
    | scanRequest code => rw [hi] at hbusy; cases hbusy
    | retryRequest code sessionId mode => rw [hi] at hbusy; cases hbusy
    | retryLoad code sessionId mode ctx => rw [hi] at hbusy; cases hbusy
    | done => rw [hi] at hbusy; cases hbusy
  obtain ⟨ctx, phase, hi, hheld⟩ := htask
  obtain ⟨e, he, href⟩ := Option.map_eq_some_iff.mp (h.seen i ref ctx phase hi hheld)
  rw [World.activeRunningForProject, Option.map_eq_none_iff, List.find?_eq_none] at hactive
  refine hactive e (Table.mem_of_lookup he) ?_
  rw [href]
  exact decide_eq_true ⟨hcode, h.isOpen i ref hheld⟩

/-! ### Steps -/

/-- A step in which what is busy was busy with the same session before. -/
theorem Lone.follows (h : Lone w) (hbase : Base w') (hconsistent : w'.Consistent)
    (hrefs : w.refs ≤ w'.refs) (hkeep : KeepsIds w w') (origin : ℕ → ℕ)
    (horigin : ∀ j ref, (w'.actor j).busy = some ref → (w.actor (origin j)).busy = some ref)
    (hinj : ∀ j j' ref ref', (w'.actor j).busy = some ref → (w'.actor j').busy = some ref' →
      origin j = origin j' → j = j')
    (hseen : ∀ j ref ctx phase, w'.actor j = .task ref ctx phase → (w'.actor j).held = some ref →
      w'.getActive (w.session ref).sessionId = some ref) : Lone w' := by
  refine ⟨hbase, fun j ref hj => ?_, hconsistent, fun j j' ref ref' hj hj' hcode => ?_,
    fun j ref ctx phase hj hheld => ?_⟩
  · exact Nat.lt_of_lt_of_le (h.busy_lt _ ref (horigin j ref hj)) hrefs
  · have hold := horigin j ref hj
    have hold' := horigin j' ref' hj'
    rw [(hkeep ref (h.busy_lt _ ref hold)).2, (hkeep ref' (h.busy_lt _ ref' hold')).2] at hcode
    exact hinj j j' ref ref' hj hj' (h.one _ _ ref ref' hold hold' hcode)
  · have hlt : ref < w.refs := h.busy_lt _ ref (horigin j ref (busy_of_held hheld))
    rw [(hkeep ref hlt).1]
    exact hseen j ref ctx phase hj hheld

/-- The admission of a request, where nothing is at work for its project. The new scan is then the
only one for it. -/
theorem Lone.admits (h : Lone w) (hbase : Base w') (hconsistent : w'.Consistent)
    (hrefs : w.refs ≤ w'.refs) (hkeep : KeepsIds w w') (hactive : w'.active = w.active) {i r : ℕ}
    (hactor : ∀ j, j ≠ i → w'.actor j = w.actor j) (hr : r < w'.refs)
    (hi : (w'.actor i).busy = some r) (hscan : (w'.actor i).scans = none)
    (hnone : ∀ j ref, (w.actor j).busy = some ref →
      (w.session ref).projectCode ≠ (w'.session r).projectCode) : Lone w' := by
  -- no other actor is busy with the project of the new scan
  have hother : ∀ j ref, j ≠ i → (w'.actor j).busy = some ref →
      (w'.session ref).projectCode ≠ (w'.session r).projectCode := by
    intro j ref hji hj
    rw [hactor j hji] at hj
    rw [(hkeep ref (h.busy_lt j ref hj)).2]
    exact hnone j ref hj
  refine ⟨hbase, fun j ref hj => ?_, hconsistent, fun j j' ref ref' hj hj' hcode => ?_,
    fun j ref ctx phase hj hheld => ?_⟩
  · by_cases hji : j = i
    · rw [hji, hi] at hj
      exact Option.some.inj hj ▸ hr
    · rw [hactor j hji] at hj
      exact Nat.lt_of_lt_of_le (h.busy_lt j ref hj) hrefs
  -- two busy actors of one project: both new, one of them new, or both old
  · by_cases hji : j = i <;> by_cases hji' : j' = i
    · rw [hji, hji']
    · rw [hji, hi] at hj
      rw [← Option.some.inj hj] at hcode
      exact absurd hcode.symm (hother j' ref' hji' hj')
    · rw [hji', hi] at hj'
      rw [← Option.some.inj hj'] at hcode
      exact absurd hcode (hother j ref hji hj)
    · have hcode' := hcode
      have hold := hj
      have hold' := hj'
      rw [hactor j hji] at hold
      rw [hactor j' hji'] at hold'
      rw [(hkeep ref (h.busy_lt j ref hold)).2, (hkeep ref' (h.busy_lt j' ref' hold')).2] at hcode'
      exact h.one j j' ref ref' hold hold' hcode'
  · by_cases hji : j = i
    · rw [← hji, hj] at hscan
      cases hscan
    · rw [hactor j hji] at hj hheld
      have hlt : ref < w.refs := h.busy_lt j ref (busy_of_held hheld)
      rw [(hkeep ref hlt).1, World.getActive, hactive]
      exact h.seen j ref ctx phase hj hheld

private theorem keepsIds_refl (w : World) : KeepsIds w w := fun _ _ => ⟨rfl, rfl⟩

private theorem keepsIds_alloc (w : World) (s : ScanSession) : KeepsIds w (w.alloc s) := by
  intro ref hlt
  rw [World.session_alloc, if_neg (Nat.ne_of_lt hlt)]
  exact ⟨rfl, rfl⟩

private theorem keepsIds_write {ref : ℕ} {s : ScanSession}
    (h : s.sessionId = (w.session ref).sessionId ∧ s.projectCode = (w.session ref).projectCode) :
    KeepsIds w (w.write ref s) := by
  intro r _
  rw [World.session_write]
  by_cases hr : r = ref
  · rw [if_pos hr, hr]
    exact h
  · rw [if_neg hr]
    exact ⟨rfl, rfl⟩

/-- An actor that becomes another one, which is busy with nothing new. What it was busy with it may
let go. -/
theorem Lone.becomes (h : Lone w) (hbase : Base w') (hconsistent : w'.Consistent)
    (hrefs : w.refs ≤ w'.refs) (hkeep : KeepsIds w w') (hactive : w'.active = w.active) {i : ℕ}
    (hactor : ∀ j, j ≠ i → w'.actor j = w.actor j)
    (hbusy : ∀ ref, (w'.actor i).busy = some ref → (w.actor i).busy = some ref)
    (hheld : ∀ ref ctx phase, w'.actor i = .task ref ctx phase → (w'.actor i).held = some ref →
      ∃ ctx' phase', w.actor i = .task ref ctx' phase' ∧ (w.actor i).held = some ref) :
    Lone w' := by
  refine h.follows hbase hconsistent hrefs hkeep (fun j => j) (fun j ref hj => ?_)
    (fun _ _ _ _ _ _ heq => heq) (fun j ref ctx phase hj hjheld => ?_)
  · by_cases hji : j = i
    · rw [hji] at hj ⊢
      exact hbusy ref hj
    · rw [hactor j hji] at hj
      exact hj
  · rw [World.getActive, hactive]
    by_cases hji : j = i
    · rw [hji] at hj hjheld
      obtain ⟨ctx', phase', hi, hi'⟩ := hheld ref ctx phase hj hjheld
      exact h.seen i ref ctx' phase' hi hi'
    · rw [hactor j hji] at hj hjheld
      exact h.seen j ref ctx phase hj hjheld

private theorem Actor.Admitted.busy {a : Actor} {ref : ℕ} {ctx : MapContext}
    {sources : List OdooSource} (h : a.Admitted ref ctx sources) : a.busy = some ref :=
  busy_of_held h.held.1

private theorem Actor.Admitted.scans {a : Actor} {ref : ℕ} {ctx : MapContext}
    {sources : List OdooSource} (h : a.Admitted ref ctx sources) : a.scans = none := by
  rcases h with ⟨rfl, -⟩ | rfl <;> rfl

/-- The launch hands the session over to the task, and registers it. The handler is done with it, so
that there is one scan as before. -/
theorem lone_launch (h : Lone w) {i ref : ℕ} {ctx : MapContext} {sources : List OdooSource}
    (hi : (w.actor i).Admitted ref ctx sources) (saved : Bool)
    (hbase : Base ((w.saveIf saved (w.session ref)).launch i ref ctx sources))
    (hconsistent : ((w.saveIf saved (w.session ref)).launch i ref ctx sources).Consistent) :
    Lone ((w.saveIf saved (w.session ref)).launch i ref ctx sources) := by
  have hactor : ∀ j, ((w.saveIf saved (w.session ref)).launch i ref ctx sources).actor j =
      if j = w.actors then .task ref ctx (.created sources) else if j = i then .done
      else w.actor j := by
    intro j
    rw [World.actor_launch, World.actors_saveIf, World.actor_saveIf]
  have hactive : ∀ id, ((w.saveIf saved (w.session ref)).launch i ref ctx sources).getActive id =
      if id = (w.session ref).sessionId then some ref else w.getActive id := by
    intro id
    have hregister : ((w.saveIf saved (w.session ref)).launch i ref ctx sources).active =
        Table.upsert Entry.sessionId ⟨(w.session ref).sessionId, ref⟩ w.active := by
      simp [World.launch, World.spawn, World.become, World.register]
    rw [World.getActive, hregister, Table.lookup_upsert, World.getActive]
    split <;> rfl
  refine h.follows hbase hconsistent ?_ (fun r _ => ?_) (fun j => if j = w.actors then i else j)
    (fun j r hj => ?_) (fun j j' r r' hj hj' heq => ?_) (fun j r ctx' phase hj hheld => ?_)
  · simp [World.launch, World.spawn, World.become, World.register]
  · simp [World.launch, World.spawn, World.become, World.register]
  · rw [hactor] at hj
    by_cases hnew : j = w.actors
    · rw [if_pos hnew] at hj ⊢
      rw [← Option.some.inj hj]
      exact hi.busy
    · rw [if_neg hnew] at hj ⊢
      by_cases hji : j = i
      · rw [if_pos hji] at hj
        cases hj
      · rw [if_neg hji] at hj
        exact hj
  · -- The handler is done, so that the task alone comes from it.
    have hnot : ∀ k r, k ≠ w.actors →
        (((w.saveIf saved (w.session ref)).launch i ref ctx sources).actor k).busy = some r →
          k ≠ i := by
      rintro k r hnew hk rfl
      rw [hactor, if_neg hnew, if_pos rfl] at hk
      cases hk
    by_cases hnew : j = w.actors <;> by_cases hnew' : j' = w.actors
    · rw [hnew, hnew']
    · rw [if_pos hnew, if_neg hnew'] at heq
      exact absurd heq.symm (hnot j' r' hnew' hj')
    · rw [if_neg hnew, if_pos hnew'] at heq
      exact absurd heq (hnot j r hnew hj)
    · rw [if_neg hnew, if_neg hnew'] at heq
      exact heq
  · rw [hactive]
    rw [hactor] at hj hheld
    by_cases hnew : j = w.actors
    · rw [if_pos hnew] at hheld
      rw [← Option.some.inj hheld, if_pos rfl]
    · rw [if_neg hnew] at hj hheld
      by_cases hji : j = i
      · rw [if_pos hji] at hj
        cases hj
      · rw [if_neg hji] at hj hheld
        -- Another session of the same id would be one of the same project.
        have hne : (w.session r).sessionId ≠ (w.session ref).sessionId := by
          intro hid
          have hknows := knows_session (h.busy_lt j r (busy_of_held hheld))
          rw [hid] at hknows
          have hcode := h.consistent _ _ _ hknows (knows_session (h.busy_lt i ref hi.busy))
          exact hji (h.one j i r ref (busy_of_held hheld) hi.busy hcode)
        rw [if_neg hne]
        exact h.seen j r ctx' phase hj hheld

/-- A handler is admitted with a new session object. The check has found no session of the project,
and no actor is at work for it. -/
theorem lone_alloc (h : Lone w) {i : ℕ} {s : ScanSession} {x : Actor} {ctx : MapContext}
    (hx : x = .scanPersist w.refs ctx ∨ ∃ sources, x = .retryLog w.refs sources ctx)
    (hbase : Base ((w.alloc s).become i x)) (hconsistent : ((w.alloc s).become i x).Consistent)
    (hnone : ∀ j ref, (w.actor j).busy = some ref →
      (w.session ref).projectCode ≠ s.projectCode) : Lone ((w.alloc s).become i x) := by
  have hself : ((w.alloc s).become i x).session w.refs = s :=
    (World.session_alloc w s w.refs).trans (if_pos rfl)
  have hbusy : x.busy = some w.refs ∧ x.scans = none := by
    rcases hx with rfl | ⟨sources, rfl⟩ <;> exact ⟨rfl, rfl⟩
  refine h.admits hbase hconsistent (Nat.le_succ _) (keepsIds_alloc w s) rfl (i := i)
    (r := w.refs) (fun j hj => ?_) (Nat.lt_succ_self _) ?_ ?_ (fun j ref hj => ?_)
  · rw [World.actor_become, if_neg hj]
    rfl
  · rw [World.actor_become, if_pos rfl]
    exact hbusy.1
  · rw [World.actor_become, if_pos rfl]
    exact hbusy.2
  · rw [hself]
    exact hnone j ref hj

/-- The next phase of a task is about the same session, and holds it only where it held it. -/
theorem actor_taskStep [Text] (cfg : ScanConfig) (ctx : MapContext) (answers : Responses)
    (s : ScanSession) (ref : ℕ) (phase : TaskPhase) :
    TaskPhase.actor ref ctx (taskStep cfg ctx answers s phase).2 = .done ∨
      ∃ phase', TaskPhase.actor ref ctx (taskStep cfg ctx answers s phase).2 =
        .task ref ctx phase' ∧ (Actor.task ref ctx phase).held = some ref := by
  match phase with
  | .created sources => exact .inr ⟨_, rfl, rfl⟩
  | .between (source :: rest) => exact .inr ⟨_, rfl, rfl⟩
  | .scanning source prior rest => exact .inr ⟨_, rfl, rfl⟩
  | .between [] => exact .inr ⟨_, rfl, rfl⟩
  | .flushing => exact .inl rfl

/-- An actor that goes on without a session. -/
theorem Lone.idles (h : Lone w) (hbase : Base w') (hconsistent : w'.Consistent)
    (hrefs : w.refs ≤ w'.refs) (hkeep : KeepsIds w w') (hactive : w'.active = w.active) {i : ℕ}
    (hactor : ∀ j, j ≠ i → w'.actor j = w.actor j) (hidle : (w'.actor i).busy = none) :
    Lone w' := by
  refine h.becomes hbase hconsistent hrefs hkeep hactive hactor (fun ref hr => ?_)
    (fun ref ctx phase _ hheld => ?_)
  · rw [hidle] at hr
    cases hr
  · have hbusy := busy_of_held hheld
    rw [hidle] at hbusy
    cases hbusy

/-- A retry is admitted with a registered session, which it sets to pending. The session keeps its
id and its project. -/
theorem lone_live (h : Lone w) {i ref : ℕ} {code sessionId mode : String} {ctx : MapContext}
    (hlive : w.getActive sessionId = some ref) (hcode : (w.session ref).projectCode = code)
    (hquiet : w.Quiet code) (hactive : w.activeRunningForProject code = none)
    (hbase : Base ((w.write ref (retryStart (w.session ref) mode).1).become i
      (.retryLog ref (retryStart (w.session ref) mode).2 ctx)))
    (hconsistent : ((w.write ref (retryStart (w.session ref) mode).1).become i
      (.retryLog ref (retryStart (w.session ref) mode).2 ctx)).Consistent) :
    Lone ((w.write ref (retryStart (w.session ref) mode).1).become i
      (.retryLog ref (retryStart (w.session ref) mode).2 ctx)) := by
  have hids := ids_retryStart (w.session ref) mode
  have hself : ((w.write ref (retryStart (w.session ref) mode).1).become i
      (.retryLog ref (retryStart (w.session ref) mode).2 ctx)).session ref =
        (retryStart (w.session ref) mode).1 :=
    (World.session_write w ref ref _).trans (if_pos rfl)
  have hlt : ref < w.refs := by
    obtain ⟨e, he, rfl⟩ := Option.map_eq_some_iff.mp hlive
    exact h.active_lt e (Table.mem_of_lookup he)
  refine h.admits hbase hconsistent (Nat.le_refl _) (keepsIds_write hids) rfl (i := i) (r := ref)
    (fun j hj => ?_) hlt ?_ ?_ (fun j ref' hj => ?_)
  · rw [World.actor_become, if_neg hj]
    rfl
  · rw [World.actor_become, if_pos rfl]
    rfl
  · rw [World.actor_become, if_pos rfl]
    rfl
  · rw [hself, hids.2, hcode]
    exact h.not_busy hquiet hactive j ref' hj

/-- A step of a task leaves it with its session, or done. It writes no other session and registers
none. -/
theorem lone_work [Text] (cfg : ScanConfig) (answers : Responses) (h : Lone w)
    {i ref : ℕ} {ctx : MapContext} {phase : TaskPhase} (hi : w.actor i = .task ref ctx phase)
    (hbase : Base w') (hconsistent : w'.Consistent) (hrefs : w.refs ≤ w'.refs)
    (hactive : w'.active = w.active)
    (hsession : ∀ r, w'.session r =
      (w.write ref (taskStep cfg ctx answers (w.session ref) phase).1).session r)
    (hactor : ∀ j, j ≠ i → w'.actor j = w.actor j)
    (hself : w'.actor i =
      TaskPhase.actor ref ctx (taskStep cfg ctx answers (w.session ref) phase).2) : Lone w' := by
  have hkeep : KeepsIds w w' := by
    intro r hr
    rw [hsession]
    exact keepsIds_write (ids_taskStep cfg ctx answers (w.session ref) phase) r hr
  rcases actor_taskStep cfg ctx answers (w.session ref) ref phase with hdone | ⟨next, hnext, hheld⟩
  · refine h.idles hbase hconsistent hrefs hkeep hactive hactor ?_
    rw [hself, hdone]
    rfl
  · rw [hnext] at hself
    refine h.becomes hbase hconsistent hrefs hkeep hactive hactor (fun ref' hr => ?_)
      (fun ref' ctx' phase' hr _ => ?_)
    · rw [hself] at hr
      rw [hi]
      exact hr
    · rw [hself] at hr
      obtain rfl : ref = ref' := by injection hr
      exact ⟨ctx, phase, hi, by rw [hi]; exact hheld⟩

/-- Every step that admits alone keeps the invariant, by cases on what moves. -/
private theorem lone_moves [Text] {cfg : ScanConfig} {a : Action} (h : Lone w)
    (halone : Alone w a) (hmoves : Moves cfg w a w') : Lone w' := by
  have hbase : Base w' := base_moves h.toBase hmoves
  have hconsistent : w'.Consistent := consistent_moves h.toBase
    (fun i ref hi => h.busy_lt i ref (busy_of_scans hi)) h.consistent hmoves
  cases hmoves with
  | skips => exact h
  -- an arrival or a step that holds nothing yet leaves every scan where it was
  | arrives _ x hx =>
    refine h.idles hbase hconsistent (Nat.le_refl _) (keepsIds_refl w) rfl (i := w.actors)
      (fun j hj => ?_) ?_
    · rw [World.actor_spawn, if_neg hj]
    · rw [World.actor_spawn, if_pos rfl]
      exact hx.busy
  | goesOn _ i x hx hi hdone =>
    refine h.idles hbase hconsistent (Nat.le_refl _) (keepsIds_refl w) rfl (i := i)
      (fun j hj => ?_) ?_
    · rw [World.actor_become, if_neg hj]
    · rw [World.actor_become, if_pos rfl]
      exact hx.busy
  -- the three admissions: `Alone` is what rules out a second scan of the project
  | scanAdmitted i code newId ctx hi henabled hidle hfresh =>
    have hquiet : w.Quiet code := by
      rw [Alone, hi] at halone
      exact halone henabled hidle
    exact lone_alloc h (.inl rfl) hbase hconsistent (h.not_busy hquiet hidle)
  | liveAdmitted i ref code sessionId mode newId ctx hi hlive hcode hidle hkeys =>
    obtain ⟨hquiet, hactive⟩ : w.Quiet code ∧ w.activeRunningForProject code = none := by
      rw [Alone, hi] at halone
      exact halone ref hlive hcode hidle hkeys
    exact lone_live h hlive hcode hquiet hactive hbase hconsistent
  | loadedAdmitted i code sessionId mode ctx snap hi hsnap hcode hkeys =>
    obtain ⟨hquiet, hactive⟩ : w.Quiet code ∧ w.activeRunningForProject code = none := by
      rw [Alone, hi] at halone
      exact halone snap hsnap hcode hkeys
    refine lone_alloc h (.inr ⟨_, rfl⟩) hbase hconsistent ?_
    rw [(ids_retryStart snap mode).2, hcode]
    exact h.not_busy hquiet hactive
  -- a session that is loaded and has nothing to retry starts no scan
  | loadedDone i code sessionId mode ctx snap hi hsnap =>
    refine h.idles hbase hconsistent (Nat.le_succ _) (keepsIds_alloc w snap) rfl (i := i)
      (fun j hj => ?_) ?_
    · rw [World.actor_become, if_neg hj]
      rfl
    · rw [World.actor_become, if_pos rfl]
      rfl
  | launches i ref ctx sources saved hi => exact lone_launch h hi saved hbase hconsistent
  | givesUp i ref ctx sources landed saved hi =>
    refine h.idles hbase hconsistent ?_ (fun r _ => ?_) ?_ (i := i) (fun j hj => ?_) ?_
    · simp [World.become]
    · simp [World.become]
    · simp [World.become]
    · rw [World.actor_become, if_neg hj, World.actor_saveIf]
    · rw [World.actor_become, if_pos rfl]
      rfl
  | works i ref ctx phase answers saved hi =>
    refine lone_work cfg answers h hi hbase hconsistent ?_ ?_ (fun r => ?_)
      (fun j hj => ?_) ?_
    · simp [World.become, World.write]
    · simp [World.become, World.write]
    · simp [World.become]
    · simp [hj, World.write]
    · rw [World.actor_become, if_pos rfl]

/-! ### Runs -/

private theorem lone_start {saved : List ScanSession}
    (h : (saved.map ScanSession.sessionId).Nodup) : Lone (.start saved) where
  toBase := base_start saved
  busy_lt i ref hi := by cases hi
  one i j ref ref' hi := by cases hi
  seen i ref ctx phase hi := by cases hi
  consistent id code code' hc hc' := by
    -- The id is the key of the table.
    rcases hc with ⟨ref, href, -⟩ | ⟨s, hs, hid, rfl⟩
    · cases href
    rcases hc' with ⟨ref, href, -⟩ | ⟨s', hs', hid', rfl⟩
    · cases href
    rw [List.inj_on_of_nodup_map h hs hs' (hid.trans hid'.symm)]

/-- Where every request is admitted alone, there is one scan task for a project at a time, in every
state that is reached. The condition asks nothing of a request that the check of the handler
refuses. -/
theorem singleFlight_throughout [Text] (cfg : ScanConfig) (saved : List ScanSession)
    (hsaved : (saved.map ScanSession.sessionId).Nodup) (run : List Action)
    (hrun : Run.Along (World.step cfg) Alone (.start saved) run) :
    Run.Throughout (World.step cfg) SingleFlight (.start saved) run := by
  rintro before after rfl
  have hbefore : Run.Along (World.step cfg) Alone (.start saved) before :=
    (Run.along_append.mp hrun).1
  have hstep : ∀ w a, Lone w → Alone w a → Lone (w.step cfg a) :=
    fun w a h halone => lone_moves h halone (moves_step cfg w a)
  exact singleFlight_of_lone (Run.exec_induction hstep (lone_start hsaved) hbefore)

section Latin

open Py.Whole

/-- A scan, and a second request while its task is at work. -/
theorem singleFlight_secondScan : Run.Throughout (World.step {}) SingleFlight (.start [])
    [.scan "PRJ-003", .gotContext 0 mapped "s1", .resume 0, .work 1 silent true,
      .scan "PRJ-003", .gotContext 2 mapped "s2"] := by
  refine singleFlight_throughout {} [] List.nodup_nil _ ?_
  refine ⟨trivial, ?_, trivial, trivial, trivial, ?_, trivial⟩
  · intro _ _ i ref hi
    change ((World.spawn (.start []) (.scanRequest "PRJ-003")).actor i).unseen = some ref at hi
    rw [World.actor_spawn] at hi
    split at hi
    · cases hi
    · cases hi
  · intro _ hidle
    exact absurd hidle (by decide +kernel)

/-- Two requests that are both checked before either launches its task. -/
theorem not_singleFlight_twoScans : ¬ ∀ (cfg : ScanConfig) (saved : List ScanSession)
    (run : List Action), (saved.map ScanSession.sessionId).Nodup →
      Run.Throughout (World.step cfg) SingleFlight (.start saved) run := by
  intro hall
  let run : List Action := [.scan "PRJ-003", .scan "PRJ-003", .gotContext 0 mapped "s1",
    .gotContext 1 mapped "s2", .resume 0, .resume 1]
  have hflight := hall {} [] run List.nodup_nil run [] (List.append_nil run).symm
  have heq : 2 = 3 := hflight.project 2 3 0 1 rfl rfl rfl
  exact absurd heq (by decide)

end Latin

end DecisionCenter.Scan
