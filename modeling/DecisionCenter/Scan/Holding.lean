import DecisionCenter.Scan.World

/-!
# Who scans a session

An admitted handler and an unfinished task hold their session object: no other one does, and the
state of the object is pending or running all the while. This holds of every reachable state,
whatever the requests and the answers.

What an actor holds is read off its phase (`Actor.held`), and so are the sources that it is to
scan (`Actor.keys`). `Moves` is the inversion of the step function: every way in which a step
changes one actor and leaves the others, with what is new in the world afterwards. All
invariants on scans are proved by going through it, so that the handlers and the task are
unfolded here alone.

`Base` is the invariant. References, those of the registry included, are below the number of
objects, an object is held by one actor, and one that is held is open. Two lemmas carry most of
the cases, `Base.update` for a step which concerns an actor and the one session that it holds,
and `Base.release` for one after which it holds nothing.

The steps of a task write to the session it holds and to no other; a retry takes over a live
session, which it sets to pending, or a loaded one, which is a new object. The two modules that
follow add what they need to `Base`, by extension of the structure.
-/

namespace DecisionCenter.Scan

open Async Py

/-! ### Holding -/

/-- The session that is held, until the task has written its last state. -/
def Actor.held : Actor → Option ℕ
  | .scanPersist ref _ => some ref
  | .retryLog ref _ _ => some ref
  | .task _ _ .flushing => none
  | .task ref _ _ => some ref
  | _ => none

/-- The keys that are yet to be scanned. -/
def Actor.keys : Actor → List String
  | .scanPersist _ _ => odooSources.map (·.key)
  | .retryLog _ sources _ => sources.map (·.key)
  | .task _ _ (.created sources) => sources.map (·.key)
  | .task _ _ (.between sources) => sources.map (·.key)
  | .task _ _ (.scanning source _ rest) => source.key :: rest.map (·.key)
  | _ => []

/-- A handler that has not been admitted, or is done. -/
def Actor.Free : Actor → Prop
  | .scanRequest _ => True
  | .retryRequest _ _ _ => True
  | .retryLoad _ _ _ _ => True
  | .done => True
  | _ => False

/-- A handler between its admission and the launch of its task. -/
def Actor.Admitted (a : Actor) (ref : ℕ) (ctx : MapContext) (sources : List OdooSource) : Prop :=
  (a = .scanPersist ref ctx ∧ sources = sourcesForKeys (odooSources.map (·.key))) ∨
    a = .retryLog ref sources ctx

/-- A free actor holds nothing. -/
theorem Actor.Free.held {a : Actor} (h : a.Free) : a.held = none := by
  cases a <;> first | rfl | cases h

private theorem sourcesForKeys_all : sourcesForKeys (odooSources.map (·.key)) = odooSources := by
  refine List.filter_eq_self.mpr fun s hs => ?_
  exact decide_eq_true (List.mem_map_of_mem hs)

/-- An admitted handler holds its session, and is to scan its sources. -/
theorem Actor.Admitted.held {a : Actor} {ref : ℕ} {ctx : MapContext} {sources : List OdooSource}
    (h : a.Admitted ref ctx sources) : a.held = some ref ∧ a.keys = sources.map (·.key) := by
  rcases h with ⟨rfl, rfl⟩ | rfl
  · exact ⟨rfl, by rw [sourcesForKeys_all]; rfl⟩
  · exact ⟨rfl, rfl⟩

namespace World

@[simp] theorem actor_become (w : World) (i j : ℕ) (a : Actor) :
    (w.become i a).actor j = if j = i then a else w.actor j := Function.update_apply _ _ _ _

@[simp] theorem actor_spawn (w : World) (j : ℕ) (a : Actor) :
    (w.spawn a).actor j = if j = w.actors then a else w.actor j := Function.update_apply _ _ _ _

@[simp] theorem session_alloc (w : World) (s : ScanSession) (ref : ℕ) :
    (w.alloc s).session ref = if ref = w.refs then s else w.session ref :=
  Function.update_apply _ _ _ _

@[simp] theorem session_write (w : World) (r ref : ℕ) (s : ScanSession) :
    (w.write r s).session ref = if ref = r then s else w.session ref :=
  Function.update_apply _ _ _ _

private theorem alloc_write (w : World) (s s' : ScanSession) :
    (w.alloc s).write w.refs s' = w.alloc s' := by
  simp only [alloc, write, Function.update_idem]

/-! A save changes the table only. -/

@[simp] theorem session_saveIf (w : World) (saved : Bool) (s : ScanSession) :
    (w.saveIf saved s).session = w.session := by
  cases saved <;> rfl

@[simp] theorem refs_saveIf (w : World) (saved : Bool) (s : ScanSession) :
    (w.saveIf saved s).refs = w.refs := by
  cases saved <;> rfl

@[simp] theorem active_saveIf (w : World) (saved : Bool) (s : ScanSession) :
    (w.saveIf saved s).active = w.active := by
  cases saved <;> rfl

@[simp] theorem actor_saveIf (w : World) (saved : Bool) (s : ScanSession) :
    (w.saveIf saved s).actor = w.actor := by
  cases saved <;> rfl

@[simp] theorem actors_saveIf (w : World) (saved : Bool) (s : ScanSession) :
    (w.saveIf saved s).actors = w.actors := by
  cases saved <;> rfl

end World

/-! ### What a step can do -/

section Steps

variable [Text] (cfg : ScanConfig)

/-- The effects of a step, with the facts they depend on. -/
inductive Moves (w : World) : Action → World → Prop where
  | skips (a : Action) : Moves w a w
  | arrives (a : Action) (x : Actor) (hx : x.Free) : Moves w a (w.spawn x)
  | goesOn (a : Action) (i : ℕ) (x : Actor) (hx : x.Free) (hi : (w.actor i).Free)
      (hdone : x = .done ∨ w.actor i ≠ .done) : Moves w a (w.become i x)
  | scanAdmitted (i : ℕ) (code newId : String) (ctx : MapContext)
      (hi : w.actor i = .scanRequest code) (henabled : ctx.odooEnabled = true)
      (hidle : w.activeRunningForProject code = none) (hfresh : w.FreshId newId) :
      Moves w (.gotContext i ctx newId)
        ((w.alloc (initFullSession code newId)).become i (.scanPersist w.refs ctx))
  | liveAdmitted (i ref : ℕ) (code sessionId mode newId : String) (ctx : MapContext)
      (hi : w.actor i = .retryRequest code sessionId mode)
      (hlive : w.getActive sessionId = some ref) (hcode : (w.session ref).projectCode = code)
      (hidle : ¬ (w.session ref).state.Open) (hkeys : selectRetryKeys (w.session ref) mode ≠ []) :
      Moves w (.gotContext i ctx newId) ((w.write ref (retryStart (w.session ref) mode).1).become i
        (.retryLog ref (retryStart (w.session ref) mode).2 ctx))
  | loadedAdmitted (i : ℕ) (code sessionId mode : String) (ctx : MapContext) (snap : ScanSession)
      (hi : w.actor i = .retryLoad code sessionId mode ctx)
      (hsnap : Table.lookup ScanSession.sessionId sessionId w.saved = some snap)
      (hcode : snap.projectCode = code) (hkeys : selectRetryKeys snap mode ≠ []) :
      Moves w (.resume i) ((w.alloc (retryStart snap mode).1).become i
        (.retryLog w.refs (retryStart snap mode).2 ctx))
  | loadedDone (i : ℕ) (code sessionId mode : String) (ctx : MapContext) (snap : ScanSession)
      (hi : w.actor i = .retryLoad code sessionId mode ctx)
      (hsnap : Table.lookup ScanSession.sessionId sessionId w.saved = some snap) :
      Moves w (.resume i) ((w.alloc snap).become i .done)
  | launches (i ref : ℕ) (ctx : MapContext) (sources : List OdooSource) (saved : Bool)
      (hi : (w.actor i).Admitted ref ctx sources) :
      Moves w (.resume i) ((w.saveIf saved (w.session ref)).launch i ref ctx sources)
  | givesUp (i ref : ℕ) (ctx : MapContext) (sources : List OdooSource) (landed saved : Bool)
      (hi : (w.actor i).Admitted ref ctx sources) :
      Moves w (.failed i landed) ((w.saveIf saved (w.session ref)).become i .done)
  | works (i ref : ℕ) (ctx : MapContext) (phase : TaskPhase) (answers : Responses) (saved : Bool)
      (hi : w.actor i = .task ref ctx phase) :
      Moves w (.work i answers saved)
        (((w.write ref (taskStep cfg ctx answers (w.session ref) phase).1).saveIf saved
          (taskStep cfg ctx answers (w.session ref) phase).1).become i
            (TaskPhase.actor ref ctx (taskStep cfg ctx answers (w.session ref) phase).2))

/-- A handler that has the context of its mapping is admitted, refused, or goes on to load a
session. -/
private theorem moves_gotContext (w : World) (i : ℕ) (ctx : MapContext) (newId : String) :
    Moves cfg w (.gotContext i ctx newId) (w.gotContext i ctx newId) := by
  rw [World.gotContext]
  split
  · next code hi =>
    have hfree : (w.actor i).Free := by rw [hi]; trivial
    split
    · exact .goesOn _ i _ trivial hfree (.inl rfl)
    next henabled =>
    split
    · exact .goesOn _ i _ trivial hfree (.inl rfl)
    next hidle =>
    split
    · next hfresh =>
      exact .scanAdmitted i code newId ctx hi (eq_true_of_ne_false henabled)
        (Option.not_isSome_iff_eq_none.mp hidle) hfresh
    · exact .skips _
  -- a retry: a live session is restarted where it is, any other is loaded first
  · next code sessionId mode hi =>
    have hfree : (w.actor i).Free := by rw [hi]; trivial
    have hload : Moves cfg w (.gotContext i ctx newId)
        (w.become i (.retryLoad code sessionId mode ctx)) :=
      .goesOn _ i _ trivial hfree (.inr (by rw [hi]; exact nofun))
    split
    · next ref hlive =>
      split
      case isFalse => exact hload
      next hcode =>
      split
      case isTrue => exact .goesOn _ i _ trivial hfree (.inl rfl)
      next hidle =>
      rw [World.admitRetry]
      split
      · exact .goesOn _ i _ trivial hfree (.inl rfl)
      · next hkeys =>
        exact .liveAdmitted i ref code sessionId mode newId ctx hi hlive hcode hidle hkeys
    · exact hload
  · exact .skips _

/-- What a handler or a task does behind its next await. -/
private theorem moves_resume (w : World) (i : ℕ) : Moves cfg w (.resume i) (w.resume i) := by
  rw [World.resume]
  split
  · next ref ctx hi => exact .launches i ref ctx _ true (.inl ⟨hi, rfl⟩)
  · next code sessionId mode ctx hi =>
    have hfree : (w.actor i).Free := by rw [hi]; trivial
    split
    · next snap hsnap =>
      split
      case isFalse => exact .goesOn _ i _ trivial hfree (.inl rfl)
      next hcode =>
      have hself : (w.alloc snap).session w.refs = snap := by simp
      rw [World.admitRetry, hself, World.alloc_write]
      split
      · exact .loadedDone i code sessionId mode ctx snap hi hsnap
      · next hkeys => exact .loadedAdmitted i code sessionId mode ctx snap hi hsnap hcode hkeys
    · exact .goesOn _ i _ trivial hfree (.inl rfl)
  · next ref sources ctx hi => exact .launches i ref ctx sources false (.inr hi)
  · exact .skips _

private theorem moves_failed (w : World) (i : ℕ) (landed : Bool) :
    Moves cfg w (.failed i landed) (w.failed i landed) := by
  rw [World.failed]
  split
  · next ref ctx hi => exact .givesUp i ref ctx _ landed landed (.inl ⟨hi, rfl⟩)
  · exact .skips _
  · next hscan htask =>
    cases hi : w.actor i with
    | scanPersist ref ctx => exact absurd hi (hscan ref ctx)
    | task ref ctx phase => exact absurd hi (htask ref ctx phase)
    | retryLog ref sources ctx => exact .givesUp i ref ctx sources landed false (.inr hi)
    | scanRequest code => exact .goesOn _ i _ trivial (by rw [hi]; trivial) (.inl rfl)
    | retryRequest code sessionId mode =>
      exact .goesOn _ i _ trivial (by rw [hi]; trivial) (.inl rfl)
    | retryLoad code sessionId mode ctx =>
      exact .goesOn _ i _ trivial (by rw [hi]; trivial) (.inl rfl)
    | done => exact .goesOn _ i _ trivial (by rw [hi]; trivial) (.inl rfl)

/-- Every step is one of those that `Moves` lists. -/
theorem moves_step (w : World) (a : Action) : Moves cfg w a (w.step cfg a) := by
  cases a with
  | scan code => exact .arrives _ _ trivial
  | retry code sessionId mode => exact .arrives _ _ trivial
  | gotContext i ctx newId => exact moves_gotContext cfg w i ctx newId
  | resume i => exact moves_resume cfg w i
  | failed i landed => exact moves_failed cfg w i landed
  | work i answers saved =>
    rw [World.step, World.work]
    split
    · next ref ctx phase hi => exact .works i ref ctx phase answers saved hi
    · exact .skips _

end Steps

/-! ### The invariant -/

/-- What holds of every reachable world about who holds which session. -/
structure Base (w : World) : Prop where
  held_lt : ∀ i ref, (w.actor i).held = some ref → ref < w.refs
  started : ∀ i, w.actors ≤ i → w.actor i = .done
  active_lt : ∀ e ∈ w.active, e.ref < w.refs
  /-- A session has one holder. -/
  single : ∀ i j ref, (w.actor i).held = some ref → (w.actor j).held = some ref → i = j
  /-- While it is held, it is pending or running. -/
  isOpen : ∀ i ref, (w.actor i).held = some ref → (w.session ref).state.Open

/-- The invariant holds of a process that has just been started. -/
theorem base_start (saved : List ScanSession) : Base (.start saved) where
  held_lt i ref h := by cases h
  started _ _ := rfl
  active_lt e he := by cases he
  single i j ref h := by cases h
  isOpen i ref h := by cases h

variable {w w' : World}

/-- A step that concerns one actor, and the one session it holds afterwards, if any. Whatever the
step does is said by what it leaves as it was. -/
theorem Base.update (h : Base w) {i r : ℕ} (hactor : ∀ j, j ≠ i → w'.actor j = w.actor j)
    (hactors : w.actors ≤ w'.actors) (hi : i < w'.actors ∨ w'.actor i = .done)
    (hrefs : w.refs ≤ w'.refs) (hactive : ∀ e ∈ w'.active, e.ref < w'.refs)
    (hsession : ∀ ref < w.refs, ref ≠ r → w'.session ref = w.session ref)
    (hother : ∀ j, j ≠ i → (w.actor j).held ≠ some r)
    (hheld : ∀ ref, (w'.actor i).held = some ref →
      ref = r ∧ r < w'.refs ∧ (w'.session r).state.Open) : Base w' := by
  refine ⟨fun j ref hj => ?_, fun j hj => ?_, hactive, fun j k ref hj hk => ?_, fun j ref hj => ?_⟩
  · by_cases hji : j = i
    · subst hji
      obtain ⟨rfl, hlt, -⟩ := hheld ref hj
      exact hlt
    · rw [hactor j hji] at hj
      exact Nat.lt_of_lt_of_le (h.held_lt j ref hj) hrefs
  · by_cases hji : j = i
    · subst hji
      exact hi.resolve_left (Nat.not_lt.mpr hj)
    · rw [hactor j hji]
      exact h.started j (Nat.le_trans hactors hj)
  -- no session has two holders: the one of `r` is actor `i` alone
  · by_cases hji : j = i <;> by_cases hki : k = i
    · rw [hji, hki]
    · subst hji
      rw [hactor k hki] at hk
      obtain ⟨rfl, -, -⟩ := hheld ref hj
      exact absurd hk (hother k hki)
    · subst hki
      rw [hactor j hji] at hj
      obtain ⟨rfl, -, -⟩ := hheld ref hk
      exact absurd hj (hother j hji)
    · rw [hactor j hji] at hj
      rw [hactor k hki] at hk
      exact h.single j k ref hj hk
  · by_cases hji : j = i
    · subst hji
      obtain ⟨rfl, -, hopen⟩ := hheld ref hj
      exact hopen
    · rw [hactor j hji] at hj
      have hne : ref ≠ r := by
        rintro rfl
        exact hother j hji hj
      rw [hsession ref (h.held_lt j ref hj) hne]
      exact h.isOpen j ref hj

/-- A step after which the actor holds nothing, and that leaves the sessions alone. -/
theorem Base.release (h : Base w) {i : ℕ} (hactor : ∀ j, j ≠ i → w'.actor j = w.actor j)
    (hactors : w.actors ≤ w'.actors) (hi : i < w'.actors ∨ w'.actor i = .done)
    (hrefs : w.refs ≤ w'.refs) (hactive : w'.active = w.active)
    (hsession : ∀ ref < w.refs, w'.session ref = w.session ref)
    (hheld : (w'.actor i).held = none) : Base w' := by
  -- No actor holds the next reference.
  refine h.update hactor hactors hi hrefs (fun e he => ?_) (fun ref hlt _ => hsession ref hlt)
    (r := w.refs) (fun j _ hj => ?_) (fun ref hr => ?_)
  · rw [hactive] at he
    exact Nat.lt_of_lt_of_le (h.active_lt e he) hrefs
  · exact absurd (h.held_lt j _ hj) (Nat.lt_irrefl _)
  · rw [hheld] at hr
    cases hr

/-- An actor that is there has been started. -/
theorem Base.lt_actors (h : Base w) {i : ℕ} (hi : w.actor i ≠ .done) : i < w.actors :=
  Nat.lt_of_not_le fun hle => hi (h.started i hle)

private theorem Actor.Admitted.ne_done {a : Actor} {ref : ℕ} {ctx : MapContext}
    {sources : List OdooSource} (h : a.Admitted ref ctx sources) : a ≠ .done := by
  rcases h with ⟨rfl, -⟩ | rfl <;> exact nofun

/-- An entry of the registry is the one registered last, or one of another session. -/
theorem mem_register {ref : ℕ} {e : Entry} (h : e ∈ (w.register ref).active) :
    e = ⟨(w.session ref).sessionId, ref⟩ ∨
      e ∈ w.active ∧ e.sessionId ≠ (w.session ref).sessionId := Table.mem_upsert h

/-- A launch ends the handler and starts a task. -/
theorem World.actor_launch (w : World) (i ref : ℕ) (ctx : MapContext) (sources : List OdooSource)
    (j : ℕ) : (w.launch i ref ctx sources).actor j =
      if j = w.actors then .task ref ctx (.created sources) else if j = i then .done
      else w.actor j := by
  rw [launch, actor_spawn, actor_become]
  rfl

/-- A launch keeps the invariant: the task takes over the session of the handler. -/
private theorem base_launch (h : Base w) {i ref : ℕ} {ctx : MapContext} {sources : List OdooSource}
    (hi : (w.actor i).Admitted ref ctx sources) (saved : Bool) (s : ScanSession) :
    Base ((w.saveIf saved s).launch i ref ctx sources) := by
  have hheld : (w.actor i).held = some ref := hi.held.1
  have hlt : i < w.actors := h.lt_actors hi.ne_done
  -- First the handler ends, and then the task takes the session over.
  have hreleased : Base (((w.saveIf saved s).register ref).become i .done) := by
    refine h.update (i := i) (r := w.refs) (fun j hj => ?_) ?_ (.inr ?_) ?_ (fun e he => ?_)
      (fun _ _ _ => ?_) (fun j _ hj => absurd (h.held_lt j _ hj) (Nat.lt_irrefl _))
      (fun ref' hr => ?_)
    · simp [hj, World.register]
    · simp [World.become, World.register]
    · simp
    · simp [World.become, World.register]
    · have hrefs : (((w.saveIf saved s).register ref).become i .done).refs = w.refs := by
        simp [World.become, World.register]
      rw [hrefs]
      rcases mem_register he with rfl | ⟨hmem, -⟩
      · exact h.held_lt i ref hheld
      · rw [World.active_saveIf] at hmem
        exact h.active_lt e hmem
    · simp [World.become, World.register]
    · rw [World.actor_become, if_pos rfl] at hr
      cases hr
  have hother : ∀ j, ((((w.saveIf saved s).register ref).become i .done).actor j).held ≠
      some ref := by
    intro j hj
    rw [World.actor_become] at hj
    split at hj
    · cases hj
    · next hji =>
      simp only [World.register, World.actor_saveIf] at hj
      exact hji (h.single j i ref hj hheld)
  refine hreleased.update (i := w.actors) (r := ref) (fun j hj => ?_) (Nat.le_succ _) (.inl ?_)
    (Nat.le_refl _) (fun e he => hreleased.active_lt e he) (fun _ _ _ => rfl)
    (fun j _ => hother j) (fun ref' hr => ?_)
  · rw [World.launch, World.actor_spawn, if_neg]
    simpa [World.become, World.register] using hj
  · simp [World.launch, World.spawn, World.become, World.register]
  · rw [World.actor_launch, if_pos (by simp)] at hr
    have hopen := h.isOpen i ref hheld
    refine ⟨(Option.some.inj hr).symm, ?_, ?_⟩
    · simpa [World.launch, World.spawn, World.become, World.register] using h.held_lt i ref hheld
    · simpa [World.launch, World.spawn, World.become, World.register] using hopen

/-- A handler takes a new session over. Nobody else can hold it, as its reference is new. -/
theorem base_alloc (h : Base w) {i : ℕ} (hi : i < w.actors) {s : ScanSession} {x : Actor}
    (hx : x.held = none ∨ x.held = some w.refs ∧ s.state.Open) : Base ((w.alloc s).become i x) := by
  refine h.update (i := i) (r := w.refs) (fun j hj => ?_) (Nat.le_refl _) (.inl hi)
    (Nat.le_succ _) (fun e he => Nat.lt_succ_of_lt (h.active_lt e he)) (fun ref _ hne => ?_)
    (fun j _ hj => absurd (h.held_lt j _ hj) (Nat.lt_irrefl _)) (fun ref hr => ?_)
  · rw [World.actor_become, if_neg hj]
    rfl
  · have hsession := World.session_alloc w s ref
    rw [if_neg hne] at hsession
    exact hsession
  · rw [World.actor_become, if_pos rfl] at hr
    rcases hx with hnone | ⟨hsome, hopen⟩
    · rw [hnone] at hr
      cases hr
    · have hsession := World.session_alloc w s w.refs
      rw [if_pos rfl] at hsession
      rw [hsome] at hr
      refine ⟨(Option.some.inj hr).symm, Nat.lt_succ_self _, ?_⟩
      rw [← hsession] at hopen
      exact hopen

private theorem isOpen_retryStart (s : ScanSession) (mode : String) :
    (retryStart s mode).1.state.Open := .inr rfl

/-- The session that a phase holds is written to by the task only, and stays open until the last
state is written. -/
theorem taskStep_held [Text] {cfg : ScanConfig} {ctx : MapContext} {answers : Responses}
    {s : ScanSession} {ref : ℕ} {phase : TaskPhase}
    (hopen : (Actor.task ref ctx phase).held = some ref → s.state.Open) :
    (TaskPhase.actor ref ctx (taskStep cfg ctx answers s phase).2).held = none ∨
      (TaskPhase.actor ref ctx (taskStep cfg ctx answers s phase).2).held = some ref ∧
        (taskStep cfg ctx answers s phase).1.state.Open := by
  match phase with
  | .created sources => exact .inr ⟨rfl, .inr rfl⟩
  | .between (source :: rest) => exact .inr ⟨rfl, hopen rfl⟩
  | .scanning source prior rest => exact .inr ⟨rfl, hopen rfl⟩
  | .between [] => exact .inl rfl
  | .flushing => exact .inl rfl

/-- A retry sets a registered session to pending, and takes it over. The session is not open, so
that nobody holds it. -/
theorem base_live (h : Base w) {i ref : ℕ} {sessionId : String} (mode : String) (ctx : MapContext)
    (hi : w.actor i ≠ .done) (hlive : w.getActive sessionId = some ref)
    (hidle : ¬ (w.session ref).state.Open) :
    Base ((w.write ref (retryStart (w.session ref) mode).1).become i
      (.retryLog ref (retryStart (w.session ref) mode).2 ctx)) := by
  -- The session is not open, so that nobody holds it.
  have hother : ∀ j, j ≠ i → (w.actor j).held ≠ some ref :=
    fun j _ hj => hidle (h.isOpen j ref hj)
  have hmem : ∃ e ∈ w.active, e.ref = ref := by
    obtain ⟨e, he, rfl⟩ := Option.map_eq_some_iff.mp hlive
    exact ⟨e, Table.mem_of_lookup he, rfl⟩
  have hlt : ref < w.refs := by
    obtain ⟨e, he, rfl⟩ := hmem
    exact h.active_lt e he
  refine h.update (i := i) (r := ref) (fun j hj => ?_) (Nat.le_refl _)
    (.inl (h.lt_actors hi)) (Nat.le_refl _)
    (fun e he => h.active_lt e he) (fun ref' _ hne => ?_) hother (fun ref' hr => ?_)
  · rw [World.actor_become, if_neg hj]
    rfl
  · exact (World.session_write w ref ref' _).trans (if_neg hne)
  · rw [World.actor_become, if_pos rfl] at hr
    refine ⟨(Option.some.inj hr).symm, hlt, ?_⟩
    have hself := World.session_write w ref ref (retryStart (w.session ref) mode).1
    rw [if_pos rfl] at hself
    have hopen := isOpen_retryStart (w.session ref) mode
    rw [← hself] at hopen
    exact hopen

/-- A step of a task. It writes the session that it holds, and lets it go with its last state. -/
theorem base_work [Text] (cfg : ScanConfig) (answers : Responses) (saved : Bool)
    (h : Base w) {i ref : ℕ} {ctx : MapContext} {phase : TaskPhase}
    (hi : w.actor i = .task ref ctx phase) :
    Base (((w.write ref (taskStep cfg ctx answers (w.session ref) phase).1).saveIf saved
      (taskStep cfg ctx answers (w.session ref) phase).1).become i
        (TaskPhase.actor ref ctx (taskStep cfg ctx answers (w.session ref) phase).2)) := by
  have hlt : i < w.actors := h.lt_actors (by rw [hi]; exact nofun)
  by_cases hheld : (w.actor i).held = some ref
  · refine h.update (i := i) (r := ref) (fun j hj => ?_) ?_ (.inl ?_) ?_ (fun e he => ?_)
      (fun ref' _ hne => ?_) (fun j hj hj' => hj (h.single j i ref hj' hheld)) (fun ref' hr => ?_)
    · simp [hj, World.write]
    · simp [World.become, World.write]
    · simpa [World.become, World.write] using hlt
    · simp [World.become, World.write]
    · simp only [World.become, World.active_saveIf, World.write] at he
      simpa [World.become, World.write] using h.active_lt e he
    · simp [World.become, hne]
    · rw [World.actor_become, if_pos rfl] at hr
      have hopen : (Actor.task ref ctx phase).held = some ref → (w.session ref).state.Open :=
        fun _ => h.isOpen i ref hheld
      rcases taskStep_held hopen with hnone | ⟨hsome, hopen'⟩
      · rw [hnone] at hr
        cases hr
      · rw [hsome] at hr
        refine ⟨(Option.some.inj hr).symm, ?_, ?_⟩
        · simpa [World.become, World.write] using h.held_lt i ref hheld
        · simpa [World.become] using hopen'
  · -- The last step of a task: it has written its session already.
    obtain rfl : phase = .flushing := by
      cases phase with
      | flushing => rfl
      | created sources => exact absurd (by rw [hi]; rfl) hheld
      | between sources => exact absurd (by rw [hi]; rfl) hheld
      | scanning source prior rest => exact absurd (by rw [hi]; rfl) hheld
    refine h.release (i := i) (fun j hj => ?_) ?_ (.inr ?_) ?_ ?_ (fun ref' _ => ?_) ?_
    · simp [hj, World.write]
    · simp [World.become, World.write]
    · simp [taskStep, TaskPhase.actor]
    · simp [World.become, World.write]
    · simp [World.become, World.write]
    · simp [World.become, World.write, taskStep]
    · simp [taskStep, TaskPhase.actor, Actor.held]

/-- Every step keeps the invariant. Most steps leave their actor without a session; the others take
one over or go on with it. -/
theorem base_moves [Text] {cfg : ScanConfig} {a : Action} (h : Base w)
    (hmoves : Moves cfg w a w') : Base w' := by
  cases hmoves with
  | skips => exact h
  -- the steps that leave the actor without a session
  | arrives _ x hx =>
    refine h.release (i := w.actors) (fun j hj => ?_) (Nat.le_succ _) (.inl (Nat.lt_succ_self _))
      (Nat.le_refl _) rfl (fun _ _ => rfl) ?_
    · rw [World.actor_spawn, if_neg hj]
    · rw [World.actor_spawn, if_pos rfl, hx.held]
  | goesOn _ i x hx hi hdone =>
    have hlt : i < w.actors ∨ (w.become i x).actor i = .done := by
      rw [World.actor_become, if_pos rfl]
      exact hdone.symm.imp_left h.lt_actors
    refine h.release (i := i) (fun j hj => ?_) (Nat.le_refl _) hlt (Nat.le_refl _) rfl
      (fun _ _ => rfl) ?_
    · rw [World.actor_become, if_neg hj]
    · rw [World.actor_become, if_pos rfl, hx.held]
  -- the steps that hand a session to the actor, each with a lemma of its own
  | scanAdmitted i code newId ctx hi henabled hidle hfresh =>
    exact base_alloc h (h.lt_actors (by rw [hi]; exact nofun)) (.inr ⟨rfl, .inl rfl⟩)
  | liveAdmitted i ref code sessionId mode newId ctx hi hlive hcode hidle hkeys =>
    exact base_live h mode ctx (by rw [hi]; exact nofun) hlive hidle
  | loadedAdmitted i code sessionId mode ctx snap hi hsnap hcode hkeys =>
    exact base_alloc h (h.lt_actors (by rw [hi]; exact nofun)) (.inr ⟨rfl, isOpen_retryStart _ _⟩)
  | loadedDone i code sessionId mode ctx snap hi hsnap =>
    exact base_alloc h (h.lt_actors (by rw [hi]; exact nofun)) (.inl rfl)
  | launches i ref ctx sources saved hi => exact base_launch h hi saved _
  | givesUp i ref ctx sources landed saved hi =>
    refine h.release (i := i) (fun j hj => ?_) ?_ (.inr ?_) ?_ ?_ (fun _ _ => ?_) ?_
    · simp [hj]
    · simp [World.become]
    · simp
    · simp [World.become]
    · simp [World.become]
    · simp [World.become]
    · simp [Actor.held]
  | works i ref ctx phase answers saved hi => exact base_work cfg answers saved h hi

end DecisionCenter.Scan
