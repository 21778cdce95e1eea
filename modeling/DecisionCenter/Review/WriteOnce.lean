import DecisionCenter.Review.Archive

/-!
# Final objects are written once

Interleavings of approval, override and other review requests on one report, with operations
that raise and processes that end. `copy_to_final` refuses to write an object again. The
approval log is protected by no such check: it is rewritten by every publish node that gets to
it, and names the newest approval that the node has read. `writeOnce_of_startsAlone` says when
the log is written once and names the reviewer who made the report final: if every publish node
reads the decisions of a report that is not final and has no log, while no other publish node is
at work, and finds its own reviewer's approval as the newest.

A task is followed from its read of the decisions on. Before it, the task can do nothing under
`final/` (`Unread`); after it, it is `Going`, with the approval that it has read, and performs
the writes of the publish node one after the other. `StartsAlone` is a condition on the step at
which a task goes over from the one to the other.

The invariant says that one task at most is going, that the log, where there is one, was written
by it or by the one that made the report final, and that all others have not read. The steps are
those of the archive, with a fault before or after the effect, arrivals and crashes; most of
them are quiet, and leave `final/` as it is and the report not made final.

`WriteOnce` compares the archives before and after a step: no object under `final/` changes or
goes, and where the report is final the log names its finalizer. A state update that fails, so
that a second reviewer approves as well, is the failing run.
-/

namespace DecisionCenter.Review

open Async

variable {B R R' : Type} {env : Env} {requestId : String}

/-! ### Tasks before and after they read the decisions -/

/-- The operations by which a publish node writes, once it has read the decisions, and those of
the workflow, which no request performs. -/
def Op.publishes : Op → Bool
  | .copyToFinal _ => true
  | .putApprovalLog _ => true
  | .updateReviewState .final => true
  | .insertAudit _ => true
  | .putStaging _ => true
  | _ => false

/-- A publish node's write: no copy replaces the log, and a log, where it `may` still be
written, is one of `Names`. -/
def Op.PublishWrite (Names : ApprovalLog → Prop) (may : Bool) : Op → Prop
  | .copyToFinal filename => filename ≠ approvalLogName
  | .putApprovalLog log => may = true ∧ Names log
  | .updateReviewState s => s = .final
  | _ => False

/-- The operation writes the log. -/
def Op.writesLog : Op → Bool
  | .putApprovalLog _ => true
  | _ => false

/-- The task is a publish node that has read the decisions. -/
def Going (Names : ApprovalLog → Prop) : Bool → StoreTask R → Prop
  | _, .ret _ => True
  | may, .op o next => o.PublishWrite Names may ∧
      ∀ x, Going Names (may && !o.writesLog) (next x)

/-- The newest approval among the decisions that an operation returned. -/
def Op.newestApproval : (o : Op) → o.Outcome → Option Decision
  | .getReviewDecisions => fun x => x.bind latestApproval
  | _ => fun _ => none

/-- The log names the reviewer of the decision. -/
def NamesReviewer (d : Option Decision) (log : ApprovalLog) : Prop :=
  d.map (·.reviewerIdHash) = some log.approverIdHash

/-- The task writes nothing under `final/` and does not make the report final before it has read
the decisions; where it cannot read them it ends. -/
def Unread : StoreTask R → Prop
  | .ret _ => True
  | .op o next => o.publishes = false ∧
      (o = .getReviewDecisions → ∀ x : o.Outcome,
        Going (NamesReviewer (o.newestApproval x)) true (next x) ∧
          (x = none → (next x).result?.isSome = true)) ∧
      (o ≠ .getReviewDecisions → ∀ x, Unread (next x))

section Tasks

variable {Names : ApprovalLog → Prop} {may : Bool}

/-- What a task does with its result is no operation. -/
theorem Going.bind {t : StoreTask R} {f : R → R'} (h : Going Names may t) :
    Going Names may (t.bind fun r => .ret (f r)) := by
  induction t generalizing may with
  | ret r => trivial
  | op o next ih => exact ⟨h.1, fun x => ih x (h.2 x)⟩

/-- What a task that has not read does with its result is no operation either. -/
theorem Unread.bind {t : StoreTask R} {f : R → R'} (h : Unread t) :
    Unread (t.bind fun r => .ret (f r)) := by
  induction t with
  | ret r => trivial
  | op o next ih =>
    obtain ⟨ho, hread, hrest⟩ := h
    refine ⟨ho, fun heq x => ⟨(hread heq x).1.bind, fun hx => ?_⟩, fun hne x => ih x (hrest hne x)⟩
    exact (Task.isSome_result?_bind_ret (next x) f).trans ((hread heq x).2 hx)

/-- What is known of the log that is written may be weakened. -/
theorem Going.mono {Names' : ApprovalLog → Prop} {t : StoreTask R} (h : Going Names may t)
    (hmono : ∀ log, Names log → Names' log) : Going Names' may t := by
  induction t generalizing may with
  | ret r => trivial
  | op o next ih =>
    refine ⟨?_, fun x => ih x (h.2 x)⟩
    cases o with
    | putApprovalLog log => exact h.1.imp_right (hmono log)
    | _ => exact h.1

/-- An operation other than the read of the decisions. -/
theorem unread_op {o : Op} {next : o.Outcome → StoreTask R} (ho : o.publishes = false)
    (hne : o ≠ .getReviewDecisions) (h : ∀ x, Unread (next x)) : Unread (.op o next) :=
  ⟨ho, fun heq => absurd heq hne, fun _ => h⟩

private theorem unread_call {o : Op} {next : o.Result → StoreTask Response}
    (ho : o.publishes = false) (hne : o ≠ .getReviewDecisions) (h : ∀ x, Unread (next x)) :
    Unread (call o next) := by
  refine unread_op ho hne fun x => ?_
  cases x with
  | none => trivial
  | some x => exact h x

private theorem going_finalize (keys : List String) (errors : List PublishError) :
    Going Names may (finalize keys errors) := ⟨rfl, fun _ => trivial⟩

private theorem going_writeApprovalLog (row : AuditRow) (decisions : List Decision)
    (keys : List String) (errors : List PublishError) :
    Going (NamesReviewer (latestApproval decisions)) true
      (writeApprovalLog requestId row decisions keys errors) := by
  rw [writeApprovalLog]
  split
  · next d hd =>
    refine ⟨⟨rfl, ?_⟩, fun x => ?_⟩
    · rw [NamesReviewer, hd]
      rfl
    · cases x with
      | none => exact going_finalize _ _
      | some _ => exact going_finalize _ _
  · exact going_finalize _ _

private theorem going_copyArtifacts (row : AuditRow) (decisions : List Decision)
    (names : List String) (hnames : approvalLogName ∉ names) :
    ∀ (keys : List String) (errors : List PublishError),
      Going (NamesReviewer (latestApproval decisions)) true
        (copyArtifacts requestId row decisions names keys errors) := by
  induction names with
  | nil => intro keys errors; exact going_writeApprovalLog row decisions keys errors
  | cons name names ih =>
    intro keys errors
    rw [List.mem_cons, not_or] at hnames
    refine ⟨Ne.symm hnames.1, fun x => ?_⟩
    cases x with
    | none => exact ih hnames.2 _ _
    | some _ => exact ih hnames.2 _ _

private theorem going_publishRead (audit : Option AuditRow) (decisions : List Decision) :
    Going (NamesReviewer (latestApproval decisions)) true
      (publishRead requestId audit decisions) := by
  have hnames : approvalLogName ∉ artifactNames := by decide
  cases audit with
  | none => trivial
  | some row =>
    rw [publishRead]
    split <;> first | trivial | exact going_copyArtifacts row decisions _ hnames _ _

private theorem unread_node17Publish : Unread (node17Publish requestId) := by
  have hne : Op.getAudit ≠ Op.getReviewDecisions := by decide
  refine unread_op rfl hne fun audit => ?_
  cases audit with
  | none => trivial
  | some audit =>
    refine ⟨rfl, fun _ decisions => ?_, fun h => absurd rfl h⟩
    cases decisions with
    | none => exact ⟨trivial, fun _ => rfl⟩
    | some decisions => exact ⟨going_publishRead audit decisions, nofun⟩

end Tasks

namespace Endpoint

variable {e : Endpoint}

private theorem unread_write (htarget : e.target ≠ .final) : Unread (e.write requestId) := by
  have hpub : (Op.updateReviewState e.target).publishes = false := by
    cases h : e.target <;> first | rfl | exact absurd h htarget
  refine unread_call hpub nofun fun _ => ?_
  rw [publishAndAnswer]
  split
  · exact unread_node17Publish.bind
  · trivial

private theorem unread_recordDecision (htarget : e.target ≠ .final) (row : AuditRow) :
    Unread (e.recordDecision requestId row) :=
  unread_call rfl nofun fun _ => unread_write htarget

private theorem unread_decide (htarget : e.target ≠ .final) (row : AuditRow) :
    Unread (e.decide requestId row) := by
  rw [Endpoint.decide]
  split
  · exact unread_call rfl (by rintro ⟨⟩) fun _ => unread_recordDecision htarget row
  · exact unread_recordDecision htarget row

private theorem unread_checked (htarget : e.target ≠ .final)
    (habsent : ∀ job, Unread (e.absent job)) (job : Option Job) (audit : Option AuditRow) :
    Unread (e.checked requestId job audit) := by
  cases audit with
  | none => exact habsent job
  | some row =>
    rw [checked]
    split
    · exact unread_decide htarget row
    · trivial

private theorem unread_serve (htarget : e.target ≠ .final)
    (habsent : ∀ job, Unread (e.absent job)) : Unread (e.serve requestId) := by
  have hread : ∀ job, Unread (e.readAudit requestId job) := fun job =>
    unread_call rfl (by rintro ⟨⟩) fun audit => unread_checked htarget habsent job audit
  rw [serve]
  split
  · exact unread_call rfl (by rintro ⟨⟩) hread
  · exact hread none

end Endpoint

private theorem unread_cancelJob (claims : Claims) (job : Option Job) :
    Unread (cancelJob env claims job) := by
  cases job with
  | none => trivial
  | some job =>
    rw [cancelJob]
    split
    · trivial
    · split
      · trivial
      · exact unread_call rfl (by rintro ⟨⟩) fun _ => trivial

/-- A handler starts before its read. -/
theorem unread_handle (req : Request) : Unread (req.handle env requestId) := by
  rw [Request.handle]
  cases he : req.endpoint env requestId with
  | error err => trivial
  | ok e =>
    dsimp only
    obtain ⟨_, _, c, rfl, -, rfl⟩ | ⟨_, _, c, rfl, -, rfl⟩ | ⟨_, _, _, c, rfl, -, rfl⟩ |
      ⟨_, c, rfl, -, rfl⟩ | ⟨_, _, c, rfl, -, rfl⟩ | ⟨_, _, c, rfl, -, rfl⟩ :=
        Request.endpoint_cases he
    · exact Endpoint.unread_serve (by rintro ⟨⟩) fun _ => trivial
    · exact Endpoint.unread_serve (by rintro ⟨⟩) fun _ => trivial
    · exact Endpoint.unread_serve (by rintro ⟨⟩) fun _ => trivial
    · exact Endpoint.unread_serve (by rintro ⟨⟩) fun job => unread_cancelJob c job
    · exact Endpoint.unread_serve (by rintro ⟨⟩) fun _ => trivial
    · exact Endpoint.unread_serve (by rintro ⟨⟩) fun _ => trivial

/-! ### The condition and the property -/

namespace Publication

/-- The reviewer whom the task at position `i` serves. -/
def reviewerHash (env : Env) (w : Publication B) (i : ℕ) : Option String :=
  (w.requests[i]?).bind (·.reviewerHash? env)

/-- The next operation of the task is the read of the decisions, and it goes on to publish. -/
def startsPublishing (w : Publication B) (i : ℕ) : Bool :=
  match w.pool.tasks[i]? with
  | some (.op .getReviewDecisions next) =>
    (next (some w.pool.store.decisions)).result?.isNone
  | _ => false

/-- The task at position `j` is at work on `final/`. -/
def publishing (w : Publication B) (j : ℕ) : Bool := (w.pool.nextOp j).elim false (·.publishes)

/-- The publish node of the task `i` may start: the report is not final and has no approval log,
no other publish node is at work, and the newest approval is that of its own reviewer. -/
def Free (env : Env) (w : Publication B) (i : ℕ) : Prop :=
  w.pool.store.reviewState? ≠ some .final ∧ w.pool.store.approvalLog = none ∧
    (∀ j < w.pool.tasks.length, j ≠ i → w.publishing j = false) ∧
    (latestApproval w.pool.store.decisions).map (·.reviewerIdHash) = w.reviewerHash env i

instance (env : Env) (w : Publication B) (i : ℕ) : Decidable (w.Free env i) :=
  inferInstanceAs (Decidable (_ ∧ _ ∧ _ ∧ _))

/-- Every publish node starts when it may. -/
def StartsAlone (env : Env) (w : Publication B) (a : PublicationStep) : Prop :=
  match a with
  | .perform i .none => w.startsPublishing i = true → w.Free env i
  | _ => True

instance (env : Env) (w : Publication B) (a : PublicationStep) : Decidable (StartsAlone env w a) :=
  match a with
  | .perform i .none => inferInstanceAs (Decidable (w.startsPublishing i = true → w.Free env i))
  | .perform _ (.before _) => isTrue trivial
  | .perform _ (.after _) => isTrue trivial
  | .arrive _ => isTrue trivial
  | .crash => isTrue trivial

/-- The step from `w` to `w'`, in which `op` takes effect, keeps `final/` write-once: objects
keep their contents, the log is written only where there is none, and the log of a final report
names the reviewer whose request made it final. -/
structure WriteOnce (env : Env) (w w' : Publication B) (op : Option (ℕ × Op)) : Prop where
  kept : ∀ name c, w.pool.store.final name = some c → w'.pool.store.final name = some c
  once : ∀ i log, op = some (i, .putApprovalLog log) → w.pool.store.approvalLog = none
  named : ∀ log, w'.pool.store.reviewState? = some .final →
    w'.pool.store.approvalLog = some log →
    ∃ i, w'.finalizer = some i ∧ w'.reviewerHash env i = some log.approverIdHash

end Publication

/-! ### The invariant -/

namespace Publication

variable {drafts : String → B} {w : Publication B}

/-- Only the task `g`, if any, is past its read of the decisions. While it is at work the log
and the final state are its own. -/
structure PublishedBy (env : Env) (w : Publication B) (g : Option ℕ) : Prop where
  unread : ∀ i t, w.pool.tasks[i]? = some t → g ≠ some i → Unread t
  going : ∀ p, g = some p → ∃ t may, w.pool.tasks[p]? = some t ∧
    Going (fun log => w.reviewerHash env p = some log.approverIdHash) may t ∧
    (may = true → w.pool.store.approvalLog = none)
  finalized : ∀ p, g = some p → w.pool.store.reviewState? = some .final → w.finalizer = some p
  logged : ∀ p log, g = some p → w.pool.store.approvalLog = some log →
    w.reviewerHash env p = some log.approverIdHash

/-- What holds of every state of a run. -/
structure Invariant (env : Env) (w : Publication B) : Prop where
  length : w.requests.length = w.pool.tasks.length
  publishedBy : ∃ g, w.PublishedBy env g
  logObject : w.pool.store.approvalLog = none → w.pool.store.final approvalLogName = none
  named : ∀ log, w.pool.store.reviewState? = some .final →
    w.pool.store.approvalLog = some log →
    ∃ i, w.finalizer = some i ∧ w.reviewerHash env i = some log.approverIdHash

/-- The invariant holds of a saved report. -/
theorem invariant_start (s : SavedReport B) : Invariant env s.start where
  length := rfl
  publishedBy :=
    ⟨none, fun i t ht => absurd ht nofun, nofun, nofun, nofun⟩
  logObject _ := rfl
  named log hfinal := by
    have hstate : s.start.pool.store.reviewState? = some s.row.reviewState := rfl
    rw [hstate, s.staged] at hfinal
    cases hfinal

/-! ### What the effective operations do -/

/-- An operation that is no write of a publish node leaves `final/` alone and does not make the
report final. -/
theorem effect_of_not_publishes {o : Op} (ho : o.publishes = false) (a : Archive B) :
    (a.effect drafts o).2.final = a.final ∧
      ((a.effect drafts o).2.reviewState? = some .final → a.reviewState? = some .final) := by
  cases o with
  | copyToFinal name => cases ho
  | putApprovalLog log => cases ho
  | insertAudit row => cases ho
  | putStaging name => cases ho
  | updateReviewState s =>
    refine ⟨rfl, fun h => ?_⟩
    obtain rfl := Archive.reviewState?_setReviewState h
    cases ho
  | _ => exact ⟨rfl, id⟩

/-- A write of a publish node on an archive where the log, if it may still be written, does not
exist. -/
theorem effect_of_publishWrite (drafts : String → B) {Names : ApprovalLog → Prop} {may : Bool}
    {o : Op} (ho : o.PublishWrite Names may) {a : Archive B}
    (hlog : a.approvalLog = none → a.final approvalLogName = none)
    (hmay : may = true → a.approvalLog = none) :
    (∀ name c, a.final name = some c → (a.effect drafts o).2.final name = some c) ∧
      ((may && !o.writesLog) = true → (a.effect drafts o).2.approvalLog = none) ∧
      (∀ log, (a.effect drafts o).2.approvalLog = some log →
        a.approvalLog = some log ∨ Names log) ∧
      ((a.effect drafts o).2.approvalLog = none →
        (a.effect drafts o).2.final approvalLogName = none) ∧
      ((a.effect drafts o).2.reviewState? = some .final →
        a.reviewState? = some .final ∨ o = .updateReviewState .final) := by
  cases o with
  | copyToFinal name =>
    have hnot : (Op.copyToFinal name).writesLog = false := rfl
    rw [hnot, Bool.not_false, Bool.and_true]
    obtain h | ⟨bytes, hnew, -, h⟩ := a.final_copyToFinal drafts name
    -- a copy that finds the object there, or no draft of it, writes nothing
    · rw [h]
      exact ⟨fun _ _ hc => hc, hmay, fun _ hl => .inl hl, hlog, .inl⟩
    · have hsame := a.final_putFinal_of_ne (Ne.symm ho) (.artifact bytes)
      have hsame' : (a.putFinal name (.artifact bytes)).approvalLog = a.approvalLog := by
        rw [Archive.approvalLog, hsame, Archive.approvalLog]
      rw [h, hsame, hsame']
      exact ⟨fun _ _ hc => Archive.final_putFinal_of_new hnew _ hc, hmay, fun _ hl => .inl hl,
        hlog, .inl⟩
  -- the one write of the log: the hypothesis says it is absent, so nothing is overwritten
  | putApprovalLog log =>
    obtain ⟨hyes, hname⟩ := ho
    have habsent : a.final approvalLogName = none := hlog (hmay hyes)
    have hwritten := a.final_putFinal_self approvalLogName (.log log)
    have hthere : (a.putFinal approvalLogName (.log log)).approvalLog = some log := by
      rw [Archive.approvalLog, hwritten]
    have hnot : (Op.putApprovalLog log).writesLog = true := rfl
    rw [hnot, Bool.not_true, Bool.and_false]
    refine ⟨fun _ _ hc => Archive.final_putFinal_of_new habsent _ hc, nofun, fun l hl => ?_,
      fun hnone => ?_, .inl⟩
    · obtain rfl : log = l := Option.some.inj (hthere.symm.trans hl)
      exact .inr hname
    · exact absurd (hthere.symm.trans hnone) (Option.some_ne_none log)
  | updateReviewState s =>
    obtain rfl : s = .final := ho
    have hnot : (Op.updateReviewState .final).writesLog = false := rfl
    rw [hnot, Bool.not_false, Bool.and_true]
    exact ⟨fun _ _ hc => hc, hmay, fun _ hl => .inl hl, hlog, fun _ => .inr rfl⟩
  | getAudit => exact absurd ho not_false
  | getReportJob => exact absurd ho not_false
  | getReviewDecisions => exact absurd ho not_false
  | insertAdminEvent e => exact absurd ho not_false
  | insertReviewDecision d => exact absurd ho not_false
  | failReportJob s => exact absurd ho not_false
  | insertAudit row => exact absurd ho not_false
  | putStaging name => exact absurd ho not_false

/-! ### Steps -/

private theorem going_op {Names : ApprovalLog → Prop} {may : Bool} {o : Op}
    (h : o.PublishWrite Names may) : o.publishes = true := by
  cases o with
  | copyToFinal name => rfl
  | putApprovalLog log => rfl
  | updateReviewState s =>
    obtain rfl : s = .final := h
    rfl
  | getAudit => exact absurd h not_false
  | getReportJob => exact absurd h not_false
  | getReviewDecisions => exact absurd h not_false
  | insertAdminEvent e => exact absurd h not_false
  | insertReviewDecision d => exact absurd h not_false
  | failReportJob s => exact absurd h not_false
  | insertAudit row => exact absurd h not_false
  | putStaging name => exact absurd h not_false

/-- A task at work on `final/` that is past its read has its write as the next operation. -/
theorem unread_of_going {Names : ApprovalLog → Prop} {may : Bool} {t : StoreTask Response}
    (h : Going Names may t) {j : ℕ} (hget : w.pool.tasks[j]? = some t)
    (hidle : w.publishing j = false) : Unread t := by
  cases t with
  | ret r => trivial
  | op o next =>
    rw [publishing, Pool.nextOp, hget] at hidle
    have ho : o.publishes = true := going_op h.1
    exact absurd (ho.symm.trans hidle) Bool.true_eq_false.mp

private theorem reviewerHash_append (req : Request) {i : ℕ} {h : String}
    (hi : w.reviewerHash env i = some h) :
    (({ w with requests := w.requests ++ [req] } : Publication B).reviewerHash env i) =
      some h := by
  obtain ⟨req', hreq', hhash⟩ := Option.bind_eq_some_iff.mp hi
  have hlt : i < w.requests.length := (List.getElem?_eq_some_iff.mp hreq').1
  rw [reviewerHash]
  dsimp only
  rw [List.getElem?_append_left hlt, hreq', Option.bind_some]
  exact hhash

/-- The same of an operation under a fault. -/
theorem perform_of_not_publishes {o : Op} (ho : o.publishes = false) (fault : Fault Unit)
    (a : Archive B) :
    (a.perform drafts fault o).2.final = a.final ∧
      ((a.perform drafts fault o).2.reviewState? = some .final →
        a.reviewState? = some .final) := by
  rw [Archive.perform_snd]
  split
  · exact effect_of_not_publishes ho a
  · exact ⟨rfl, id⟩

/-- A write of the publish node, under any fault: objects that are there stay, and the log, if it
may be written, is new. -/
private theorem perform_of_publishWrite (drafts : String → B) {Names : ApprovalLog → Prop}
    {may : Bool} {o : Op} (ho : o.PublishWrite Names may) (fault : Fault Unit) {a : Archive B}
    (hlog : a.approvalLog = none → a.final approvalLogName = none)
    (hmay : may = true → a.approvalLog = none) :
    (∀ name c, a.final name = some c → (a.perform drafts fault o).2.final name = some c) ∧
      ((may && !o.writesLog) = true → (a.perform drafts fault o).2.approvalLog = none) ∧
      (∀ log, (a.perform drafts fault o).2.approvalLog = some log →
        a.approvalLog = some log ∨ Names log) ∧
      ((a.perform drafts fault o).2.approvalLog = none →
        (a.perform drafts fault o).2.final approvalLogName = none) ∧
      ((a.perform drafts fault o).2.reviewState? = some .final →
        a.reviewState? = some .final ∨
          (fault.effective = true ∧ o = .updateReviewState .final)) := by
  rw [Archive.perform_snd]
  split
  · next heff =>
    obtain ⟨hkept, hmay', hnames, hlog', hstate⟩ := effect_of_publishWrite drafts ho hlog hmay
    exact ⟨hkept, hmay', hnames, hlog', fun h => (hstate h).imp_right fun ho' => ⟨heff, ho'⟩⟩
  · refine ⟨fun _ _ hc => hc, fun h => hmay ?_, fun _ hl => .inl hl, hlog, .inl⟩
    exact (Bool.and_eq_true_iff.mp h).1

/-- The finalizer after a step of a task. -/
theorem finalizer_perform (env : Env) (requestId : String) (drafts : String → B) {i : ℕ}
    (fault : Fault Unit) {o : Op} {next : o.Outcome → StoreTask Response}
    (hget : w.pool.tasks[i]? = some (.op o next)) :
    (publicationStep env requestId drafts w (.perform i fault)).finalizer =
      if fault.effective = true ∧ o = .updateReviewState .final then some i else w.finalizer := by
  have hop : w.pool.nextOp i = some o := by rw [Pool.nextOp, hget]
  rw [publicationStep, effectiveOp, hop]
  cases fault.effective with
  | false => rfl
  | true =>
    cases o with
    | updateReviewState s => cases s <;> rfl
    | _ => rfl

private theorem pool_perform (env : Env) (requestId : String) (drafts : String → B) {i : ℕ}
    (fault : Fault Unit) {o : Op} {next : o.Outcome → StoreTask Response}
    (hget : w.pool.tasks[i]? = some (.op o next)) :
    (publicationStep env requestId drafts w (.perform i fault)).pool =
      ⟨(w.pool.store.perform drafts fault o).2,
        w.pool.tasks.set i (next (w.pool.store.perform drafts fault o).1)⟩ := by
  rw [publicationStep]
  dsimp only
  rw [Pool.step, hget]

/-- A publish node that is past its read performs its next write. It copies what is not there yet
and writes the log once, as it is the only one that publishes. -/
theorem Invariant.perform_going (requestId : String) (drafts : String → B) {i : ℕ}
    (fault : Fault Unit) {o : Op} {next : o.Outcome → StoreTask Response} (h : Invariant env w)
    (hget : w.pool.tasks[i]? = some (.op o next)) (hby : w.PublishedBy env (some i)) :
    Invariant env (publicationStep env requestId drafts w (.perform i fault)) ∧
      (∀ name c, w.pool.store.final name = some c →
        (publicationStep env requestId drafts w (.perform i fault)).pool.store.final name =
          some c) ∧
      (o.writesLog = true → w.pool.store.approvalLog = none) := by
  obtain ⟨t, may, ht, hgoing, hmay⟩ := hby.going i rfl
  obtain rfl : t = .op o next := Option.some.inj (ht.symm.trans hget)
  obtain ⟨ho, hnext⟩ := hgoing
  obtain ⟨hkept, hmay', hnames, hlog', hstate⟩ :=
    perform_of_publishWrite drafts ho fault h.logObject hmay
  have hpool := pool_perform env requestId drafts fault hget
  have hfin := finalizer_perform env requestId drafts fault hget
  have hlt : i < w.pool.tasks.length := (List.getElem?_eq_some_iff.mp hget).1
  -- While the node is at work, the final state and the log are its own.
  have hown : ∀ log, (w.pool.store.perform drafts fault o).2.approvalLog = some log →
      w.reviewerHash env i = some log.approverIdHash := by
    intro log hl
    obtain hl | hl := hnames log hl
    · exact hby.logged i log rfl hl
    · exact hl
  have hfinal : (w.pool.store.perform drafts fault o).2.reviewState? = some .final →
      (publicationStep env requestId drafts w (.perform i fault)).finalizer = some i := by
    intro hs
    rw [hfin]
    split
    · rfl
    · next hnot =>
      obtain hs | hs := hstate hs
      · exact hby.finalized i rfl hs
      · exact absurd hs hnot
  refine ⟨⟨?_, ⟨some i, ?_, ?_, ?_, ?_⟩, ?_, ?_⟩, ?_, ?_⟩
  · rw [hpool, List.length_set]
    exact h.length
  · intro j u hu hne
    rw [hpool] at hu
    have hij : i ≠ j := fun heq => hne (congrArg some heq)
    dsimp only at hu
    rw [List.getElem?_set_ne hij] at hu
    exact hby.unread j u hu hne
  · rintro p ⟨⟩
    rw [hpool]
    refine ⟨_, may && !o.writesLog, List.getElem?_set_self hlt, hnext _, hmay'⟩
  · rintro p ⟨⟩
    rw [hpool]
    exact hfinal
  · rintro p log ⟨⟩
    rw [hpool]
    exact hown log
  · rw [hpool]
    exact hlog'
  · intro log
    rw [hpool]
    intro hs hl
    exact ⟨i, hfinal hs, hown log hl⟩
  · rw [hpool]
    exact hkept
  · intro hwrites
    cases o with
    | putApprovalLog log => exact hmay ho.1
    | _ => cases hwrites

/-- The step leaves `final/` as it is and does not make the report final. -/
structure Quiet (env : Env) (w w' : Publication B) : Prop where
  final : w'.pool.store.final = w.pool.store.final
  state : w'.pool.store.reviewState? = some .final → w.pool.store.reviewState? = some .final
  finalizer : w'.finalizer = w.finalizer
  hash : ∀ i h, w.reviewerHash env i = some h → w'.reviewerHash env i = some h

variable {w' : Publication B} {g : Option ℕ}

/-- A quiet step leaves the log. -/
theorem Quiet.approvalLog (q : Quiet env w w') :
    w'.pool.store.approvalLog = w.pool.store.approvalLog := by
  rw [Archive.approvalLog, q.final, Archive.approvalLog]

/-- The node at work stays the same while the others do nothing to the point. -/
theorem PublishedBy.quiet (hby : w.PublishedBy env g) (q : Quiet env w w')
    (hunread : ∀ i t, w'.pool.tasks[i]? = some t → g ≠ some i → Unread t)
    (hsame : ∀ p, g = some p → ∀ t, w.pool.tasks[p]? = some t → w'.pool.tasks[p]? = some t) :
    w'.PublishedBy env g where
  unread := hunread
  going p hp := by
    obtain ⟨t, may, ht, hgoing, hmay⟩ := hby.going p hp
    refine ⟨t, may, hsame p hp t ht, hgoing.mono fun log hl => q.hash p _ hl, ?_⟩
    rw [q.approvalLog]
    exact hmay
  finalized p hp hs := q.finalizer.trans (hby.finalized p hp (q.state hs))
  logged p log hp hl := q.hash p _ (hby.logged p log hp (q.approvalLog.symm.trans hl))

private theorem Invariant.quiet (h : Invariant env w) (q : Quiet env w w')
    (hlength : w'.requests.length = w'.pool.tasks.length) (hby : w'.PublishedBy env g) :
    Invariant env w' where
  length := hlength
  publishedBy := ⟨g, hby⟩
  logObject hnone := by
    rw [q.final]
    exact h.logObject (q.approvalLog.symm.trans hnone)
  named log hs hl := by
    obtain ⟨i, hi, hhash⟩ := h.named log (q.state hs) (q.approvalLog.symm.trans hl)
    exact ⟨i, q.finalizer.trans hi, q.hash i _ hhash⟩

/-- A new request has not read the decisions. The requests before it keep their positions. -/
theorem Invariant.arrive (h : Invariant env w) (req : Request) :
    Invariant env (publicationStep env requestId drafts w (.arrive req)) ∧
      Quiet env w (publicationStep env requestId drafts w (.arrive req)) := by
  have q : Quiet env w (publicationStep env requestId drafts w (.arrive req)) :=
    ⟨rfl, id, rfl, fun i _ hi => reviewerHash_append req hi⟩
  obtain ⟨g, hby⟩ := h.publishedBy
  refine ⟨h.quiet q ?_ (hby.quiet q (fun i t ht hne => ?_) fun p hp t ht => ?_), q⟩
  · rw [publicationStep]
    dsimp only
    rw [List.length_append, List.length_append, h.length]
    rfl
  · rw [publicationStep] at ht
    dsimp only at ht
    rw [List.getElem?_append] at ht
    split at ht
    · exact hby.unread i t ht hne
    · rw [List.mem_singleton.mp (List.mem_of_getElem? ht)]
      exact unread_handle req
  · exact (List.getElem?_append_left (List.getElem?_eq_some_iff.mp ht).1).trans ht

/-- A process that ends leaves no task at work. -/
theorem Invariant.crash (h : Invariant env w) :
    Invariant env (publicationStep env requestId drafts w .crash) ∧
      Quiet env w (publicationStep env requestId drafts w .crash) := by
  have q : Quiet env w (publicationStep env requestId drafts w .crash) :=
    ⟨rfl, id, rfl, fun _ _ hi => hi⟩
  refine ⟨h.quiet q (h.length.trans (List.length_map _).symm) (?_ : PublishedBy env _ none), q⟩
  refine ⟨fun i t ht _ => ?_, nofun, nofun, nofun⟩
  obtain ⟨u, -, rfl⟩ := List.mem_map.mp (List.mem_of_getElem? ht)
  trivial

/-- A task that has not read the decisions performs its next operation. -/
theorem quiet_perform {i : ℕ} (fault : Fault Unit) {o : Op} {next : o.Outcome → StoreTask Response}
    (hget : w.pool.tasks[i]? = some (.op o next)) (ho : o.publishes = false) :
    Quiet env w (publicationStep env requestId drafts w (.perform i fault)) := by
  obtain ⟨hfinal, hstate⟩ := perform_of_not_publishes ho fault w.pool.store
  have hpool := pool_perform env requestId drafts fault hget
  have hfin := finalizer_perform env requestId drafts fault hget
  refine ⟨?_, ?_, ?_, fun _ _ hi => hi⟩
  · rw [hpool]
    exact hfinal
  · rw [hpool]
    exact hstate
  · rw [hfin, if_neg]
    rintro ⟨-, rfl⟩
    cases ho

/-- The task at position `i` moves on and still does not publish. What it performs is not one of the
writes of a publish node. -/
theorem Invariant.perform_idle {i : ℕ} {fault : Fault Unit} {o : Op}
    {next : o.Outcome → StoreTask Response} (h : Invariant env w)
    (hget : w.pool.tasks[i]? = some (.op o next)) (ho : o.publishes = false)
    (hby : w.PublishedBy env g) (hne : g ≠ some i)
    (hnext : Unread (next (w.pool.store.perform drafts fault o).1)) :
    Invariant env (publicationStep env requestId drafts w (.perform i fault)) := by
  have q : Quiet env w (publicationStep env requestId drafts w (.perform i fault)) :=
    quiet_perform fault hget ho
  have hpool := pool_perform env requestId drafts fault hget
  refine h.quiet q ?_ (hby.quiet q (fun j t ht hj => ?_) fun p hp t ht => ?_)
  · rw [hpool, List.length_set]
    exact h.length
  · rw [hpool] at ht
    obtain rfl | hij := eq_or_ne i j
    · have hlt : i < w.pool.tasks.length := (List.getElem?_eq_some_iff.mp hget).1
      obtain rfl := Option.some.inj ((List.getElem?_set_self hlt).symm.trans ht)
      exact hnext
    · exact hby.unread j t ((List.getElem?_set_ne hij).symm.trans ht) hj
  · rw [hpool]
    have hip : i ≠ p := by
      rintro rfl
      exact hne hp
    exact (List.getElem?_set_ne hip).trans ht

/-- The task at position `i` reads the decisions and goes on to publish. It may, since the report is
free: it is not final, has no log, and nobody else publishes. -/
theorem Invariant.perform_start {i : ℕ} {next : Op.getReviewDecisions.Outcome → StoreTask Response}
    (h : Invariant env w) (hget : w.pool.tasks[i]? = some (.op .getReviewDecisions next))
    (hby : w.PublishedBy env g) (hfree : w.Free env i)
    (hgoing : Going (NamesReviewer (latestApproval w.pool.store.decisions)) true
      (next (some w.pool.store.decisions))) :
    Invariant env (publicationStep env requestId drafts w (.perform i .none)) := by
  obtain ⟨hnotfinal, hnolog, hidle, hnewest⟩ := hfree
  have hlt : i < w.pool.tasks.length := (List.getElem?_eq_some_iff.mp hget).1
  have hpool : (publicationStep env requestId drafts w (.perform i .none)).pool =
      ⟨w.pool.store, w.pool.tasks.set i (next (some w.pool.store.decisions))⟩ :=
    pool_perform env requestId drafts .none hget
  have q : Quiet env w (publicationStep env requestId drafts w (.perform i .none)) :=
    quiet_perform .none hget rfl
  refine h.quiet q ?_ (⟨?_, ?_, ?_, ?_⟩ : PublishedBy env _ (some i))
  · rw [hpool, List.length_set]
    exact h.length
  · intro j t ht hne
    have hij : i ≠ j := fun heq => hne (congrArg some heq)
    rw [hpool] at ht
    have htj : w.pool.tasks[j]? = some t := (List.getElem?_set_ne hij).symm.trans ht
    -- whoever published before is done with it, as the place is free
    by_cases hg : g = some j
    · obtain ⟨u, may, hu, hgoing, -⟩ := hby.going j hg
      obtain rfl : u = t := Option.some.inj (hu.symm.trans htj)
      exact unread_of_going hgoing htj
        (hidle j (List.getElem?_eq_some_iff.mp htj).1 (Ne.symm hij))
    · exact hby.unread j t htj hg
  · rintro p ⟨⟩
    refine ⟨_, true, ?_, hgoing.mono fun log hl => ?_, fun _ => q.approvalLog.trans hnolog⟩
    · rw [hpool]
      exact List.getElem?_set_self hlt
    · exact hnewest.symm.trans hl
  · rintro p ⟨⟩ hs
    exact absurd (q.state hs) hnotfinal
  · rintro p log ⟨⟩ hl
    rw [q.approvalLog, hnolog] at hl
    cases hl

/-- A step that leaves `final/` alone keeps it write-once. -/
theorem Quiet.writeOnce (q : Quiet env w w') (h : Invariant env w') {op : Option (ℕ × Op)}
    (hop : ∀ i log, op ≠ some (i, .putApprovalLog log)) : WriteOnce env w w' op where
  kept name _ hc := (congrFun q.final name).trans hc
  once i log heq := absurd heq (hop i log)
  named := h.named

/-- A task that reads the decisions ends or goes on to publish. It ends where the read raises or
finds no approval. -/
theorem Invariant.perform_read {i : ℕ} {fault : Fault Unit}
    {next : Op.getReviewDecisions.Outcome → StoreTask Response} (h : Invariant env w)
    (hget : w.pool.tasks[i]? = some (.op .getReviewDecisions next))
    (hby : w.PublishedBy env g) (hne : g ≠ some i)
    (halone : StartsAlone env w (.perform i fault)) :
    Invariant env (publicationStep env requestId drafts w (.perform i fault)) := by
  obtain ⟨ho, hread, -⟩ := hby.unread i _ hget hne
  have hends : ∀ x, (next x).result?.isSome = true → Unread (next x) := by
    intro x hx
    cases ht : next x with
    | ret r => trivial
    | op o' next' => rw [ht] at hx; cases hx
  cases fault with
  | before _ => exact h.perform_idle hget ho hby hne (hends _ ((hread rfl none).2 rfl))
  | after _ => exact h.perform_idle hget ho hby hne (hends _ ((hread rfl none).2 rfl))
  | none =>
    cases hres : (next (some w.pool.store.decisions)).result? with
    | some r => exact h.perform_idle hget ho hby hne (hends _ (congrArg Option.isSome hres))
    | none =>
      have hstarts : w.startsPublishing i = true := by
        rw [startsPublishing, hget]
        exact congrArg Option.isNone hres
      exact h.perform_start hget hby (halone hstarts) (hread rfl (some _)).1

/-- A step of a task that has ended, or is not there, changes nothing. -/
theorem publicationStep_of_done (env : Env) (requestId : String) (drafts : String → B) {i : ℕ}
    (fault : Fault Unit) (hop : w.pool.nextOp i = none) :
    w.effectiveOp (.perform i fault) = none ∧
      publicationStep env requestId drafts w (.perform i fault) = w := by
  have heff : w.effectiveOp (.perform i fault) = none := by
    rw [effectiveOp, hop]
    split <;> rfl
  refine ⟨heff, ?_⟩
  have hpool : w.pool.step (fun o s => Archive.perform drafts fault o s) i = w.pool := by
    obtain h | ⟨o, next, hget, -⟩ :=
      w.pool.step_cases (fun o s => Archive.perform drafts fault o s) i
    · exact h
    · rw [Pool.nextOp, hget] at hop
      cases hop
  rw [publicationStep, heff, hpool]
  rfl

/-- Every step of a run that starts its publish nodes alone keeps the invariant and `final/`. A
crash leaves no task behind, and a step of a finished task does nothing. -/
theorem Invariant.step (requestId : String) (drafts : String → B) (h : Invariant env w)
    {a : PublicationStep} (halone : StartsAlone env w a) :
    Invariant env (publicationStep env requestId drafts w a) ∧
      WriteOnce env w (publicationStep env requestId drafts w a) (w.effectiveOp a) := by
  cases a with
  | arrive req => exact ⟨(h.arrive req).1, (h.arrive req).2.writeOnce (h.arrive req).1 nofun⟩
  | crash => exact ⟨h.crash.1, h.crash.2.writeOnce h.crash.1 nofun⟩
  | perform i fault =>
    cases hop : w.pool.nextOp i with
    | none =>
      obtain ⟨heff, hstep⟩ := publicationStep_of_done env requestId drafts fault hop
      rw [heff, hstep]
      exact ⟨h, fun _ _ hc => hc, nofun, h.named⟩
    | some o =>
      obtain ⟨next, hget⟩ := Pool.nextOp_eq_some hop
      have hwrites : ∀ j log, w.effectiveOp (.perform i fault) = some (j, .putApprovalLog log) →
          o = .putApprovalLog log := by
        intro j log heq
        obtain ⟨_, _, heq', -, hget'⟩ := effectiveOp_eq_some heq
        cases heq'
        cases hget.symm.trans hget'
        rfl
      obtain ⟨g, hby⟩ := h.publishedBy
      -- the publish node under way is the only one that may write under `final/`
      by_cases hg : g = some i
      · subst hg
        obtain ⟨hinv, hkept, hlog⟩ := h.perform_going requestId drafts fault hget hby
        refine ⟨hinv, hkept, fun j log heq => hlog ?_, hinv.named⟩
        rw [hwrites j log heq]
        rfl
      · have hunread := hby.unread i _ hget hg
        have hinv : Invariant env (publicationStep env requestId drafts w (.perform i fault)) := by
          -- reading the decisions is where a publish node starts
          by_cases ho : o = .getReviewDecisions
          · subst ho
            exact h.perform_read hget hby hg halone
          · exact h.perform_idle hget hunread.1 hby hg (hunread.2.2 ho _)
        refine ⟨hinv, (quiet_perform fault hget hunread.1).writeOnce hinv fun j log heq => ?_⟩
        have hnot : o.publishes = false := hunread.1
        rw [hwrites j log heq] at hnot
        cases hnot

end Publication

/-! ### Runs -/

/-- Whatever requests arrive and however they interleave, whichever operations raise before or after
they have taken effect, and whenever the process ends: `final/` stays write-once if every publish
node that goes on to publish starts alone. What a single publish node does from then on is kept
apart from all others by the invariant. -/
theorem writeOnce_of_startsAlone (env : Env) (requestId : String) (drafts : String → B)
    (s : SavedReport B) (run : List PublicationStep)
    (halone : Run.Along (publicationStep env requestId drafts) (Publication.StartsAlone env)
      s.start run) :
    Run.Along (publicationStep env requestId drafts) (fun w a => Publication.WriteOnce env w
      (publicationStep env requestId drafts w a) (w.effectiveOp a)) s.start run := by
  have hstart : Publication.Invariant env s.start := Publication.invariant_start s
  generalize s.start = w at halone hstart
  induction run generalizing w with
  | nil => trivial
  | cons a run ih =>
    obtain ⟨ha, hrun⟩ := halone
    obtain ⟨hinv, hwrite⟩ := hstart.step requestId drafts ha
    exact ⟨hwrite, ih _ hrun hinv⟩

/-- A saved report that passed the gate, each of its artifacts holding its own name. -/
def stagedFiles : SavedReport String where
  row := ⟨"requester", some "P1", .passed, .staging, true, []⟩
  staged := rfl
  job := none
  staging name := if name ∈ artifactNames then some name else none

/-- An approval by the finance reviewer `userId`, as the task `i`, whose last operation (to make
the report final) meets the given fault. -/
def approvalRun (userId : String) (i : ℕ) (last : Fault Unit) : List PublicationStep :=
  .arrive (.approve (some ⟨userId, some "finance"⟩) none) ::
    (List.replicate 11 (.perform i .none) ++ [.perform i last])

/-- One approval, without a fault. -/
theorem writeOnce_approvalRun :
    Run.Along (publicationStep bypassEnv "r1" id) (fun w a => Publication.WriteOnce bypassEnv w
      (publicationStep bypassEnv "r1" id w a) (w.effectiveOp a)) stagedFiles.start
      (approvalRun "reviewer" 0 .none) :=
  writeOnce_of_startsAlone bypassEnv "r1" id stagedFiles (approvalRun "reviewer" 0 .none)
    (by decide +kernel)

/-- The state update of an approval fails, so that a second reviewer can approve too, and the
log is written again. -/
theorem not_writeOnce_secondApproval :
    ¬ Run.Along (publicationStep bypassEnv "r1" id) (fun w a => Publication.WriteOnce bypassEnv w
      (publicationStep bypassEnv "r1" id w a) (w.effectiveOp a)) stagedFiles.start
      (approvalRun "first" 0 (.before ()) ++ approvalRun "second" 1 .none) := by
  intro h
  let before := approvalRun "first" 0 (.before ()) ++ (approvalRun "second" 1 .none).take 11
  let log : ApprovalLog := ⟨"second", "approve", none, [], artifactNames.map (finalKey "r1")⟩
  have hstep := Run.along_iff.mp h before (.perform 1 .none) [.perform 1 .none] rfl
  have habsent := hstep.once 1 log (by decide +kernel)
  revert habsent
  decide +kernel

end DecisionCenter.Review
