import DecisionCenter.Retrieval.OdooFailures
import DecisionCenter.Scan.Source

/-!
# Failures of Odoo in a scan

The scan of a source, with the workflow behind its count and its reads. An error of the count
fails the scan; an error of `search_read` is a page without rows, with which the loop takes the
source to be exhausted.

`Replies` has what the webhook replies to the count and to each page, and the clock; from it the
responses of the connector are computed, by the workflow of `Retrieval.OdooWorkflow`. So the
loop of `Scan.Source` runs on answers of Odoo, and one can ask what becomes of an error among
these.

Which pages a scan asks for depends on the answers. `BetweenPages` is the state of the loop in
front of a page: all the pages before were full and in time. The loop comes to a page from such
a state if it goes on, every page of a loop that finishes is one it came to, and behind a page
that is not full it finishes (`samplePages_short`). A scan that ends well has a count, and has
finished its sample where that is not zero.

`ScanSeesFailures` asks that no scan ends well with an error among the answers that it came to.
`scanSeesFailures_iff` is exact: it must not come to an error of `search_read`.
`failuresSeen_iff` puts the three readers of Odoo side by side, the connector, node 8 and the
scan.
-/

namespace DecisionCenter.Scan

open Py

section Failures

variable {F : Type} [Floats F] [Script F]

/-! ### The count -/

/-- The payload of `count_odoo`. -/
def countRequest (payload : Dict F) : Dict F := payload.set "operation" (.str "count")

/-- Odoo answers a request for a count with an error. -/
def CountErred (env : OdooEnv) (payload : Dict F) (reply : WebhookReply F) : Prop :=
  ∃ answers, reply = .answered answers ∧ ∃ request,
    checkRequest env (countRequest payload) = .ok request ∧
      (answers.authenticate.isError = true ∨
        (∃ uid, authenticate answers.authenticate = .ok uid) ∧ answers.searchCount.isError = true)

omit [Floats F] in
private theorem operationOf_countRequest (payload : Dict F) :
    operationOf (countRequest payload) = .ok .count := by
  rw [operationOf, countRequest, Dict.get?_set_self]
  change (if Script.toLowerCase F (Script.trim F "count") = "read" then _ else
    if Script.toLowerCase F (Script.trim F "count") = "count" then _ else _) = _
  rw [Script.toLowerCase_trim_count]
  rfl

/-- A count is returned as a number, and only where Odoo answers without an error. An answer with an
error has no result, which the connector does not take for a number. -/
theorem countOdoo_eq_ok {env : OdooEnv} {payload : Dict F} {answers : OdooAnswers F}
    {x : Option ℤ} (h : countOdoo env payload answers = .ok x) :
    (∃ total, x = some total) ∧ ¬ CountErred env payload (.answered answers) := by
  rw [countOdoo, odooResponse] at h
  cases hnode : odooQueryNode env (payload.set "operation" (.str "count")) answers with
  | error e =>
    rw [hnode] at h
    cases e <;> cases h
  | ok body =>
    rw [hnode] at h
    obtain ⟨request, hrequest, hnode⟩ := bind_eq_ok.mp hnode
    obtain ⟨uid, huid, hnode⟩ := bind_eq_ok.mp hnode
    have hcount : request.operation = .count := by
      have hop := operationOf_of_checkRequest hrequest
      rw [← countRequest, operationOf_countRequest] at hop
      exact (Except.ok.inj hop).symm
    rw [hcount] at hnode
    cases hanswer : answers.searchCount with
    | error e => rw [hanswer] at hnode; cases hnode
    | result v =>
      rw [hanswer] at hnode
      cases hnode
      cases h
      refine ⟨⟨_, rfl⟩, ?_⟩
      -- the login and the count have both answered with a result
      rintro ⟨_, ⟨⟩, -, -, hlogin | ⟨-, herror⟩⟩
      · cases hauth : answers.authenticate with
        | result _ => rw [hauth] at hlogin; cases hlogin
        | error _ => rw [hauth] at huid; cases huid
      · rw [hanswer] at herror
        cases herror

end Failures

/-! ### The pages the loop comes to -/

section Pages

variable (cfg : ScanConfig) (answers : Responses)

/-- The rows of the first `k` pages, where these are full. -/
def rowsBefore : ℕ → Option ℕ
  | 0 => some 0
  | k + 1 => match rowsBefore k, answers.read k with
    | some seen, .returned n => if cfg.pageSize ≤ n then some (seen + n) else none
    | _, _ => none

/-- The loop comes to page `k`, in time: the pages before it are full, and hold fewer rows than
it wants. -/
def ComesToPage (target : ℤ) (k : ℕ) : Prop :=
  k < cfg.maxPages ∧ (∀ j ≤ k, answers.late j = false) ∧
    ∃ seen, rowsBefore cfg answers k = some seen ∧ (seen : ℤ) < target

/-- Between two pages: those before were full and in time. -/
structure BetweenPages (budget : ℕ) (s : Sample) : Prop where
  budget : s.pages + budget = cfg.maxPages
  inTime : ∀ j < s.pages, answers.late j = false
  rows : rowsBefore cfg answers s.pages = some s.seen
  reads : s.reads.length = s.pages

variable {cfg answers} {query : OdooQuery} {target : ℤ}

private theorem rowsBefore_le {j k b : ℕ} (hjk : j ≤ k) (h : rowsBefore cfg answers k = some b) :
    ∃ a ≤ b, rowsBefore cfg answers j = some a := by
  induction k generalizing b with
  | zero => exact ⟨b, le_rfl, by rwa [Nat.le_zero.mp hjk]⟩
  | succ k ih =>
    obtain rfl | hlt := Nat.eq_or_lt_of_le hjk
    · exact ⟨b, le_rfl, h⟩
    rw [rowsBefore] at h
    split at h
    · next seen n hseen hread =>
      split_ifs at h
      cases h
      obtain ⟨a, ha, hrows⟩ := ih (Nat.le_of_lt_succ hlt) hseen
      exact ⟨a, ha.trans (Nat.le_add_right _ _), hrows⟩
    · cases h

/-- A scan begins between two pages. -/
theorem BetweenPages.start (offset : ℕ) :
    BetweenPages cfg answers cfg.maxPages { offset := offset } :=
  ⟨Nat.zero_add _, nofun, rfl, rfl⟩

/-- A full page in time is followed by the next. The budget falls by one with each page. -/
theorem BetweenPages.next {budget n : ℕ} {s : Sample}
    (h : BetweenPages cfg answers (budget + 1) s) (hlate : answers.late s.pages = false)
    (hread : answers.read s.pages = .returned n) (hfull : cfg.pageSize ≤ n) :
    BetweenPages cfg answers budget (s.next cfg query n) where
  budget := by
    have hbudget := h.budget
    change s.pages + 1 + budget = cfg.maxPages
    omega
  inTime j hj := by
    obtain hlt | rfl := Nat.lt_succ_iff_lt_or_eq.mp hj
    · exact h.inTime j hlt
    · exact hlate
  rows := by
    change rowsBefore cfg answers (s.pages + 1) = some (s.seen + n)
    rw [rowsBefore, h.rows, hread]
    exact if_pos hfull
  reads := by
    change (s.reads ++ _).length = s.pages + 1
    rw [List.length_append, h.reads]
    rfl

/-- The loop comes to the page between two pages, if it goes on. -/
theorem BetweenPages.comes {budget : ℕ} {s : Sample} (h : BetweenPages cfg answers (budget + 1) s)
    (hseen : (s.seen : ℤ) < target) (hlate : answers.late s.pages = false) :
    ComesToPage cfg answers target s.pages := by
  have hbudget := h.budget
  refine ⟨by omega, fun j hj => ?_, s.seen, h.rows, hseen⟩
  obtain hlt | rfl := Nat.lt_or_eq_of_le hj
  · exact h.inTime j hlt
  · exact hlate

/-- Every page of a loop that finishes is one it came to. Before the first page nothing has been
read, and between two pages `BetweenPages` holds. -/
theorem comesToPage_of_finished {budget : ℕ} {s s' : Sample} (h : BetweenPages cfg answers budget s)
    (hend : samplePages cfg query answers target budget s = .finished s') :
    s'.reads.length = s'.pages ∧ ∀ k, s.pages ≤ k → k < s'.pages →
      ComesToPage cfg answers target k ∧ ∃ n, answers.read k = .returned n := by
  have hnone {s : Sample} {P : ℕ → Prop} : ∀ k, s.pages ≤ k → k < s.pages → P k :=
    fun k hle hlt => absurd hle (Nat.not_le_of_lt hlt)
  -- on the pages still allowed; between two pages `BetweenPages` holds
  induction budget generalizing s with
  | zero =>
    cases hend
    exact ⟨h.reads, hnone⟩
  | succ budget ih =>
    rw [samplePages] at hend
    split at hend
    case isFalse =>
      cases hend
      exact ⟨h.reads, hnone⟩
    next hseen =>
    split at hend
    case isTrue => cases hend
    next hlate =>
    have hlate : answers.late s.pages = false := by simpa using hlate
    have hcomes := h.comes hseen hlate
    split at hend
    · rw [Sample.broken] at hend
      split at hend <;> cases hend
    · rw [Sample.broken] at hend
      split at hend <;> cases hend
    -- a short page is the last one; behind a full one the loop goes on
    · next n hread =>
      split at hend
      · cases hend
        refine ⟨?_, fun k hle hlt => ?_⟩
        · change (s.reads ++ _).length = s.pages + 1
          rw [List.length_append, h.reads]
          rfl
        · have hk : k = s.pages := Nat.le_antisymm (Nat.le_of_lt_succ hlt) hle
          exact hk ▸ ⟨hcomes, n, hread⟩
      · next hfull =>
        obtain ⟨hreads, hpages⟩ := ih (h.next hlate hread (Nat.le_of_not_lt hfull)) hend
        refine ⟨hreads, fun k hle hlt => ?_⟩
        obtain rfl | hnext := Nat.eq_or_lt_of_le hle
        · exact ⟨hcomes, n, hread⟩
        · exact hpages k hnext hlt

variable (query) in
/-- The loop finishes behind a page it comes to that is not full. The pages before it are full, so
that the loop goes on to it. -/
theorem samplePages_short {budget k n : ℕ} {s : Sample} (h : BetweenPages cfg answers budget s)
    (hle : s.pages ≤ k) (hcomes : ComesToPage cfg answers target k)
    (hread : answers.read k = .returned n) (hshort : n < cfg.pageSize) :
    ∃ s', samplePages cfg query answers target budget s = .finished s' ∧
      s'.reads.length = k + 1 := by
  obtain ⟨hpages, hlate, rows, hrows, htarget⟩ := hcomes
  induction budget generalizing s with
  | zero =>
    have hbudget := h.budget
    omega
  | succ budget ih =>
    obtain ⟨seen, hseen, hbefore⟩ := rowsBefore_le hle hrows
    cases h.rows.symm.trans hbefore
    have hin := hlate s.pages hle
    rw [samplePages, if_pos (by omega), hin]
    obtain rfl | hlt := Nat.eq_or_lt_of_le hle
    · refine ⟨s.next cfg query n, by simp [hread, hshort], ?_⟩
      change (s.reads ++ _).length = s.pages + 1
      rw [List.length_append, h.reads]
      rfl
    · obtain ⟨_, -, hnext⟩ := rowsBefore_le hlt hrows
      rw [rowsBefore] at hnext
      split at hnext
      · next m _ hm =>
        split_ifs at hnext with hfull
        obtain ⟨s', hend, hlen⟩ := ih (h.next hin hm hfull) hlt
        exact ⟨s', by simpa [hm, Nat.not_lt_of_le hfull] using hend, hlen⟩
      · cases hnext

/-- A scan that ends well has a count, and has finished its sample where that is not zero. Without a
total one page is read, which may be any. -/
theorem scanMapped_terminalOk {st : SourceScanState} {prior : Option SourceScanState}
    (h : (scanMapped cfg query answers st prior).1.status ∈ terminalOk) :
    answers.count = .returned none ∨ ∃ total, answers.count = .returned (some total) ∧
      ((scanMapped cfg query answers st prior).2 = [] ∨ total ≠ 0 ∧ ∃ s,
        samplePages cfg query answers (min total cfg.sampleTarget) cfg.maxPages
          { offset := resumeOffset prior } = .finished s ∧
        (scanMapped cfg query answers st prior).2 = s.reads) := by
  rw [scanMapped] at h ⊢
  split at h
  · simp [SourceScanState.fail, terminalOk] at h
  · simp [SourceScanState.fail, terminalOk] at h
  · next hcount => exact .inl hcount
  · next total hcount =>
    refine .inr ⟨total, hcount, ?_⟩
    split at h
    · next htotal =>
      left
      simp [htotal]
    · next htotal =>
      right
      refine ⟨htotal, ?_⟩
      rw [scanPaged] at h
      split at h
      · next s hend => exact ⟨s, hend, by simp [htotal, scanPaged, hend, sampled]⟩
      · simp [sampled, terminalOk] at h
      · next hfailed =>
        obtain ⟨-, -, -, -, hstatus⟩ := samplePages_eq_failed hfailed
        rcases hstatus with rfl | rfl <;> simp [SourceScanState.fail, terminalOk] at h

end Pages

/-! ### The scan -/

section Scan

variable {F : Type} [Floats F] [Script F] [Exceptions]

/-- What the webhook replies during one scan, and what the clock says. -/
structure Replies (F : Type) where
  count : WebhookReply F
  late : ℕ → Bool
  read : ℕ → WebhookReply F

/-- `_count_payload` -/
def countPayload (query : OdooQuery) : Dict F :=
  ({ query with fields := ["id"], limit := some 1 } : OdooQuery).payload.set "offset" (.int 0)

/-- The payload of a page. -/
def ReadPayload.toDict (r : ReadPayload) : Dict F := r.query.payload.set "offset" (.int r.offset)

/-- The payload of the page that the loop comes to after `k` others. -/
def pagePayload (cfg : ScanConfig) (query : OdooQuery) (prior : Option SourceScanState) (k : ℕ) :
    Dict F :=
  (readPayload query cfg.pageSize (resumeOffset prior + k * cfg.pageSize)).toDict

/-- `f"{type(exc).__name__}: {exc}"` -/
def described (e : ConnectorError) : String := e.className ++ ": " ++ Exceptions.text e

/-- How a call of the connector ends, where the webhook so replies. -/
def answerTo {α : Type} (call : OdooAnswers F → Except ConnectorError α) :
    WebhookReply F → Answer α
  | .answered answers => match call answers with
    | .ok x => .returned x
    | .error e => .raised (described e)
  | .timeout => .timeout
  | .unreachable className text => .raised (described (.unreachable className text))

/-- What the scan sees of the replies. -/
def Replies.responses (env : OdooEnv) (cfg : ScanConfig) (query : OdooQuery)
    (prior : Option SourceScanState) (replies : Replies F) : Responses where
  count := answerTo (countOdoo env (countPayload query)) replies.count
  late := replies.late
  read k := answerTo (fun answers =>
    (readOdoo env (pagePayload cfg query prior k) answers).map List.length) (replies.read k)

omit [Floats F] [Script F] in
private theorem answerTo_eq_returned {α : Type} {call : OdooAnswers F → Except ConnectorError α}
    {reply : WebhookReply F} {x : α} :
    answerTo call reply = .returned x ↔
      ∃ answers, reply = .answered answers ∧ call answers = .ok x := by
  cases reply with
  | answered answers =>
    rw [answerTo]
    cases hcall : call answers <;> simp [hcall]
  | timeout => simp [answerTo]
  | unreachable className text => simp [answerTo]

variable {env : OdooEnv} {cfg : ScanConfig} {query : OdooQuery} {prior : Option SourceScanState}
  {replies : Replies F}

omit [Floats F] [Exceptions] in
private theorem get?_pagePayload (k : ℕ) (key : String) (hkey : key ≠ "offset") :
    (pagePayload (F := F) cfg query prior k).get? key =
      (OdooQuery.payload (F := F) { query with limit := some cfg.pageSize }).get? key :=
  Dict.get?_set_ne _ _ (Ne.symm hkey)

omit [Floats F] [Exceptions] in
/-- A page is a read. -/
theorem operationOf_pagePayload (k : ℕ) :
    operationOf (pagePayload (F := F) cfg query prior k) = .ok .read := by
  rw [operationOf, get?_pagePayload k "operation" (by decide)]
  rfl

omit [Exceptions] in
/-- The workflow reads pages of at least one row. -/
theorem pageSize_pos {k : ℕ} {login : RpcAnswer F (Value F)}
    (h : ComesToRead env (pagePayload cfg query prior k) login) : 0 < cfg.pageSize := by
  obtain ⟨request, uid, -, -, -, hwindow⟩ := h
  obtain ⟨fields, -, hwindow⟩ := bind_eq_ok.mp hwindow
  rw [get?_pagePayload k "limit" (by decide)] at hwindow
  by_contra hzero
  have hlimit : jsCoalesce (Dict.get? (OdooQuery.payload (F := F)
      { query with limit := some cfg.pageSize }) "limit") (.int 100) = .int 0 := by
    rw [Nat.eq_zero_of_not_pos hzero]
    rfl
  rw [hlimit, Script.integer_zero] at hwindow
  cases hwindow

/-- The reply to the read of a page that returned. -/
theorem read_eq_returned {k n : ℕ}
    (h : (replies.responses env cfg query prior).read k = .returned n) :
    ∃ answers items, replies.read k = .answered answers ∧
      readOdoo env (pagePayload cfg query prior k) answers = .ok items := by
  obtain ⟨answers, hreply, hcall⟩ := answerTo_eq_returned.mp h
  cases hread : readOdoo env (pagePayload cfg query prior k) answers with
  | ok items => exact ⟨answers, items, hreply, hread⟩
  | error e => rw [hread] at hcall; cases hcall

variable (env cfg prior replies) (source : OdooSource) (odooConfig : OdooConfig)
  (projectCode : String) (allowedOdooIds : List String) [Text]

/-- A scan ends with its source completed or empty only if Odoo answered none of its calls with an
error. -/
def ScanSeesFailures : Prop :=
  ∀ query, buildSourceQuery source odooConfig projectCode allowedOdooIds = .ok (some query) →
    ∀ out, scanOneSource cfg odooConfig projectCode allowedOdooIds source
        (replies.responses env cfg query prior) prior = .ok out →
      out.1.status ∈ terminalOk →
        ¬ CountErred env (countPayload query) replies.count ∧
          ∀ k < out.2.length, ¬ Erred env (pagePayload cfg query prior k) (replies.read k)

/-- The scan comes to a page on which Odoo answers the `search_read` with an error. -/
def ComesToSwallowed : Prop :=
  ∃ query, buildSourceQuery source odooConfig projectCode allowedOdooIds = .ok (some query) ∧
    ∃ total k answers, total ≠ 0 ∧
      (replies.responses env cfg query prior).count = .returned (some total) ∧
      ComesToPage cfg (replies.responses env cfg query prior) (min total cfg.sampleTarget) k ∧
      replies.read k = .answered answers ∧ Swallowed env (pagePayload cfg query prior k) answers

/-- The scan of a source sees all failures just if it does not come to an error of
`search_read`. -/
theorem scanSeesFailures_iff :
    ScanSeesFailures env cfg prior replies source odooConfig projectCode allowedOdooIds ↔
      ¬ ComesToSwallowed env cfg prior replies source odooConfig projectCode allowedOdooIds := by
  constructor
  -- an error that `search_read` swallows reads as an empty page, which ends the sampling
  -- as finished although the reply was an error
  · rintro h ⟨query, hbuild, total, k, answers, htotal, hcount, hcomes, hreply, hswallowed⟩
    have hop : operationOf (pagePayload (F := F) cfg query prior k) ≠ .ok .count := by
      rw [operationOf_pagePayload]
      rintro ⟨⟩
    have hread : (replies.responses env cfg query prior).read k = .returned 0 := by
      refine answerTo_eq_returned.mpr ⟨answers, hreply, ?_⟩
      rw [hswallowed.readOdoo hop]
      rfl
    obtain ⟨s, hend, hlen⟩ := samplePages_short query (BetweenPages.start (resumeOffset prior))
      (Nat.zero_le k) hcomes hread (pageSize_pos hswallowed.1)
    have hout : scanOneSource cfg odooConfig projectCode allowedOdooIds source
        (replies.responses env cfg query prior) prior = .ok (sampled
          { SourceScanState.begin source.key with total := some total, count := some total } prior s
          false) := by
      have hmapped : scanMapped cfg query (replies.responses env cfg query prior)
          (.begin source.key) prior = sampled { SourceScanState.begin source.key with
            total := some total, count := some total } prior s false := by
        rw [scanMapped, hcount]
        dsimp only
        rw [if_neg htotal, scanPaged, hend]
      rw [scanOneSource, hbuild, ← hmapped]
      rfl
    refine (h query hbuild _ hout (by simp [sampled, terminalOk])).2 k ?_
      ⟨answers, hreply, .inr hswallowed⟩
    change k < s.reads.length
    rw [hlen]
    exact Nat.lt_succ_self k
  -- an error among the reads of a scan that ends well is one that `search_read` swallows
  · intro h query hbuild out hout hstatus
    rw [scanOneSource, hbuild] at hout
    cases hout
    obtain hnone | ⟨total, hcount, hrest⟩ := scanMapped_terminalOk hstatus
    · obtain ⟨answers, -, hcall⟩ := answerTo_eq_returned.mp hnone
      obtain ⟨⟨total, htotal⟩, -⟩ := countOdoo_eq_ok hcall
      cases htotal
    obtain ⟨answers, hreply, hcall⟩ := answerTo_eq_returned.mp hcount
    refine ⟨hreply ▸ (countOdoo_eq_ok hcall).2, fun k hk => ?_⟩
    rintro ⟨answers', hreply', herred⟩
    obtain hempty | ⟨htotal, s, hend, hreads⟩ := hrest
    · rw [hempty] at hk
      exact absurd hk (Nat.not_lt_zero k)
    obtain ⟨hlen, hpages⟩ := comesToPage_of_finished (BetweenPages.start (resumeOffset prior)) hend
    rw [hreads, hlen] at hk
    obtain ⟨hcomes, n, hread⟩ := hpages k (Nat.zero_le k) hk
    obtain ⟨given, items, hgiven, hreturned⟩ := read_eq_returned hread
    cases hreply'.symm.trans hgiven
    have hswallowed : Swallowed env (pagePayload cfg query prior k) answers' := by
      refine herred.resolve_left fun hlogin => ?_
      have hop : operationOf (pagePayload (F := F) cfg query prior k) ≠ .ok .count := by
        rw [operationOf_pagePayload]
        rintro ⟨⟩
      obtain ⟨⟨_, uid, -, -, huid, -⟩, -⟩ := (readOdoo_read hop).mp hreturned
      cases hauth : answers'.authenticate with
      | result _ => rw [hauth] at hlogin; cases hlogin.2
      | error _ => rw [hauth] at huid; cases huid
    exact h ⟨query, hbuild, total, k, answers', htotal, hcount, hcomes, hreply', hswallowed⟩

/-- An error of Odoo is seen by the connector, by node 8 and by the scan just under these
conditions: `search_read` is not answered with it; it is not left beside a project record that was
read, with no item delivered; and the scan does not come to such an answer of `search_read`. -/
theorem failuresSeen_iff (env : OdooEnv) :
    (∀ (payload : Dict F) (answers : OdooAnswers F),
      ItemPerRecord env payload answers ↔ ¬ Swallowed env payload answers) ∧
    (∀ (S : Type) (world : OdooWorld F S) (settings : RetrievalSettings) (m : ProjectEntry)
      (perms : RolePermissions) (code : String) (state : DecisionState F) (s : S),
      NodeSeesFailures env world settings m perms code state s ↔
        (world.ProjectReturned env m code state
            (world.nodeReads env settings m perms code state s) →
          world.Barren env (world.nodeReads env settings m perms code state s) →
            ∀ r, Settled (world.nodeReads env settings m perms code state s) r →
              ¬ Erred env r.1.payload (world.reply r.1 r.2))) ∧
    (∀ (cfg : ScanConfig) (prior : Option SourceScanState) (replies : Replies F)
      (source : OdooSource) (odooConfig : OdooConfig) (code : String) (ids : List String),
      ScanSeesFailures env cfg prior replies source odooConfig code ids ↔
        ¬ ComesToSwallowed env cfg prior replies source odooConfig code ids) :=
  ⟨fun _ _ => itemPerRecord_iff, fun _ world => nodeSeesFailures_iff env world,
    fun cfg prior replies source odooConfig code ids =>
      scanSeesFailures_iff env cfg prior replies source odooConfig code ids⟩

end Scan

section Whole

open Py.Whole

/-- The script engine on the texts of one request. -/
local instance costScript : Script ℤ where
  trim := strip
  toLowerCase := lower
  parse s :=
    if s = "[[\"account_id\", \"=\", 3]]" then
      some (.list [.list [.str "account_id", .str "=", .int 3]])
    else if s = "[\"name\", \"amount\", \"date\"]" then
      some (.list [.str "name", .str "amount", .str "date"])
    else none
  stringify := reprValue
  repr := reprValue
  integer v := match v with
    | .int i => some i
    | .float i => some i
    | _ => none
  dumps := reprValue
  toLowerCase_trim_count := by decide
  integer_zero := rfl

/-- The credentials of the workflow. -/
def liveEnv : OdooEnv := ⟨"https://odoo", "live", "reader", "key"⟩

/-- The request of node 8 for the cost lines of an account. -/
def costRequest : Dict ℤ :=
  [("project_code", .str "P1"), ("model", .str "account.analytic.line"),
    ("domain", .str "[[\"account_id\", \"=\", 3]]"),
    ("fields", .str "[\"name\", \"amount\", \"date\"]"), ("limit", .int 100),
    ("allowed_odoo_ids", .list [.str "7"])]

/-- Odoo lets the workflow in and refuses the `search_read`. -/
def refusedRead : OdooAnswers ℤ where
  authenticate := .result (.int 2)
  searchRead := .error [("code", .int 200), ("message", .str "Odoo Server Error")]
  searchCount := .result (.int 12)

/-- The cost lines that Odoo refuses arrive as none. -/
theorem not_itemPerRecord_refused :
    ¬ ∀ (env : OdooEnv) (payload : Dict ℤ) (answers : OdooAnswers ℤ),
      ItemPerRecord env payload answers := by
  intro h
  exact itemPerRecord_iff.mp (h liveEnv costRequest refusedRead)
    ⟨⟨_, .int 2, rfl, rfl, rfl, rfl⟩, rfl⟩

end Whole

end DecisionCenter.Scan
