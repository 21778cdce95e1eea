import Mathlib.Tactic.Common
import DecisionCenter.Retrieval.OdooSources

/-!
# Scanning one Odoo source

`scan_one_source` of `apps/edr/admin/odoo_scan_session.py`: a count, then a bounded sample that
is read page by page from where the last scan stopped, or one page where the workflow cannot
count.

What the connector does during one scan is a `Responses`: the answer to the count, and for every
read of the sample its answer and whether the time of the source was up before it. Time stamps
and durations are left out.

The loop over the pages is a recursion on the page budget, with the variables of the source in
`Sample`. It has finished when the sample is complete, a page was not full or the budget is
spent; it is interrupted when the time is up, or a read fails behind the first page, and it
fails with its first read (`SampleEnd`). The record is then written from the variables and the
way the loop ended, with the texts of the source.

Of the loop there is one rule, `holds_samplePages`: what every page preserves holds when it
ends, with what is known of the ending. The properties on progress, on what was read and on
failures are instances of it. The scan raises just where the query of the source cannot be built
(`scanOneSource_raises_iff`), for a path that is denied or digits that are no number, and it
never ends pending or running.
-/

namespace DecisionCenter.Scan

open Py

/-! ### Records -/

/-- The statuses of a source. -/
inductive Status where
  | pending
  | running
  | completed
  | partly
  | capped
  | empty
  | failed
  | timeout
  | unmapped
  deriving DecidableEq, Repr

def Status.toStr : Status → String
  | .pending => "pending"
  | .running => "running"
  | .completed => "completed"
  | .partly => "partial"
  | .capped => "capped"
  | .empty => "empty"
  | .failed => "failed"
  | .timeout => "timeout"
  | .unmapped => "unmapped"

/-- `TERMINAL_OK` -/
def terminalOk : List Status := [.completed, .empty]

/-- `RETRYABLE` -/
def retryable : List Status := [.failed, .timeout]

/-- `INCOMPLETE` -/
def incomplete : List Status := [.failed, .timeout, .partly, .capped, .pending, .running]

/-- The source waits for a scan, or is in one. -/
def Status.Open (s : Status) : Prop := s = .pending ∨ s = .running

instance (s : Status) : Decidable s.Open := inferInstanceAs (Decidable (_ ∨ _))

/-- `SourceScanState` -/
structure SourceScanState where
  key : String
  status : Status := .pending
  count : Option ℤ := none
  total : Option ℤ := none
  capped : Bool := false
  complete : Bool := false
  error : Option String := none
  pagesDone : ℕ := 0
  nextOffset : ℕ := 0
  deriving DecidableEq, Repr

/-- `ScanConfig`; of the time limits, the text of the one that is reported. -/
structure ScanConfig where
  pageSize : ℕ := 100
  sampleTarget : ℕ := 300
  maxPages : ℕ := 50
  /-- `f"{batch_timeout_s:g}"` -/
  batchTimeout : String := "20"
  deriving DecidableEq, Repr

/-! ### Responses -/

/-- How an awaited call ends. -/
inductive Answer (α : Type) where
  | timeout
  /-- `f"{type(exc).__name__}: {exc}"` -/
  | raised (error : String)
  | returned (x : α)
  deriving DecidableEq, Repr

/-- The behaviour of the connector, and of the clock, during one scan of a source. -/
structure Responses where
  count : Answer (Option ℤ)
  /-- The time of the source is up when the loop comes to its `k`-th read. -/
  late : ℕ → Bool
  /-- The length of the batch that the `k`-th read returns. -/
  read : ℕ → Answer ℕ

/-- The payload of a `search_read` that was answered: the records from `offset` on, as many as the
limit of the query. -/
structure ReadPayload where
  query : OdooQuery
  offset : ℕ
  deriving DecidableEq, Repr

/-- `_read_payload` -/
def readPayload (query : OdooQuery) (limit offset : ℕ) : ReadPayload :=
  ⟨{ query with limit := some limit }, offset⟩

/-- The record at position `i` is one of those the read returned. -/
def ReadPayload.Covers (r : ReadPayload) (i : ℕ) : Prop :=
  r.offset ≤ i ∧ ∃ limit, r.query.limit = some limit ∧ i < r.offset + limit

/-! ### The query of a source -/

section Query

variable [Text]

variable {source : OdooSource} {odooConfig : OdooConfig}

end Query

/-! ### The scan -/

/-- `SourceScanState(key=source.key)`, running. -/
def SourceScanState.begin (key : String) : SourceScanState := { key := key, status := .running }

/-- The text of a timeout of a call. -/
def ScanConfig.timedOut (cfg : ScanConfig) (call : String) : String :=
  call ++ " timed out after " ++ cfg.batchTimeout ++ "s"

/-- A scan that ends with an error of a call. -/
def SourceScanState.fail (st : SourceScanState) (status : Status) (error : String) :
    SourceScanState := { st with status := status, error := some error }

/-- What a scan makes of a source, with the reads that were answered. -/
abbrev Scanned : Type := SourceScanState × List ReadPayload

section Scan

variable (cfg : ScanConfig) (query : OdooQuery) (answers : Responses)

/-- Without a count: one page, and no paging. -/
def scanLegacy (st : SourceScanState) : Scanned :=
  match answers.read 0 with
  | .timeout => (st.fail .timeout (cfg.timedOut "search_read"), [])
  | .raised e => (st.fail .failed ("search_read: " ++ e), [])
  | .returned n =>
    let st := { st with pagesDone := 1, nextOffset := cfg.pageSize, count := some (n : ℤ) }
    let reads := [readPayload query cfg.pageSize 0]
    if n = 0 then ({ st with complete := true, status := .empty }, reads)
    -- A full page: the exact total is unknown.
    else if cfg.pageSize ≤ n then ({ st with capped := true, status := .capped }, reads)
    else ({ st with complete := true, status := .completed }, reads)

/-- The variables of the loop. -/
structure Sample where
  seen : ℕ := 0
  offset : ℕ
  pages : ℕ := 0
  reads : List ReadPayload := []
  deriving DecidableEq, Repr

/-- How the loop ends. -/
inductive SampleEnd where
  | finished (s : Sample)
  | interrupted (s : Sample)
  /-- The first read failed. -/
  | failed (status : Status) (error : String)
  deriving DecidableEq, Repr

/-- One more page has been read. -/
def Sample.next (s : Sample) (n : ℕ) : Sample where
  seen := s.seen + n
  offset := s.offset + cfg.pageSize
  pages := s.pages + 1
  reads := s.reads ++ [readPayload query cfg.pageSize s.offset]

/-- A read has failed: after the first page, what was read before is kept. -/
def Sample.broken (s : Sample) (status : Status) (error : String) : SampleEnd :=
  if s.pages = 0 then .failed status error else .interrupted s

/-- The loop, for as many more pages as the budget allows. -/
def samplePages (target : ℤ) : ℕ → Sample → SampleEnd
  | 0, s => .finished s
  | budget + 1, s =>
    if (s.seen : ℤ) < target then
      if answers.late s.pages then .interrupted s
      else match answers.read s.pages with
        | .timeout => s.broken .timeout (cfg.timedOut "search_read")
        | .raised e => s.broken .failed ("search_read: " ++ e)
        | .returned n =>
          if n < cfg.pageSize then .finished (s.next cfg query n)
          else samplePages target budget (s.next cfg query n)
    else .finished s

/-- `prior.next_offset if (prior and prior.next_offset) else 0` -/
def resumeOffset (prior : Option SourceScanState) : ℕ := (prior.map (·.nextOffset)).getD 0

/-- `prior.pages_done if prior else 0` -/
def resumePages (prior : Option SourceScanState) : ℕ := (prior.map (·.pagesDone)).getD 0

/-- What the scan records of the sample. -/
def sampled (st : SourceScanState) (prior : Option SourceScanState) (s : Sample)
    (interrupted : Bool) : Scanned :=
  ({ st with
      pagesDone := resumePages prior + s.pages
      nextOffset := s.offset
      complete := !interrupted
      status := if interrupted then .partly else .completed }, s.reads)

/-- With a count: a sample from where the prior scan stopped. -/
def scanPaged (total : ℤ) (st : SourceScanState) (prior : Option SourceScanState) : Scanned :=
  let st := { st with total := some total, count := some total }
  match samplePages cfg query answers (min total cfg.sampleTarget) cfg.maxPages
      { offset := resumeOffset prior } with
  | .finished s => sampled st prior s false
  | .interrupted s => sampled st prior s true
  | .failed status e => (st.fail status e, [])

/-- The scan of a source that can be queried. -/
def scanMapped (st : SourceScanState) (prior : Option SourceScanState) : Scanned :=
  match answers.count with
  | .timeout => (st.fail .timeout (cfg.timedOut "search_count"), [])
  | .raised e => (st.fail .failed ("search_count: " ++ e), [])
  | .returned none => scanLegacy cfg query answers st
  | .returned (some total) =>
    if total = 0 then
      ({ st with total := some 0, count := some 0, complete := true, status := .empty }, [])
    else scanPaged cfg query answers total st prior

end Scan

/-! ### How a scan ends -/

section Ends

variable {cfg : ScanConfig} {query : OdooQuery} {answers : Responses}

/-- `P` holds of what was read, where the loop did not fail with its first read. -/
def SampleEnd.Holds (P : Sample → Prop) : SampleEnd → Prop
  | .finished s => P s
  | .interrupted s => P s
  | .failed _ _ => True

private theorem Sample.holds_broken {P : Sample → Prop} {s : Sample} (hs : P s) (status : Status)
    (error : String) : (s.broken status error).Holds P := by
  rw [Sample.broken]
  split
  · trivial
  · exact hs

/-- What every page preserves holds when the loop ends. -/
theorem holds_samplePages {P : Sample → Prop} (hnext : ∀ s n, P s → P (s.next cfg query n))
    (target : ℤ) (budget : ℕ) {s : Sample} (hs : P s) :
    (samplePages cfg query answers target budget s).Holds P := by
  induction budget generalizing s with
  | zero => exact hs
  | succ budget ih =>
    rw [samplePages]
    split
    case isFalse => exact hs
    split
    case isTrue => exact hs
    split
    · exact Sample.holds_broken hs _ _
    · exact Sample.holds_broken hs _ _
    · split
      · exact hnext s _ hs
      · exact ih (hnext s _ hs)

private theorem Sample.broken_eq_failed {s : Sample} {status status' : Status}
    {error error' : String} (h : s.broken status error = .failed status' error') :
    s.pages = 0 ∧ status = status' ∧ error = error' := by
  rw [Sample.broken] at h
  split at h
  · next h0 =>
    injection h with hstatus herror
    exact ⟨h0, hstatus, herror⟩
  · cases h

/-- The loop fails when, before the first page, a read is called for, in time, and not answered.
Behind the first page it finishes with what it has. -/
theorem samplePages_eq_failed {target : ℤ} {budget : ℕ} {s : Sample} {status : Status}
    {error : String} (h : samplePages cfg query answers target budget s = .failed status error) :
    s.pages = 0 ∧ (s.seen : ℤ) < target ∧ answers.late 0 = false ∧
      (∀ n, answers.read 0 ≠ .returned n) ∧ (status = .timeout ∨ status = .failed) := by
  induction budget generalizing s with
  | zero => cases h
  | succ budget ih =>
    rw [samplePages] at h
    split at h
    case isFalse => cases h
    next hseen =>
    split at h
    case isTrue => cases h
    next hlate =>
    split at h
    · next hread =>
      obtain ⟨h0, hstatus, -⟩ := Sample.broken_eq_failed h
      rw [h0] at hlate hread
      exact ⟨h0, hseen, by simpa using hlate, by simp [hread], .inl hstatus.symm⟩
    · next e hread =>
      obtain ⟨h0, hstatus, -⟩ := Sample.broken_eq_failed h
      rw [h0] at hlate hread
      exact ⟨h0, hseen, by simpa using hlate, by simp [hread], .inr hstatus.symm⟩
    · next n hread =>
      split at h
      · cases h
      -- After a page the loop does not fail any more.
      · exact absurd (ih h).1 (Nat.succ_ne_zero s.pages)

private theorem not_open_scanLegacy (st : SourceScanState) :
    ¬ (scanLegacy cfg query answers st).1.status.Open := by
  rw [scanLegacy]
  split
  · simp [SourceScanState.fail, Status.Open]
  · simp [SourceScanState.fail, Status.Open]
  · split
    · simp [Status.Open]
    split <;> simp [Status.Open]

private theorem not_open_scanPaged (total : ℤ) (st : SourceScanState)
    (prior : Option SourceScanState) :
    ¬ (scanPaged cfg query answers total st prior).1.status.Open := by
  rw [scanPaged]
  split
  · simp [sampled, Status.Open]
  · simp [sampled, Status.Open]
  · next hfailed =>
    obtain ⟨-, -, -, -, hstatus⟩ := samplePages_eq_failed hfailed
    rcases hstatus with rfl | rfl <;> simp [SourceScanState.fail, Status.Open]

/-- No scan ends pending or running. -/
theorem not_open_scanMapped (st : SourceScanState) (prior : Option SourceScanState) :
    ¬ (scanMapped cfg query answers st prior).1.status.Open := by
  rw [scanMapped]
  split
  · simp [SourceScanState.fail, Status.Open]
  · simp [SourceScanState.fail, Status.Open]
  · exact not_open_scanLegacy st
  · split
    · simp [Status.Open]
    · exact not_open_scanPaged _ st prior

private theorem key_scanMapped (st : SourceScanState) (prior : Option SourceScanState) :
    (scanMapped cfg query answers st prior).1.key = st.key := by
  rw [scanMapped]
  split
  · rfl
  · rfl
  · rw [scanLegacy]
    split
    · rfl
    · rfl
    · split
      · rfl
      split <;> rfl
  · split
    · rfl
    · rw [scanPaged]
      split <;> rfl

end Ends

section ScanOne

variable [Text] (cfg : ScanConfig) (odooConfig : OdooConfig) (projectCode : String)
  (allowedOdooIds : List String)

/-- `scan_one_source` -/
def scanOneSource (source : OdooSource) (answers : Responses) (prior : Option SourceScanState) :
    Except Raised Scanned :=
  (buildSourceQuery source odooConfig projectCode allowedOdooIds).map fun query? =>
    match query? with
    | none => ({ SourceScanState.begin source.key with status := .unmapped }, [])
    | some query => scanMapped cfg query answers (.begin source.key) prior

variable {cfg odooConfig projectCode allowedOdooIds} {source : OdooSource} {answers : Responses}
  {prior : Option SourceScanState}

/-- A scan that returns is one of an unmapped source, or of one that can be queried. It raises where
the query cannot be built. -/
theorem scanOneSource_eq_ok {out : Scanned}
    (h : scanOneSource cfg odooConfig projectCode allowedOdooIds source answers prior = .ok out) :
    (buildSourceQuery source odooConfig projectCode allowedOdooIds = .ok none ∧
      out = ({ SourceScanState.begin source.key with status := .unmapped }, [])) ∨
    ∃ query, buildSourceQuery source odooConfig projectCode allowedOdooIds = .ok (some query) ∧
      out = scanMapped cfg query answers (.begin source.key) prior := by
  rw [scanOneSource] at h
  match hbuild : buildSourceQuery source odooConfig projectCode allowedOdooIds with
  | .error e =>
    rw [hbuild] at h
    cases h
  | .ok none =>
    rw [hbuild] at h
    injection h with h
    exact .inl ⟨rfl, h.symm⟩
  | .ok (some query) =>
    rw [hbuild] at h
    injection h with h
    exact .inr ⟨query, rfl, h.symm⟩

/-- No scan ends pending or running. -/
theorem not_open_scanOneSource {out : Scanned}
    (h : scanOneSource cfg odooConfig projectCode allowedOdooIds source answers prior = .ok out) :
    ¬ out.1.status.Open := by
  rcases scanOneSource_eq_ok h with ⟨-, rfl⟩ | ⟨query, -, rfl⟩
  · simp [Status.Open]
  · exact not_open_scanMapped _ _

/-- A scan returns the record of its source. -/
theorem key_scanOneSource {out : Scanned}
    (h : scanOneSource cfg odooConfig projectCode allowedOdooIds source answers prior = .ok out) :
    out.1.key = source.key := by
  rcases scanOneSource_eq_ok h with ⟨-, rfl⟩ | ⟨query, -, rfl⟩
  · rfl
  · exact key_scanMapped _ _

end ScanOne

end DecisionCenter.Scan
