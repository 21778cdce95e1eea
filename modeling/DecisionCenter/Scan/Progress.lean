import DecisionCenter.Async.Run
import DecisionCenter.Scan.Session

/-!
# Progress across retries

A session is scanned once and then retried, and every retry goes on from the offset its sources
have reached. What has been passed over has been read, always. The offset itself is kept by a
scan that comes to its sample; a scan that ends before that records no progress at all, and the
next retry of the source starts over.

The first part is an invariant of the loop over the pages: each record below the offset is in a
payload that was answered, in this run or in an earlier one (`Sample.Covered`). It holds
whatever the answers are, of every source of a session (`readUpTo_runScanSession`), since a
source which is not scanned keeps its record, and one that is scanned starts from its offset.

The second part is a comparison. A `Mark` is the progress of a source, pages and offset, and a
scan goes on from a mark when the connector answers its count and its first read (`Answered`),
and otherwise leaves no progress at all (`le_mark_scanMapped_iff`). `Resumes` adds that the
mapping still gives a query for the source, or that there was no progress to lose.

`NeverLoses` has both for a session and its retries, from run to run. `neverLoses_iff` is exact
over all mappings and answers of each run: every retry must resume the sources it scans that are
not complete. A count that times out takes the progress of its source with it.
-/

namespace DecisionCenter.Scan

open Async Py

/-! ### What a scan reads -/

section Reads

variable {cfg : ScanConfig} {query : OdooQuery} {answers : Responses}

/-- A page covers the records from its offset on, as many as it asks for. -/
theorem covers_readPayload {limit offset i : ℕ} :
    (readPayload query limit offset).Covers i ↔ offset ≤ i ∧ i < offset + limit := by
  simp [readPayload, ReadPayload.Covers]

/-- The reads cover what lies between the offset of the start and the one reached. -/
def Sample.Covered (start : ℕ) (s : Sample) : Prop :=
  start ≤ s.offset ∧ ∀ i, start ≤ i → i < s.offset → ∃ r ∈ s.reads, r.Covers i

private theorem covered_next {start : ℕ} (s : Sample) (n : ℕ) (h : s.Covered start) :
    (s.next cfg query n).Covered start := by
  obtain ⟨hstart, hreads⟩ := h
  have hoffset : (s.next cfg query n).offset = s.offset + cfg.pageSize := rfl
  refine ⟨by omega, fun i hi hlt => ?_⟩
  by_cases hbefore : i < s.offset
  · obtain ⟨r, hr, hcovers⟩ := hreads i hi hbefore
    exact ⟨r, List.mem_append_left _ hr, hcovers⟩
  · refine ⟨readPayload query cfg.pageSize s.offset, List.mem_append_right _ (by simp), ?_⟩
    exact covers_readPayload.mpr ⟨by omega, by omega⟩

private theorem covered_samplePages (target : ℤ) (start : ℕ) :
    (samplePages cfg query answers target cfg.maxPages { offset := start }).Holds
      (Sample.Covered start) :=
  holds_samplePages covered_next target cfg.maxPages
    ⟨Nat.le_refl start, fun _ hi hlt => absurd hlt (Nat.not_lt.mpr hi)⟩

/-- The positions up to the offset of `out` have been read, from the offset of `prior` on. -/
def Reads (prior : Option SourceScanState) (out : Scanned) : Prop :=
  ∀ i < out.1.nextOffset, i < resumeOffset prior ∨ ∃ r ∈ out.2, r.Covers i

private theorem reads_of_covered {prior : Option SourceScanState} {s : Sample}
    (h : s.Covered (resumeOffset prior)) (st : SourceScanState) (interrupted : Bool) :
    Reads prior (sampled st prior s interrupted) := by
  intro i hi
  by_cases hbefore : i < resumeOffset prior
  · exact .inl hbefore
  · exact .inr (h.2 i (Nat.not_lt.mp hbefore) hi)

private theorem reads_of_nextOffset {prior : Option SourceScanState} {out : Scanned}
    (h : out.1.nextOffset = 0) : Reads prior out := by
  intro i hi
  rw [h] at hi
  exact absurd hi (Nat.not_lt_zero i)

private theorem reads_scanLegacy (key : String) (prior : Option SourceScanState) :
    Reads prior (scanLegacy cfg query answers (.begin key)) := by
  rw [scanLegacy]
  split
  · exact reads_of_nextOffset rfl
  · exact reads_of_nextOffset rfl
  · have hpage : ∀ i < cfg.pageSize, ∃ r ∈ [readPayload query cfg.pageSize 0], r.Covers i := by
      intro i hi
      exact ⟨_, List.mem_singleton_self _, covers_readPayload.mpr ⟨Nat.zero_le i, by omega⟩⟩
    split
    · exact fun i hi => .inr (hpage i hi)
    split
    · exact fun i hi => .inr (hpage i hi)
    · exact fun i hi => .inr (hpage i hi)

/-- Whatever the connector answers, what lies below the new offset has been read, in this scan or
before it. -/
private theorem reads_scanMapped (key : String) (prior : Option SourceScanState) :
    Reads prior (scanMapped cfg query answers (.begin key) prior) := by
  rw [scanMapped]
  split
  · exact reads_of_nextOffset rfl
  · exact reads_of_nextOffset rfl
  · exact reads_scanLegacy key prior
  · split
    · exact reads_of_nextOffset rfl
    next total _ _ =>
    have hcovered : (samplePages cfg query answers (min total cfg.sampleTarget) cfg.maxPages
        { offset := resumeOffset prior }).Holds (Sample.Covered (resumeOffset prior)) :=
      covered_samplePages _ _
    rw [scanPaged]
    split
    · next hsample =>
      rw [hsample] at hcovered
      exact reads_of_covered hcovered _ _
    · next hsample =>
      rw [hsample] at hcovered
      exact reads_of_covered hcovered _ _
    · exact reads_of_nextOffset rfl

end Reads

/-! ### What a scan keeps -/

/-- The progress of a source. -/
structure Mark where
  pages : ℕ
  offset : ℕ
  deriving DecidableEq, Repr

/-- The progress a record holds. -/
def SourceScanState.mark (st : SourceScanState) : Mark := ⟨st.pagesDone, st.nextOffset⟩

/-- Neither the pages nor the offset have gone back. -/
def Mark.Le (m m' : Mark) : Prop := m.offset ≤ m'.offset ∧ m.pages ≤ m'.pages

/-- No progress. -/
def Mark.zero : Mark := ⟨0, 0⟩

private theorem Mark.le_zero_iff {m : Mark} : m.Le Mark.zero ↔ m = Mark.zero := by
  obtain ⟨pages, offset⟩ := m
  simp only [Mark.Le, Mark.zero, Mark.mk.injEq]
  omega

section Keeps

variable {cfg : ScanConfig} {query : OdooQuery} {answers : Responses}

/-- The call has returned. -/
def Answer.Returns {α : Type} : Answer α → Prop
  | .returned _ => True
  | _ => False

instance {α : Type} : (a : Answer α) → Decidable a.Returns
  | .returned _ => isTrue trivial
  | .timeout => isFalse id
  | .raised _ => isFalse id

/-- The sample is not cut off by its first read: none is called for, the time is up before it, or
it is answered. -/
def FirstRead (cfg : ScanConfig) (answers : Responses) (total : ℤ) : Prop :=
  min total cfg.sampleTarget ≤ 0 ∨ cfg.maxPages = 0 ∨ answers.late 0 = true ∨
    (answers.read 0).Returns

instance (cfg : ScanConfig) (answers : Responses) (total : ℤ) :
    Decidable (FirstRead cfg answers total) := inferInstanceAs (Decidable (_ ∨ _ ∨ _ ∨ _))

/-- The loop fails just if its first read does. -/
private theorem samplePages_failed_iff (total : ℤ) (start : ℕ) :
    (∃ status error, samplePages cfg query answers (min total cfg.sampleTarget) cfg.maxPages
      { offset := start } = .failed status error) ↔ ¬ FirstRead cfg answers total := by
  constructor
  · rintro ⟨status, error, h⟩ hread
    obtain ⟨-, hseen, hlate, hreturned, -⟩ := samplePages_eq_failed h
    rcases hread with htarget | hpages | hlate' | hreturns
    · exact absurd hseen (Int.not_lt.mpr htarget)
    · rw [hpages] at h
      cases h
    · rw [hlate] at hlate'
      cases hlate'
    · match hread : answers.read 0 with
      | .returned n => exact hreturned n hread
      | .timeout => rw [hread] at hreturns; exact hreturns
      | .raised e => rw [hread] at hreturns; exact hreturns
  · intro h
    simp only [FirstRead, not_or, Int.not_le, Bool.not_eq_true] at h
    obtain ⟨htarget, hpages, hlate, hreturned⟩ := h
    obtain ⟨budget, hbudget⟩ := Nat.exists_eq_succ_of_ne_zero hpages
    have hseen : ((({ offset := start } : Sample).seen : ℕ) : ℤ) < min total cfg.sampleTarget :=
      htarget
    have hintime : ¬ answers.late ({ offset := start } : Sample).pages = true := by
      rw [hlate]
      exact Bool.false_ne_true
    rw [hbudget, samplePages, if_pos hseen, if_neg hintime]
    cases hread : answers.read 0 with
    | timeout => exact ⟨_, _, if_pos rfl⟩
    | raised e => exact ⟨_, _, if_pos rfl⟩
    | returned n =>
      rw [hread] at hreturned
      exact absurd trivial hreturned

/-- The connector answers what a scan needs to go on from `m`: the count with a total, and the
first read; or, where it cannot count, the one page, where there was no more than a page before. -/
def Answered (cfg : ScanConfig) (answers : Responses) (m : Mark) : Prop :=
  match answers.count with
  | .returned (some total) => total ≠ 0 ∧ FirstRead cfg answers total
  | .returned none => (answers.read 0).Returns ∧ m.Le ⟨1, cfg.pageSize⟩
  | _ => False

private theorem mark_scanLegacy (key : String) :
    (scanLegacy cfg query answers (.begin key)).1.mark =
      if (answers.read 0).Returns then ⟨1, cfg.pageSize⟩ else Mark.zero := by
  rw [scanLegacy]
  cases hread : answers.read 0 with
  | timeout => rfl
  | raised e => rfl
  | returned n =>
    have hreturns : (Answer.returned n : Answer ℕ).Returns := trivial
    rw [if_pos hreturns]
    dsimp only
    split
    · rfl
    split <;> rfl

/-- The progress after a scan with a count. It goes on from the mark where the first page is read,
and else is lost. -/
theorem mark_scanPaged (total : ℤ) (key : String) (prior : Option SourceScanState) :
    (FirstRead cfg answers total → (⟨resumePages prior, resumeOffset prior⟩ : Mark).Le
      (scanPaged cfg query answers total (.begin key) prior).1.mark) ∧
    (¬ FirstRead cfg answers total →
      (scanPaged cfg query answers total (.begin key) prior).1.mark = Mark.zero) := by
  have hcovered : (samplePages cfg query answers (min total cfg.sampleTarget) cfg.maxPages
      { offset := resumeOffset prior }).Holds (Sample.Covered (resumeOffset prior)) :=
    covered_samplePages _ _
  have hfailed : (∃ status error, samplePages cfg query answers (min total cfg.sampleTarget)
      cfg.maxPages { offset := resumeOffset prior } = .failed status error) ↔
      ¬ FirstRead cfg answers total := samplePages_failed_iff total _
  rw [scanPaged]
  split
  · next s hsample =>
    rw [hsample] at hcovered hfailed
    refine ⟨fun _ => ⟨hcovered.1, Nat.le_add_right _ _⟩, fun h => ?_⟩
    obtain ⟨_, _, h⟩ := hfailed.mpr h
    cases h
  · next s hsample =>
    rw [hsample] at hcovered hfailed
    refine ⟨fun _ => ⟨hcovered.1, Nat.le_add_right _ _⟩, fun h => ?_⟩
    obtain ⟨_, _, h⟩ := hfailed.mpr h
    cases h
  · next status e hsample =>
    rw [hsample] at hfailed
    exact ⟨fun h => absurd h (hfailed.mp ⟨_, _, rfl⟩), fun _ => rfl⟩

/-- A scan goes on from `m` when it is answered, and otherwise leaves no progress at all. A mark of
zero has nothing to lose. -/
theorem le_mark_scanMapped_iff (key : String) {prior : Option SourceScanState} {m : Mark}
    (hm : m = ⟨resumePages prior, resumeOffset prior⟩) :
    m.Le (scanMapped cfg query answers (.begin key) prior).1.mark ↔
      m = Mark.zero ∨ Answered cfg answers m := by
  have hzero : ∀ m' : Mark, Mark.zero.Le m' := fun m' => ⟨Nat.zero_le _, Nat.zero_le _⟩
  rw [scanMapped, Answered]
  cases answers.count with
  -- a failed scan is left at the mark zero
  | timeout => exact Mark.le_zero_iff.trans (or_iff_left id).symm
  | raised e => exact Mark.le_zero_iff.trans (or_iff_left id).symm
  | returned count? =>
    cases count? with
    | none =>
      dsimp only
      rw [mark_scanLegacy]
      split
      · next hread =>
        rw [and_iff_right hread]
        refine (or_iff_right_of_imp ?_).symm
        rintro rfl
        exact hzero _
      · next hread => exact Mark.le_zero_iff.trans (or_iff_left fun h => hread h.1).symm
    | some total =>
      dsimp only
      by_cases htotal : total = 0
      · rw [if_pos htotal]
        exact Mark.le_zero_iff.trans (or_iff_left fun h => h.1 htotal).symm
      · rw [if_neg htotal]
        -- the loop keeps its progress once its first page is read
        by_cases hfirst : FirstRead cfg answers total
        · have hle : m.Le (scanPaged cfg query answers total (.begin key) prior).1.mark := by
            rw [hm]
            exact (mark_scanPaged total key prior).1 hfirst
          exact iff_of_true hle (.inr ⟨htotal, hfirst⟩)
        · rw [(mark_scanPaged total key prior).2 hfirst]
          exact Mark.le_zero_iff.trans (or_iff_left fun h => hfirst h.2).symm

end Keeps

section Runs

variable [Text] {cfg : ScanConfig} {odooConfig : OdooConfig} {allowedOdooIds : List String}
  {projectCode : String} {source : OdooSource} {answers : Responses}
  {prior : Option SourceScanState}

private theorem reads_scanResult : Reads prior
    (scanResult cfg odooConfig allowedOdooIds projectCode source answers prior) := by
  rw [scanResult]
  split
  · next hscan =>
    rcases scanOneSource_eq_ok hscan with ⟨-, rfl⟩ | ⟨query, -, rfl⟩
    · exact reads_of_nextOffset rfl
    · exact reads_scanMapped _ _
  · exact reads_of_nextOffset rfl

/-- A scan of the source goes on from `m`: there is no progress yet, or the mapping gives a query
for the source and the connector answers. -/
def Resumes (cfg : ScanConfig) (odooConfig : OdooConfig) (allowedOdooIds : List String)
    (projectCode : String) (source : OdooSource) (answers : Responses) (m : Mark) : Prop :=
  m = Mark.zero ∨
    (∃ query, buildSourceQuery source odooConfig projectCode allowedOdooIds = .ok (some query)) ∧
      Answered cfg answers m

/-- The record of a source keeps its progress just if the scan resumes. -/
private theorem le_mark_scanResult_iff {m : Mark}
    (hm : m = ⟨resumePages prior, resumeOffset prior⟩) :
    m.Le (scanResult cfg odooConfig allowedOdooIds projectCode source answers prior).1.mark ↔
      Resumes cfg odooConfig allowedOdooIds projectCode source answers m := by
  rw [scanResult, scanOneSource, Resumes]
  cases hbuild : buildSourceQuery source odooConfig projectCode allowedOdooIds with
  | error e =>
    have hnone : ¬ ∃ query, (Except.error e : Except Raised (Option OdooQuery)) =
        .ok (some query) := by
      rintro ⟨_, h⟩
      cases h
    exact Mark.le_zero_iff.trans (or_iff_left fun h => hnone h.1).symm
  | ok query? =>
    cases query? with
    | none =>
      have hnone : ¬ ∃ query, (Except.ok none : Except Raised (Option OdooQuery)) =
          .ok (some query) := by
        rintro ⟨_, h⟩
        cases h
      exact Mark.le_zero_iff.trans (or_iff_left fun h => hnone h.1).symm
    | some query =>
      rw [and_iff_right ⟨query, rfl⟩]
      exact le_mark_scanMapped_iff source.key hm

/-! ### Retries -/

/-- What one run is given: the mapping at its start, and the responses of every source. -/
structure RunInput where
  odooConfig : OdooConfig
  allowedOdooIds : List String
  answers : String → Responses

/-- A request to retry. -/
structure Retry extends RunInput where
  mode : String

variable (cfg)

/-- The run that a scan request starts. -/
def firstScan (projectCode sessionId : String) (i : RunInput) : ScanSession :=
  runScanSession cfg i.odooConfig i.allowedOdooIds i.answers
    (initFullSession projectCode sessionId) (sourcesForKeys (odooSources.map (·.key)))

/-- The run that a retry request starts, if there is anything to retry. -/
def retryScan (session : ScanSession) (r : Retry) : ScanSession :=
  if selectRetryKeys session r.mode = [] then session
  else runScanSession cfg r.odooConfig r.allowedOdooIds r.answers (retryStart session r.mode).1
    (retryStart session r.mode).2

/-- A session, and all reads that were answered during its runs. -/
structure Tracked where
  session : ScanSession
  reads : List (String × ReadPayload)

def trackedScan (projectCode sessionId : String) (i : RunInput) : Tracked where
  session := firstScan cfg projectCode sessionId i
  reads := runReads cfg i.odooConfig i.allowedOdooIds i.answers
    (initFullSession projectCode sessionId) (sourcesForKeys (odooSources.map (·.key)))

def trackedRetry (t : Tracked) (r : Retry) : Tracked where
  session := retryScan cfg t.session r
  reads := if selectRetryKeys t.session r.mode = [] then t.reads
    else t.reads ++ runReads cfg r.odooConfig r.allowedOdooIds r.answers
      (retryStart t.session r.mode).1 (retryStart t.session r.mode).2

/-- From one run to the next, no source that is not complete loses progress. -/
def KeepsProgress (before after : ScanSession) : Prop :=
  ∀ k st, before.get k = some st → st.complete = false →
    ∃ st', after.get k = some st' ∧ st.mark.Le st'.mark

/-- Every record below the offset of its source has been read. -/
def ReadUpTo (session : ScanSession) (reads : List (String × ReadPayload)) : Prop :=
  ∀ k st, session.get k = some st → ∀ i < st.nextOffset, ∃ r, (k, r) ∈ reads ∧ r.Covers i

/-- Every source that the retry scans, and that is not complete, is resumed. -/
def RetryResumes (t : Tracked) (r : Retry) : Prop :=
  ∀ source ∈ sourcesForKeys (selectRetryKeys t.session r.mode),
    ∀ st, t.session.get source.key = some st → st.complete = false →
      Resumes cfg r.odooConfig r.allowedOdooIds t.session.projectCode source
        (r.answers source.key) st.mark

variable {cfg}

/-- The reads of a scanned source are among those of the run. A source is scanned with what the
session has of it, which other sources do not change. -/
theorem mem_runReads {sources : List OdooSource} (hnodup : (sources.map OdooSource.key).Nodup)
    {source : OdooSource} (hs : source ∈ sources) {answers : String → Responses}
    (session : ScanSession) {r : ReadPayload}
    (hr : r ∈ (scanResult cfg odooConfig allowedOdooIds session.projectCode source
      (answers source.key) (session.get source.key)).2) :
    (source.key, r) ∈ runReads cfg odooConfig allowedOdooIds answers session sources := by
  induction sources generalizing session with
  | nil => cases hs
  | cons first sources ih =>
    rw [List.map_cons, List.nodup_cons] at hnodup
    rw [runReads, List.mem_append]
    rcases List.mem_cons.mp hs with rfl | hrest
    · exact .inl (List.mem_map_of_mem hr)
    · have hne : source.key ≠ first.key := by
        intro heq
        exact hnodup.1 (heq ▸ List.mem_map_of_mem hrest)
      refine .inr (ih hnodup.2 hrest _ ?_)
      rw [get_scanStep, if_neg hne, projectCode_scanStep]
      exact hr

/-- A run adds the reads that its offsets are about. What it goes on from was read before it. -/
theorem readUpTo_runScanSession {sources : List OdooSource}
    (hnodup : (sources.map OdooSource.key).Nodup) {answers : String → Responses}
    {session : ScanSession} {reads : List (String × ReadPayload)} (h : ReadUpTo session reads) :
    ReadUpTo (runScanSession cfg odooConfig allowedOdooIds answers session sources)
      (reads ++ runReads cfg odooConfig allowedOdooIds answers session sources) := by
  intro k st hst i hi
  by_cases hk : k ∈ sources.map OdooSource.key
  · obtain ⟨source, hs, rfl⟩ := List.mem_map.mp hk
    rw [get_runScanSession_of_mem hnodup hs] at hst
    obtain rfl := Option.some.inj hst
    rcases reads_scanResult i hi with hbefore | ⟨r, hr, hcovers⟩
    · -- What the run goes on from was read before it.
      cases hprior : session.get source.key with
      | none =>
        rw [hprior] at hbefore
        exact absurd hbefore (Nat.not_lt_zero i)
      | some prior =>
        rw [hprior] at hbefore
        obtain ⟨r, hr, hcovers⟩ := h source.key prior hprior i hbefore
        exact ⟨r, List.mem_append_left _ hr, hcovers⟩
    · exact ⟨r, List.mem_append_right _ (mem_runReads hnodup hs session hr), hcovers⟩
  · rw [get_runScanSession_of_notMem hk] at hst
    obtain ⟨r, hr, hcovers⟩ := h k st hst i hi
    exact ⟨r, List.mem_append_left _ hr, hcovers⟩

omit [Text] in
private theorem readUpTo_retryStart {session : ScanSession} {reads : List (String × ReadPayload)}
    (h : ReadUpTo session reads) (mode : String) :
    ReadUpTo (retryStart session mode).1 reads := by
  intro k st hst i hi
  have hoffset : st.nextOffset = resumeOffset (session.get k) := by
    rw [← resumeOffset_of_get hst]
    exact (mark_foldl_requeue session (selectRetryKeys session mode) k).2
  rw [hoffset] at hi
  cases hprior : session.get k with
  | none =>
    rw [hprior] at hi
    exact absurd hi (Nat.not_lt_zero i)
  | some prior =>
    rw [hprior] at hi
    exact h k prior hprior i hi

/-- What has been passed over has been read, after every retry. -/
theorem readUpTo_trackedRetry {t : Tracked} (h : ReadUpTo t.session t.reads) (r : Retry) :
    ReadUpTo (trackedRetry cfg t r).session (trackedRetry cfg t r).reads := by
  rw [trackedRetry, retryScan]
  by_cases hkeys : selectRetryKeys t.session r.mode = []
  · rw [if_pos hkeys, if_pos hkeys]
    exact h
  · rw [if_neg hkeys, if_neg hkeys]
    exact readUpTo_runScanSession (nodup_sourcesForKeys _) (readUpTo_retryStart h r.mode)

/-- What has been passed over has been read, after the first scan. -/
theorem readUpTo_trackedScan (projectCode sessionId : String) (i : RunInput) :
    ReadUpTo (trackedScan cfg projectCode sessionId i).session
      (trackedScan cfg projectCode sessionId i).reads := by
  have hinit : ReadUpTo (initFullSession projectCode sessionId) [] := by
    intro k st hst i hi
    obtain ⟨source, -, rfl⟩ := List.mem_map.mp (Table.mem_of_lookup hst)
    exact absurd hi (Nat.not_lt_zero i)
  exact readUpTo_runScanSession (nodup_sourcesForKeys _) hinit

/-- A retry keeps the progress of all sources exactly when it resumes those it scans. The sources
that it does not scan keep their marks. -/
theorem keepsProgress_retryScan_iff (t : Tracked) (r : Retry) :
    KeepsProgress t.session (retryScan cfg t.session r) ↔ RetryResumes cfg t r := by
  rw [retryScan, RetryResumes]
  by_cases hkeys : selectRetryKeys t.session r.mode = []
  · rw [if_pos hkeys, hkeys]
    refine iff_of_true (fun k st hst _ => ⟨st, hst, Nat.le_refl _, Nat.le_refl _⟩) ?_
    intro source hs
    rw [sourcesForKeys, List.mem_filter] at hs
    simp at hs
  have hsources : (retryStart t.session r.mode).2 =
      sourcesForKeys (selectRetryKeys t.session r.mode) := rfl
  rw [if_neg hkeys, hsources]
  have hmark : ∀ {k st}, t.session.get k = some st →
      st.mark = ⟨resumePages ((retryStart t.session r.mode).1.get k),
        resumeOffset ((retryStart t.session r.mode).1.get k)⟩ := by
    intro k st hst
    obtain ⟨hpages, hoffset⟩ :=
      mark_foldl_requeue t.session (selectRetryKeys t.session r.mode) k
    rw [hst] at hpages hoffset
    exact (congrArg₂ Mark.mk hpages hoffset).symm
  have hscanned : ∀ source ∈ sourcesForKeys (selectRetryKeys t.session r.mode), ∀ st,
      t.session.get source.key = some st →
        ((∃ st', (runScanSession cfg r.odooConfig r.allowedOdooIds r.answers
          (retryStart t.session r.mode).1 (sourcesForKeys (selectRetryKeys t.session r.mode))).get
            source.key = some st' ∧ st.mark.Le st'.mark) ↔
          Resumes cfg r.odooConfig r.allowedOdooIds t.session.projectCode source
            (r.answers source.key) st.mark) := by
    intro source hs st hst
    have hcode : (retryStart t.session r.mode).1.projectCode = t.session.projectCode :=
      projectCode_foldl_requeue _ _
    rw [get_runScanSession_of_mem (nodup_sourcesForKeys _) hs, hcode,
      ← le_mark_scanResult_iff (hmark hst)]
    simp
  constructor
  · intro h source hs st hst hcomplete
    exact (hscanned source hs st hst).mp (h source.key st hst hcomplete)
  · intro h k st hst hcomplete
    by_cases hk : k ∈ (sourcesForKeys (selectRetryKeys t.session r.mode)).map OdooSource.key
    · obtain ⟨source, hs, rfl⟩ := List.mem_map.mp hk
      exact (hscanned source hs st hst).mpr (h source hs st hst hcomplete)
    · -- A source that is not scanned has at most been requeued.
      rw [get_runScanSession_of_notMem hk]
      have hsome : ((retryStart t.session r.mode).1.get k).isSome :=
        isSome_foldl_requeue t.session (selectRetryKeys t.session r.mode) (by rw [hst]; rfl)
      obtain ⟨st', hst'⟩ := Option.isSome_iff_exists.mp hsome
      refine ⟨st', hst', ?_⟩
      rw [hmark hst, hst']
      exact ⟨Nat.le_refl _, Nat.le_refl _⟩

/-! ### Sessions -/

variable (cfg)

/-- Through the retries no source that is not complete loses progress, and after every run all
that its offsets say has been read. -/
def NeverLoses (t : Tracked) (retries : List Retry) : Prop :=
  Run.Along (trackedRetry cfg)
      (fun t r => KeepsProgress t.session (trackedRetry cfg t r).session) t retries ∧
    Run.Throughout (trackedRetry cfg) (fun t => ReadUpTo t.session t.reads) t retries

private theorem readUpTo_throughout {t : Tracked} (h : ReadUpTo t.session t.reads)
    (retries : List Retry) :
    Run.Throughout (trackedRetry cfg) (fun t => ReadUpTo t.session t.reads) t retries := by
  intro before after _
  have hstep : ∀ (t : Tracked) (r : Retry), ReadUpTo t.session t.reads →
      ReadUpTo (trackedRetry cfg t r).session (trackedRetry cfg t r).reads :=
    fun t r ht => readUpTo_trackedRetry ht r
  exact @Run.exec_invariant _ _ (trackedRetry cfg) (fun t => ReadUpTo t.session t.reads) hstep t h
    before

/-- A session never loses progress exactly when each of its retries resumes the sources it scans.
What has been passed over has always been read, so that only the offsets are at stake. -/
theorem neverLoses_iff (projectCode sessionId : String) (first : RunInput)
    (retries : List Retry) :
    NeverLoses cfg (trackedScan cfg projectCode sessionId first) retries ↔
      Run.Along (trackedRetry cfg) (RetryResumes cfg)
        (trackedScan cfg projectCode sessionId first) retries := by
  rw [NeverLoses, and_iff_left (readUpTo_throughout cfg (readUpTo_trackedScan _ _ _) retries)]
  exact ⟨fun h => h.mono fun t r => (keepsProgress_retryScan_iff t r).mp,
    fun h => h.mono fun t r => (keepsProgress_retryScan_iff t r).mpr⟩

end Runs

section Latin

open Py.Whole

/-- The connector counts 500 records of the project, and no others; the second page is not
answered. -/
def stalls (key : String) : Responses where
  count := if key = "project_identity" then .returned (some 500) else .timeout
  late _ := false
  read k := if k = 0 then .returned 100 else .timeout

/-- A count that times out takes the progress of the source with it. The scan returns a fresh
record, at offset zero. -/
theorem not_neverLoses_countTimeout : ¬ ∀ (cfg : ScanConfig) (projectCode sessionId : String)
    (first : RunInput) (retries : List Retry),
    NeverLoses cfg (trackedScan cfg projectCode sessionId first) retries := by
  intro hall
  let mapping := linkConfig "14602" "21963"
  let silent : Responses := ⟨.timeout, fun _ => false, fun _ => .timeout⟩
  let t := trackedScan {} "PRJ-003" "s1" ⟨mapping, ["14602"], stalls⟩
  let r : Retry := ⟨⟨mapping, ["14602"], fun _ => silent⟩, "incomplete"⟩
  have hkeeps : KeepsProgress t.session (trackedRetry {} t r).session :=
    (hall {} "PRJ-003" "s1" ⟨mapping, ["14602"], stalls⟩ [r]).1.1
  have hbefore : (t.session.get "project_identity").map SourceScanState.mark = some ⟨1, 100⟩ := by
    decide +kernel
  have hafter : ((trackedRetry {} t r).session.get "project_identity").map SourceScanState.mark =
      some Mark.zero := by decide +kernel
  have hincomplete : (t.session.get "project_identity").map (·.complete) = some false := by
    decide +kernel
  obtain ⟨st, hst, hmark⟩ := Option.map_eq_some_iff.mp hbefore
  have hcomplete : st.complete = false := by
    rw [hst] at hincomplete
    exact Option.some.inj hincomplete
  obtain ⟨st', hst', hle⟩ := hkeeps "project_identity" st hst hcomplete
  rw [hst', Option.map_some] at hafter
  rw [hmark, Option.some.inj hafter] at hle
  exact absurd hle.1 (by decide)

end Latin

end DecisionCenter.Scan
