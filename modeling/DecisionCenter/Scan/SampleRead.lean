import DecisionCenter.Scan.Progress

/-!
# What a completed scan has read

Against a workflow that counts and reads the records of a source as they are, a source that ends
completed has had its sample read in the runs of its session, if the page budget of a run holds
the sample. The loop that is stopped by the budget ends completed too, so a smaller budget
leaves the sample unread.

`Honest` answers are those of a source with a fixed number of rows: the count is that number,
and a page has the rows from its offset on, as many as there are. Some answers may be missing
and the time may run out; nothing false is answered. The sample of a source is the first rows up
to the bound of the settings.

Between two pages the loop has read a whole number of pages behind its start
(`Sample.InWindow`). So it can finish in three ways: behind its target, behind the last row, or
at the end of its budget (`reaches_of_finished`). If the budget holds the sample, the third
cannot happen in front of the target, and a scan that completes has come to the end of the
sample, counted from where it resumed.

`Sampled` is carried through the runs of a session, where each run goes on from the offset of
the last. `samplesRead_iff` is exact over all settings: the budget must hold the sample, or the
source is never queried. The settings that are the defaults hold every sample of the registry.
-/

namespace DecisionCenter.Scan

open Async Py

/-! ### Rows -/

instance (r : ReadPayload) (i : ℕ) : Decidable (r.Covers i) :=
  decidable_of_iff (r.offset ≤ i ∧ (r.query.limit.any fun limit => i < r.offset + limit) = true) (by
    cases h : r.query.limit <;> simp [ReadPayload.Covers, h])

/-- How many of the `total` rows of a source the reads have returned. -/
def rowsRead (key : String) (total : ℕ) (reads : List (String × ReadPayload)) : ℕ :=
  ((List.range total).filter fun i => ∃ r ∈ reads, r.1 = key ∧ r.2.Covers i).length

section Rows

variable {key : String} {total : ℕ} {reads : List (String × ReadPayload)}

/-- If all rows below a bound are read, so many are. -/
theorem le_rowsRead {bound : ℕ} (hbound : bound ≤ total)
    (h : ∀ i < bound, ∃ r, (key, r) ∈ reads ∧ r.Covers i) : bound ≤ rowsRead key total reads := by
  have hsub : (List.range bound).Sublist ((List.range total).filter fun i =>
      ∃ r ∈ reads, r.1 = key ∧ r.2.Covers i) := by
    have hall : (List.range bound).filter (fun i => ∃ r ∈ reads, r.1 = key ∧ r.2.Covers i) =
        List.range bound := by
      refine List.filter_eq_self.mpr fun i hi => decide_eq_true ?_
      obtain ⟨r, hr, hcovers⟩ := h i (List.mem_range.mp hi)
      exact ⟨(key, r), hr, rfl, hcovers⟩
    rw [← hall]
    exact (List.range_sublist.mpr hbound).filter _
  have hlength := hsub.length_le
  rwa [List.length_range] at hlength

/-- If only rows below a bound are read, no more are. -/
theorem rowsRead_le {bound : ℕ} (h : ∀ r, (key, r) ∈ reads → ∀ i, r.Covers i → i < bound) :
    rowsRead key total reads ≤ bound := by
  have hnodup : ((List.range total).filter fun i =>
      ∃ r ∈ reads, r.1 = key ∧ r.2.Covers i).Nodup := List.nodup_range.filter _
  have hsub : ((List.range total).filter fun i => ∃ r ∈ reads, r.1 = key ∧ r.2.Covers i) ⊆
      List.range bound := by
    intro i hi
    obtain ⟨⟨_, r⟩, hr, rfl, hcovers⟩ := of_decide_eq_true (List.mem_filter.mp hi).2
    exact List.mem_range.mpr (h r hr i hcovers)
  have hlength := (List.subperm_of_subset hnodup hsub).length_le
  rwa [List.length_range] at hlength

end Rows

/-! ### Honest answers -/

/-- The position at which the first read of a scan starts. -/
def firstPosition (start : ℕ) (answers : Responses) : ℕ :=
  if answers.count = .returned none then 0 else start

/-- The workflow has `total` rows: it counts these, if it counts, and a read that it answers returns
those in its window. The scan resumes at `start`. -/
structure Honest (cfg : ScanConfig) (total start : ℕ) (answers : Responses) : Prop where
  count : ∀ c, answers.count = .returned (some c) → c = total
  read : ∀ k n, answers.read k = .returned n →
    n = min cfg.pageSize (total - (firstPosition start answers + k * cfg.pageSize))

/-- The loop between two pages of a scan that resumes at `start`. -/
structure Sample.InWindow (cfg : ScanConfig) (start : ℕ) (s : Sample) : Prop where
  offset : s.offset = start + s.pages * cfg.pageSize
  seen : s.seen ≤ s.pages * cfg.pageSize

section Loop

variable {cfg : ScanConfig} {query : OdooQuery} {answers : Responses} {total start : ℕ}

/-- A page that is not longer than asked for leads from one page boundary to the next. -/
theorem Sample.InWindow.next {s : Sample} (h : s.InWindow cfg start) {n : ℕ}
    (hn : n ≤ cfg.pageSize) : (s.next cfg query n).InWindow cfg start where
  offset := by
    change s.offset + cfg.pageSize = start + (s.pages + 1) * cfg.pageSize
    rw [h.offset, Nat.succ_mul, Nat.add_assoc]
  seen := by
    change s.seen + n ≤ (s.pages + 1) * cfg.pageSize
    rw [Nat.succ_mul]
    exact Nat.add_le_add h.seen hn

/-- Where the loop finishes: behind its target, behind the last row, or at the end of its budget. By
the pages that are left. -/
theorem reaches_of_finished {target : ℤ} {budget : ℕ} {s s' : Sample}
    (hread : ∀ k n, answers.read k = .returned n →
      n = min cfg.pageSize (total - (start + k * cfg.pageSize)))
    (hs : s.InWindow cfg start) (hbudget : s.pages + budget = cfg.maxPages)
    (h : samplePages cfg query answers target budget s = .finished s') :
    s'.InWindow cfg start ∧
      (target ≤ s'.seen ∨ total ≤ s'.offset ∨ s'.pages = cfg.maxPages) := by
  induction budget generalizing s with
  | zero =>
    cases h
    exact ⟨hs, .inr (.inr hbudget)⟩
  | succ budget ih =>
    rw [samplePages] at h
    split at h
    case isFalse hseen =>
      cases h
      exact ⟨hs, .inl (Int.not_lt.mp hseen)⟩
    split at h
    case isTrue => cases h
    split at h
    · rw [Sample.broken] at h
      split at h <;> cases h
    · rw [Sample.broken] at h
      split at h <;> cases h
    · next n hn =>
      have hwindow := hread _ n hn
      rw [← hs.offset] at hwindow
      have hnext : (s.next cfg query n).InWindow cfg start := hs.next (by omega)
      split at h
      · -- a short page: the rows end before the next one
        cases h
        have hoffset : (s.next cfg query n).offset = s.offset + cfg.pageSize := rfl
        exact ⟨hnext, .inr (.inl (by omega))⟩
      · have hpages : (s.next cfg query n).pages = s.pages + 1 := rfl
        exact ih hnext (by omega) h

/-- A scan that completes has come to the end of the sample, if its budget holds the sample. Without
a count it has read one page, and that page was short. -/
theorem le_nextOffset_of_completed {key : String} {prior : Option SourceScanState}
    (hhonest : Honest cfg total (resumeOffset prior) answers)
    (hbudget : min total cfg.sampleTarget ≤ cfg.maxPages * cfg.pageSize)
    (h : (scanMapped cfg query answers (.begin key) prior).1.status = .completed) :
    min total cfg.sampleTarget ≤
      (scanMapped cfg query answers (.begin key) prior).1.nextOffset := by
  rw [scanMapped] at h ⊢
  split at h
  · simp [SourceScanState.fail] at h
  · simp [SourceScanState.fail] at h
  · next hcount =>
    have hfirst : firstPosition (resumeOffset prior) answers = 0 := if_pos hcount
    -- without a count one page is all that is read, and a scan that completes read it short
    rw [scanLegacy] at h ⊢
    split at h
    · simp [SourceScanState.fail] at h
    · simp [SourceScanState.fail] at h
    · next n hn =>
      have hwindow := hhonest.read 0 n hn
      rw [hfirst] at hwindow
      dsimp only at h ⊢
      split_ifs at h ⊢ with hzero hfull
      change min total cfg.sampleTarget ≤ cfg.pageSize
      omega
  · next count hcount =>
    -- with a count the pages follow each other from the offset that is resumed
    have hfirst : firstPosition (resumeOffset prior) answers = resumeOffset prior :=
      if_neg (by simp [hcount])
    have hread := hhonest.read
    rw [hfirst] at hread
    obtain rfl := hhonest.count count hcount
    split at h
    · simp at h
    · next hpositive =>
      rw [if_neg hpositive]
      rw [scanPaged] at h ⊢
      split at h
      · next s hs =>
        obtain ⟨hwindow, hreaches⟩ := reaches_of_finished hread ⟨by simp, by simp⟩
          (Nat.zero_add _) hs
        change min total cfg.sampleTarget ≤ s.offset
        have hoffset := hwindow.offset
        have hseen := hwindow.seen
        -- stopped at the target, by a short page, or by the page budget that holds the sample
        rcases hreaches with htarget | hend | hpages
        · omega
        · omega
        · rw [hpages] at hoffset
          omega
      · simp [sampled] at h
      · next hfailed =>
        obtain ⟨-, -, -, -, hstatus⟩ := samplePages_eq_failed hfailed
        rcases hstatus with rfl | rfl <;> simp [SourceScanState.fail] at h

end Loop

/-! ### A budget that is too small -/

/-- The answers of a workflow with `total` rows that is never late. -/
def promptAnswers (cfg : ScanConfig) (total : ℕ) : Responses where
  count := .returned (some total)
  late _ := false
  read k := .returned (min cfg.pageSize (total - k * cfg.pageSize))

private theorem honest_promptAnswers (cfg : ScanConfig) (total : ℕ) :
    Honest cfg total 0 (promptAnswers cfg total) where
  count c hc := by
    injection hc with hc
    exact (Option.some.inj hc).symm
  read k n hn := by
    have hfirst : firstPosition 0 (promptAnswers cfg total) = 0 := by
      rw [firstPosition]
      split <;> rfl
    injection hn with hn
    rw [hfirst, Nat.zero_add]
    exact hn.symm

section Budget

variable {cfg : ScanConfig} (query : OdooQuery) {total : ℕ}

/-- The loop is stopped by its budget, before the sample and the rows end. Every page is full and in
time. -/
theorem samplePages_promptAnswers
    (hbudget : cfg.maxPages * cfg.pageSize < min total cfg.sampleTarget) {budget : ℕ} {s : Sample}
    (hpages : s.pages + budget = cfg.maxPages) (hs : s.InWindow cfg 0) :
    ∃ s', samplePages cfg query (promptAnswers cfg total) (min (total : ℤ) cfg.sampleTarget) budget
        s = .finished s' ∧ s'.offset = cfg.maxPages * cfg.pageSize := by
  induction budget generalizing s with
  | zero =>
    refine ⟨s, rfl, ?_⟩
    rw [hs.offset, ← hpages, Nat.add_zero, Nat.zero_add]
  | succ budget ih =>
    have hlast : (s.pages + 1) * cfg.pageSize ≤ cfg.maxPages * cfg.pageSize :=
      Nat.mul_le_mul_right _ (by omega)
    rw [Nat.succ_mul] at hlast
    have hseen := hs.seen
    have hfull : min cfg.pageSize (total - s.pages * cfg.pageSize) = cfg.pageSize := by omega
    have hread : (promptAnswers cfg total).read s.pages = .returned cfg.pageSize :=
      congrArg Answer.returned hfull
    have hlate : ¬ (promptAnswers cfg total).late s.pages = true := Bool.false_ne_true
    rw [samplePages, if_pos (by omega), if_neg hlate, hread]
    dsimp only
    rw [if_neg (Nat.lt_irrefl _)]
    have hnext : (s.next cfg query cfg.pageSize).pages = s.pages + 1 := rfl
    exact ih (by omega) (hs.next (Nat.le_refl _))

/-- All that has been read lies below the offset. -/
def Sample.Below (s : Sample) : Prop := ∀ r ∈ s.reads, ∀ i, r.Covers i → i < s.offset

variable {query} in
private theorem below_next (s : Sample) (n : ℕ) (h : s.Below) : (s.next cfg query n).Below := by
  have hoffset : (s.next cfg query n).offset = s.offset + cfg.pageSize := rfl
  intro r hr i hi
  rw [Sample.next, List.mem_append, List.mem_singleton] at hr
  obtain hr | rfl := hr
  · have hbefore := h r hr i hi
    omega
  · have hwindow := covers_readPayload.mp hi
    omega

/-- The scan completes, and has read no more than its budget. Nothing in its state tells that the
sample goes on. -/
theorem scanMapped_promptAnswers
    (hbudget : cfg.maxPages * cfg.pageSize < min total cfg.sampleTarget) (key : String)
    {prior : Option SourceScanState} (hprior : resumeOffset prior = 0) :
    (scanMapped cfg query (promptAnswers cfg total) (.begin key) prior).1.status = .completed ∧
    (scanMapped cfg query (promptAnswers cfg total) (.begin key) prior).1.complete = true ∧
    ∀ r ∈ (scanMapped cfg query (promptAnswers cfg total) (.begin key) prior).2, ∀ i, r.Covers i →
      i < cfg.maxPages * cfg.pageSize := by
  have hpositive : (total : ℤ) ≠ 0 := by omega
  have hcount : (promptAnswers cfg total).count = .returned (some total) := rfl
  have hstart : ({ offset := 0 } : Sample).InWindow cfg 0 := ⟨by simp, by simp⟩
  obtain ⟨s, hs, hoffset⟩ := samplePages_promptAnswers query hbudget (Nat.zero_add cfg.maxPages)
    hstart
  have hbelow : (samplePages cfg query (promptAnswers cfg total) (min (total : ℤ) cfg.sampleTarget)
      cfg.maxPages { offset := 0 }).Holds Sample.Below :=
    holds_samplePages below_next _ _ fun r hr => nomatch hr
  rw [hs] at hbelow
  rw [scanMapped, hcount]
  dsimp only
  rw [if_neg hpositive, scanPaged, hprior, hs]
  refine ⟨rfl, rfl, fun r hr i hi => ?_⟩
  rw [← hoffset]
  exact hbelow r hr i hi

end Budget

/-! ### Sessions -/

section Requeue

/-- A source of a requeued session is pending, or as it was. -/
theorem get_foldl_requeue (session : ScanSession) (keys : List String) (k : String) :
    (keys.foldl ScanSession.requeue session).get k = session.get k ∨
      ∃ st, (keys.foldl ScanSession.requeue session).get k = some st ∧ st.status = .pending := by
  induction keys generalizing session with
  | nil => exact .inl rfl
  | cons key keys ih =>
    rw [List.foldl_cons]
    obtain h | h := ih (session.requeue key)
    · rw [h, get_requeue]
      split
      · exact .inr ⟨_, rfl, rfl⟩
      · exact .inl rfl
    · exact .inr h

end Requeue

section Runs

variable [Text] (cfg : ScanConfig) (source : OdooSource) (total : ℕ)

/-- In this run of the session, the workflow is honest about the source. -/
def HonestRun (t : Tracked) (i : RunInput) : Prop :=
  Honest cfg total (resumeOffset (t.session.get source.key)) (i.answers source.key)

/-- If the source is completed, its sample has been read. -/
def SampleRead (t : Tracked) : Prop :=
  ∀ st, t.session.get source.key = some st → st.status = .completed → st.complete = true →
    min total cfg.sampleTarget ≤ rowsRead source.key total t.reads

/-- In every session of honest runs, a source that is completed has had its sample read. -/
def SamplesRead : Prop :=
  ∀ (projectCode sessionId : String) (first : RunInput) (retries : List Retry),
    Honest cfg total 0 (first.answers source.key) →
    Run.Along (trackedRetry cfg) (fun t r => HonestRun cfg source total t r.toRunInput)
      (trackedScan cfg projectCode sessionId first) retries →
    Run.Throughout (trackedRetry cfg) (SampleRead cfg source total)
      (trackedScan cfg projectCode sessionId first) retries

/-- Some mapping has the id that the source needs. -/
def Mappable : Prop := ∃ (odooConfig : OdooConfig) (projectCode : String)
  (allowedOdooIds : List String) (query : OdooQuery),
    buildSourceQuery source odooConfig projectCode allowedOdooIds = .ok (some query)

variable {cfg source total}

/-- A source that is completed has come to the end of its sample. -/
def SampleReached (cfg : ScanConfig) (source : OdooSource) (total : ℕ) (session : ScanSession) :
    Prop :=
  ∀ st, session.get source.key = some st → st.status = .completed →
    min total cfg.sampleTarget ≤ st.nextOffset

private theorem le_nextOffset_scanResult {odooConfig : OdooConfig} {allowedOdooIds : List String}
    {projectCode : String} {answers : Responses} {prior : Option SourceScanState}
    (hhonest : Honest cfg total (resumeOffset prior) answers)
    (hbudget : min total cfg.sampleTarget ≤ cfg.maxPages * cfg.pageSize ∨ ¬ Mappable source)
    (h : (scanResult cfg odooConfig allowedOdooIds projectCode source answers prior).1.status =
      .completed) :
    min total cfg.sampleTarget ≤
      (scanResult cfg odooConfig allowedOdooIds projectCode source answers prior).1.nextOffset := by
  rw [scanResult] at h ⊢
  split at h
  · next hscan =>
    rcases scanOneSource_eq_ok hscan with ⟨-, rfl⟩ | ⟨query, hquery, rfl⟩
    · simp at h
    · have hmappable : Mappable source := ⟨odooConfig, projectCode, allowedOdooIds, query, hquery⟩
      exact le_nextOffset_of_completed hhonest (hbudget.resolve_right (not_not_intro hmappable)) h
  · simp [engineFailure] at h

/-- A run that is answered honestly, with a budget that holds the sample, brings a completed source
to the end of its sample. -/
private theorem sampleReached_runScanSession {odooConfig : OdooConfig}
    {allowedOdooIds : List String} {answers : String → Responses} {session : ScanSession}
    {keys : List String}
    (hhonest : Honest cfg total (resumeOffset (session.get source.key)) (answers source.key))
    (hbudget : min total cfg.sampleTarget ≤ cfg.maxPages * cfg.pageSize ∨ ¬ Mappable source)
    (hs : source ∈ odooSources) (h : SampleReached cfg source total session) :
    SampleReached cfg source total
      (runScanSession cfg odooConfig allowedOdooIds answers session (sourcesForKeys keys)) := by
  intro st hst hcompleted
  by_cases hmem : source ∈ sourcesForKeys keys
  · rw [get_runScanSession_of_mem (nodup_sourcesForKeys keys) hmem] at hst
    obtain rfl := Option.some.inj hst
    exact le_nextOffset_scanResult hhonest hbudget hcompleted
  · have hkey : source.key ∉ (sourcesForKeys keys).map OdooSource.key := by
      intro hin
      obtain ⟨other, hother, hsame⟩ := List.mem_map.mp hin
      have hnodup : (odooSources.map OdooSource.key).Nodup := by decide
      obtain rfl := List.inj_on_of_nodup_map hnodup (List.mem_filter.mp hother).1 hs hsame
      exact hmem hother
    rw [get_runScanSession_of_notMem hkey] at hst
    exact h st hst hcompleted

omit [Text] in
private theorem sampleReached_retryStart {session : ScanSession}
    (h : SampleReached cfg source total session)
    (mode : String) : SampleReached cfg source total (retryStart session mode).1 := by
  intro st hst hcompleted
  obtain hold | ⟨st', hst', hpending⟩ :=
    get_foldl_requeue session (selectRetryKeys session mode) source.key
  · exact h st (hold ▸ hst) hcompleted
  · obtain rfl := Option.some.inj (hst'.symm.trans hst)
    rw [hpending] at hcompleted
    cases hcompleted

/-- What is carried through the runs of a session. -/
structure Sampled (cfg : ScanConfig) (source : OdooSource) (total : ℕ) (t : Tracked) : Prop where
  readUpTo : ReadUpTo t.session t.reads
  reached : SampleReached cfg source total t.session

/-- After the first scan, a source that is completed has come to the end of its sample. -/
private theorem sampled_trackedScan (hs : source ∈ odooSources)
    (hbudget : min total cfg.sampleTarget ≤ cfg.maxPages * cfg.pageSize ∨ ¬ Mappable source)
    {first : RunInput} (hhonest : Honest cfg total 0 (first.answers source.key))
    (projectCode sessionId : String) :
    Sampled cfg source total (trackedScan cfg projectCode sessionId first) where
  readUpTo := readUpTo_trackedScan projectCode sessionId first
  reached := by
    have hinit : ∀ st, (initFullSession projectCode sessionId).get source.key = some st →
        st.status = .pending ∧ st.nextOffset = 0 := by
      intro st hst
      obtain ⟨_, -, rfl⟩ := List.mem_map.mp (Table.mem_of_lookup hst)
      exact ⟨rfl, rfl⟩
    refine sampleReached_runScanSession ?_ hbudget hs fun st hst hcompleted => ?_
    · cases hget : (initFullSession projectCode sessionId).get source.key with
      | none => exact hhonest
      | some st =>
        rw [resumeOffset, Option.map_some, Option.getD_some, (hinit st hget).2]
        exact hhonest
    · rw [(hinit st hst).1] at hcompleted
      cases hcompleted

private theorem sampled_trackedRetry (hs : source ∈ odooSources)
    (hbudget : min total cfg.sampleTarget ≤ cfg.maxPages * cfg.pageSize ∨ ¬ Mappable source)
    {t : Tracked} {r : Retry} (h : Sampled cfg source total t)
    (hhonest : HonestRun cfg source total t r.toRunInput) :
    Sampled cfg source total (trackedRetry cfg t r) where
  readUpTo := readUpTo_trackedRetry h.readUpTo r
  reached := by
    rw [trackedRetry, retryScan]
    dsimp only
    split
    · exact h.reached
    · refine sampleReached_runScanSession ?_ hbudget hs (sampleReached_retryStart h.reached r.mode)
      rw [HonestRun,
        ← (mark_foldl_requeue t.session (selectRetryKeys t.session r.mode) source.key).2] at hhonest
      exact hhonest

omit [Text] in
/-- What lies below the offset has been read. -/
theorem Sampled.sampleRead {t : Tracked} (h : Sampled cfg source total t) :
    SampleRead cfg source total t := by
  intro st hst hcompleted _
  refine le_rowsRead (Nat.min_le_left _ _) fun i hi => ?_
  exact h.readUpTo source.key st hst i (Nat.lt_of_lt_of_le hi (h.reached st hst hcompleted))

/-- A budget that holds the sample has it read. -/
theorem samplesRead_of_budget (hs : source ∈ odooSources)
    (hbudget : min total cfg.sampleTarget ≤ cfg.maxPages * cfg.pageSize ∨ ¬ Mappable source) :
    SamplesRead cfg source total := by
  intro projectCode sessionId first retries hfirst hretries before after hrun
  rw [hrun] at hretries
  exact (Run.exec_induction (fun t r ht hr => sampled_trackedRetry hs hbudget ht hr)
    (sampled_trackedScan hs hbudget hfirst projectCode sessionId)
    (Run.along_append.mp hretries).1).sampleRead

private theorem key_of_mem_runReads {odooConfig : OdooConfig} {allowedOdooIds : List String}
    {answers : String → Responses} {sources : List OdooSource} {session : ScanSession}
    {x : String × ReadPayload}
    (hx : x ∈ runReads cfg odooConfig allowedOdooIds answers session sources) :
    x.1 ∈ sources.map OdooSource.key := by
  induction sources generalizing session with
  | nil => cases hx
  | cons first sources ih =>
    rw [runReads, List.mem_append, List.mem_map] at hx
    obtain ⟨r, -, rfl⟩ | hlater := hx
    · exact List.mem_cons_self
    · exact List.mem_cons_of_mem _ (ih hlater)

/-- The reads of a run that are of a source are those of its scan. The converse of `mem_runReads`.
-/
theorem of_mem_runReads {odooConfig : OdooConfig} {allowedOdooIds : List String}
    {answers : String → Responses} {sources : List OdooSource}
    (hnodup : (sources.map OdooSource.key).Nodup) (hs : source ∈ sources) (session : ScanSession)
    {r : ReadPayload}
    (hr : (source.key, r) ∈ runReads cfg odooConfig allowedOdooIds answers session sources) :
    r ∈ (scanResult cfg odooConfig allowedOdooIds session.projectCode source (answers source.key)
      (session.get source.key)).2 := by
  induction sources generalizing session with
  | nil => cases hs
  | cons first sources ih =>
    rw [List.map_cons, List.nodup_cons] at hnodup
    rw [runReads, List.mem_append, List.mem_map] at hr
    rcases List.mem_cons.mp hs with rfl | hrest
    · obtain ⟨r', hr', heq⟩ | hlater := hr
      · obtain ⟨-, rfl⟩ := Prod.mk.inj heq
        exact hr'
      · exact absurd (key_of_mem_runReads hlater) hnodup.1
    · have hne : source.key ≠ first.key := fun heq => hnodup.1 (heq ▸ List.mem_map_of_mem hrest)
      obtain ⟨r', -, heq⟩ | hlater := hr
      · exact absurd (Prod.mk.inj heq).1.symm hne
      · have hlast := ih hnodup.2 hrest _ hlater
        rwa [get_scanStep, if_neg hne, projectCode_scanStep] at hlast

/-- One scan of a mapped source completes with its sample unread. The budget is too small for the
sample, and all pages come in time. -/
theorem not_samplesRead (hs : source ∈ odooSources) (hmappable : Mappable source)
    (hbudget : cfg.maxPages * cfg.pageSize < min total cfg.sampleTarget) :
    ¬ SamplesRead cfg source total := by
  intro hall
  obtain ⟨odooConfig, projectCode, allowedOdooIds, query, hquery⟩ := hmappable
  -- the run: a first scan in which every page comes in time and is full
  let first : RunInput := ⟨odooConfig, allowedOdooIds, fun _ => promptAnswers cfg total⟩
  let session := initFullSession projectCode ""
  have hmem : source ∈ sourcesForKeys (odooSources.map (·.key)) :=
    List.mem_filter.mpr ⟨hs, decide_eq_true (List.mem_map_of_mem hs)⟩
  have hcode : session.projectCode = projectCode := rfl
  have hprior : resumeOffset (session.get source.key) = 0 := by
    cases hget : session.get source.key with
    | none => rfl
    | some st =>
      obtain ⟨_, -, rfl⟩ := List.mem_map.mp (Table.mem_of_lookup hget)
      rfl
  obtain ⟨hcompleted, hcomplete, hreads⟩ :=
    scanMapped_promptAnswers query hbudget source.key hprior
  have hresult : scanResult cfg odooConfig allowedOdooIds session.projectCode source
      (promptAnswers cfg total) (session.get source.key) =
        scanMapped cfg query (promptAnswers cfg total) (.begin source.key)
          (session.get source.key) := by
    rw [scanResult, scanOneSource, hcode, hquery]
    rfl
  have hget : (trackedScan cfg projectCode "" first).session.get source.key = some
      (scanMapped cfg query (promptAnswers cfg total) (.begin source.key)
        (session.get source.key)).1 := by
    rw [← hresult]
    exact get_runScanSession_of_mem (nodup_sourcesForKeys _) hmem session
  have hsample := hall projectCode "" first [] (honest_promptAnswers cfg total) trivial [] [] rfl
    _ hget hcompleted hcomplete
  -- it reads no more rows than its page budget allows, and completes
  have hfew : rowsRead source.key total (trackedScan cfg projectCode "" first).reads ≤
      cfg.maxPages * cfg.pageSize := by
    refine rowsRead_le fun r hr i hi => hreads r ?_ i hi
    rw [← hresult]
    exact of_mem_runReads (nodup_sourcesForKeys _) hmem session hr
  exact absurd (hsample.trans hfew) (Nat.not_le_of_lt hbudget)

/-- A completed source has had its sample read, in all sessions, just if the budget of a run holds
the sample, or the source is never queried. With a smaller budget there is a session of one run that
says otherwise. -/
theorem samplesRead_iff (hs : source ∈ odooSources) :
    SamplesRead cfg source total ↔
      min total cfg.sampleTarget ≤ cfg.maxPages * cfg.pageSize ∨ ¬ Mappable source := by
  constructor
  · intro h
    by_contra hnot
    obtain ⟨hbudget, hmappable⟩ := not_or.mp hnot
    exact not_samplesRead hs (not_not.mp hmappable) (Nat.not_le.mp hbudget) h
  · exact samplesRead_of_budget hs

end Runs

section Latin

open Py.Whole

/-- The sources of the registry can be queried. -/
theorem mappable_registry {source : OdooSource} (hs : source ∈ odooSources) : Mappable source := by
  have hpaths : ∀ s ∈ odooSources, (s.model, s.linkPath) ∉ denylistedPaths := by decide
  obtain ⟨n, hn⟩ : ∃ n, resolveLinkValue source (linkConfig "14602" "21963") = .ok (some n) := by
    rw [resolveLinkValue, rawLinkValue]
    cases source.linkScope with
    | project => exact ⟨14602, by rfl⟩
    | analytic => exact ⟨21963, by rfl⟩
  obtain ⟨query, hquery⟩ : ∃ query, buildSourceQuery source (linkConfig "14602" "21963") "PRJ-003"
      ["14602"] = .ok (some query) := by
    rw [buildSourceQuery, assertPathAllowed, if_neg (hpaths source hs), hn]
    exact ⟨_, rfl⟩
  exact ⟨linkConfig "14602" "21963", "PRJ-003", ["14602"], query, hquery⟩

/-- The budget of the defaults holds every sample. -/
theorem samplesRead_defaults : ∃ source ∈ odooSources, source.key = "project_identity" ∧
    SamplesRead {} source 500 := by
  obtain ⟨source, hs, hkey⟩ : ∃ source ∈ odooSources, source.key = "project_identity" := by decide
  exact ⟨source, hs, hkey, (samplesRead_iff hs).mpr (.inl (by decide))⟩

/-- Five pages of ten rows are no sample of 300. -/
theorem not_samplesRead_fivePages : ∃ source ∈ odooSources, source.key = "project_identity" ∧
    ¬ SamplesRead ⟨10, 300, 5, "20"⟩ source 100 := by
  obtain ⟨source, hs, hkey⟩ : ∃ source ∈ odooSources, source.key = "project_identity" := by decide
  exact ⟨source, hs, hkey, not_samplesRead hs (mappable_registry hs) (by decide)⟩

end Latin

end DecisionCenter.Scan
