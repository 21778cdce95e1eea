import DecisionCenter.Py.Runtime
import DecisionCenter.Review.Archive
import DecisionCenter.Review.GateBlocks
import Mathlib.Data.List.Infix

/-!
# Complete publication

Three tables name the files of a report: what node 15 stages, what node 17 copies
(`artifactNames`) and what the API lists (`exportedFormats`) and reads back (`downloadName`). A
final report is complete when each listed format can be read under `final/` with the bytes that
were staged. Node 17 copies the Markdown file only, and a copy that fails is swallowed:
`complete_iff` says that a run keeps its report complete exactly if the report becomes final
only with no other format listed, and after the Markdown file, where it is listed, was copied.

A format is listed where a key of the audit row ends in its suffix, so that the API's list is
computed from texts. For the keys that node 15 writes it is shown that each has the format of
its name (`formatOf?_append`), and that a listed file is downloaded under the name it was staged
under.

`savedPublication` is what node 15 leaves, with any exports, faults of its operations, and
leftovers of an earlier workflow. From there the invariant `Faithful` is kept by every operation
of the review code: the listed formats are staged, only artifacts are copied, and a copy has the
staged bytes.

Completeness then comes down to which files have been copied when the report becomes final
(`Kept.complete_step_iff`), and `complete_iff` has the condition for every step of a run. A
report with a Word file is the failing case: the file is listed, and is not there.
-/

namespace DecisionCenter.Review

open Async

variable {B F : Type}

/-! ### The tables -/

/-- `ExportFormatType` -/
inductive ExportFormat where
  | md
  | docx
  | xlsx
  | pdf
  | pptx
  deriving DecidableEq, Repr

def ExportFormat.toStr : ExportFormat → String
  | .md => "md"
  | .docx => "docx"
  | .xlsx => "xlsx"
  | .pdf => "pdf"
  | .pptx => "pptx"

/-- `filename` in `_download_artifact` -/
def downloadName (fmt : ExportFormat) : String := "executive-decision-report." ++ fmt.toStr

/-- `key.endswith(suffix)` -/
def endsWith (key suffix : String) : Bool := suffix.toList.isSuffixOf key.toList

/-- The format that `_exported_formats` reads off an object key. -/
def formatOf? (key : String) : Option ExportFormat :=
  if endsWith key ".md" && Py.contains key "executive-decision-report" then some .md
  else if endsWith key ".docx" then some .docx
  else if endsWith key ".xlsx" then some .xlsx
  else if endsWith key ".pdf" then some .pdf
  else if endsWith key ".pptx" then some .pptx
  else none

/-- `_exported_formats` -/
def exportedFormats (keys : List String) : List ExportFormat :=
  (keys.filterMap formatOf?).eraseDups

/-! ### The condition and the property -/

namespace Publication

/-- Every format listed for a final report can be read under `final/`, with the bytes of the
staged artifact of that format. -/
def Complete (w : Publication B) : Prop :=
  ∀ row, w.pool.store.audit = some row → row.reviewState = .final →
    ∀ fmt ∈ exportedFormats row.artifactKeys, ∃ bytes,
      w.pool.store.staging (downloadName fmt) = some bytes ∧
      w.pool.store.final (downloadName fmt) = some (.artifact bytes)

/-- The report becomes final only if it lists no format but Markdown, and that file, if it is
listed, has been copied. -/
def FinalizesCopied (w : Publication B) (a : PublicationStep) : Prop :=
  ∀ i row, w.effectiveOp a = some (i, .updateReviewState .final) → w.pool.store.audit = some row →
    ∀ fmt ∈ exportedFormats row.artifactKeys, fmt = .md ∧ downloadName .md ∈ w.copied

end Publication

/-! ### What node 15 leaves -/

/-- The report as `node_15_save_audit` leaves it, started on what an earlier, interrupted
workflow may have staged. Its operations meet the given faults. -/
def savedPublication (env : Env) (state : DecisionState F) (formats : List ExportFormat)
    (drafts : String → B) (faults : Op → Fault Unit) (job : Option Job)
    (staging : String → Option B) : Publication B where
  pool :=
    ⟨((node15SaveAudit env state (formats.map ExportFormat.toStr)).run
      (fun o a => a.perform drafts (faults o) o)
      { Archive.empty with job := job, staging := staging }).2, []⟩
  requests := []
  finalizer := none
  copied := []

section Names

/-- The names under which a finished workflow stages its artifacts. -/
def draftNames : List String :=
  ["evidence-pack.json", "quality-gate-result.json", "report-draft.json", "audit-log.json"] ++
    [ExportFormat.md, .docx, .xlsx, .pdf, .pptx].map downloadName

/-- Whatever node 15 stages has one of the known names. -/
private theorem mem_draftNames_of_mem_stagingArtifacts {state : DecisionState F}
    {formats : List ExportFormat} {name : String}
    (h : name ∈ stagingArtifacts state (formats.map ExportFormat.toStr)) : name ∈ draftNames := by
  have hexport : ∀ fmt, downloadName fmt ∈ draftNames := by
    intro fmt
    cases fmt <;> decide
  have hjson : ∀ n ∈ ["evidence-pack.json", "quality-gate-result.json", "report-draft.json",
      "audit-log.json"], n ∈ draftNames := fun n hn => List.mem_append_left _ hn
  simp only [stagingArtifacts, List.mem_append] at h
  obtain ((h | h) | h) | h := h
  · split at h
    · rw [List.mem_singleton.mp h]
      exact hexport .md
    · rw [List.map_map] at h
      obtain ⟨fmt, -, rfl⟩ := List.mem_map.mp h
      exact hexport fmt
  · exact hjson name (by simp only [List.mem_cons] at h ⊢; tauto)
  · split at h
    · exact hjson name (by simp only [List.mem_cons] at h ⊢; tauto)
    · cases h
  · exact hjson name (by simp only [List.mem_cons] at h ⊢; tauto)

/-- A suffix is looked for at the end only. -/
theorem endsWith_append {pre name suffix : String}
    (h : suffix.toList.length ≤ name.toList.length) :
    endsWith (pre ++ name) suffix = endsWith name suffix := by
  rw [endsWith, endsWith, Bool.eq_iff_iff, List.isSuffixOf_iff_suffix, List.isSuffixOf_iff_suffix,
    String.toList_append]
  constructor
  · exact fun hs => List.suffix_of_suffix_length_le hs (List.suffix_append _ _) h
  · exact fun hs => hs.trans (List.suffix_append _ _)

/-- The key of a staged artifact has the format of its name. -/
theorem formatOf?_append {pre name : String} (hname : name ∈ draftNames) :
    formatOf? (pre ++ name) = formatOf? name := by
  have hlength : ∀ n ∈ draftNames, 5 ≤ n.toList.length := by decide
  have hreport : ∀ n ∈ draftNames, endsWith n ".md" = true →
      Py.contains n "executive-decision-report" = true := by decide
  have hsuffix : ∀ suffix : String, suffix.toList.length ≤ 5 →
      endsWith (pre ++ name) suffix = endsWith name suffix :=
    fun suffix hs => endsWith_append (le_trans hs (hlength name hname))
  have hmd : (endsWith (pre ++ name) ".md" &&
      Py.contains (pre ++ name) "executive-decision-report") =
      (endsWith name ".md" && Py.contains name "executive-decision-report") := by
    rw [hsuffix ".md" (by decide)]
    cases h : endsWith name ".md" with
    | false => rfl
    | true => rw [Py.contains_append (hreport name hname h), hreport name hname h]
  rw [formatOf?, formatOf?, hmd, hsuffix ".docx" (by decide), hsuffix ".xlsx" (by decide),
    hsuffix ".pdf" (by decide), hsuffix ".pptx" (by decide)]

/-- A file is listed as the format under whose name it is downloaded. -/
theorem eq_downloadName_of_formatOf? {name : String} (hname : name ∈ draftNames)
    {fmt : ExportFormat} (h : formatOf? name = some fmt) : name = downloadName fmt := by
  have hall : ∀ n ∈ draftNames, ∀ f ∈ formatOf? n, n = downloadName f := by decide
  exact hall name hname fmt h

end Names

/-- The object key of a staged artifact. -/
def stagingKey (requestId name : String) : String := "staging/" ++ requestId ++ "/" ++ name

/-- Writing one artifact writes its object, or fails. -/
theorem perform_putStaging (drafts : String → B) (fault : Fault Unit) (name : String)
    (a : Archive B) :
    ∃ res b, a.perform drafts fault (.putStaging name) = (res, b) ∧
      b.final = a.final ∧ b.audit = a.audit ∧
      (∀ n, (a.staging n).isSome = true → (b.staging n).isSome = true) ∧
      (res = some () → (b.staging name).isSome = true) := by
  cases fault with
  | before _ => exact ⟨none, a, rfl, rfl, rfl, fun _ h => h, nofun⟩
  | after _ =>
    exact ⟨none, _, rfl, rfl, rfl, fun _ h => Archive.isSome_update.mpr (.inl h), nofun⟩
  | none =>
    exact ⟨some (), _, rfl, rfl, rfl, fun _ h => Archive.isSome_update.mpr (.inl h),
      fun _ => Archive.isSome_update.mpr (.inr rfl)⟩

/-- Writing artifacts touches nothing but `staging/`, removes nothing there, and returns keys of
objects that are there. -/
theorem run_putArtifacts (requestId : String) (drafts : String → B) (faults : Op → Fault Unit)
    (names : List String) (a : Archive B) :
    ∃ keys a', (putArtifacts requestId names).run (fun o s => s.perform drafts (faults o) o) a =
        (keys, a') ∧
      a'.final = a.final ∧ a'.audit = a.audit ∧
      (∀ name, (a.staging name).isSome = true → (a'.staging name).isSome = true) ∧
      ∀ key ∈ keys, ∃ name ∈ names, key = stagingKey requestId name ∧
        (a'.staging name).isSome = true := by
  induction names generalizing a with
  | nil => exact ⟨[], a, rfl, rfl, rfl, fun _ h => h, nofun⟩
  | cons name names ih =>
    obtain ⟨res, b, hput, hfinal, haudit, hkept, hnew⟩ :=
      perform_putStaging drafts (faults (.putStaging name)) name a
    obtain ⟨keys, a', hrun, hfinal', haudit', hkept', hkeys⟩ := ih b
    have hrest : ∀ key ∈ keys, ∃ n ∈ name :: names, key = stagingKey requestId n ∧
        (a'.staging n).isSome = true := by
      intro key hkey
      obtain ⟨n, hn, hrest⟩ := hkeys key hkey
      exact ⟨n, List.mem_cons_of_mem _ hn, hrest⟩
    -- a write that fails is left out of the keys
    cases res with
    | none =>
      refine ⟨keys, a', ?_, hfinal'.trans hfinal, haudit'.trans haudit,
        fun n h => hkept' n (hkept n h), hrest⟩
      rw [putArtifacts, Task.run_op, hput, Task.run_bind', hrun, Task.run_ret]
    | some u =>
      refine ⟨stagingKey requestId name :: keys, a', ?_, hfinal'.trans hfinal,
        haudit'.trans haudit, fun n h => hkept' n (hkept n h), ?_⟩
      · rw [putArtifacts, Task.run_op, hput, Task.run_bind', hrun, Task.run_ret]
        rfl
      · intro key hkey
        obtain rfl | hkey := List.mem_cons.mp hkey
        · exact ⟨name, List.mem_cons_self, rfl, hkept' name (hnew rfl)⟩
        · exact hrest key hkey

/-- What a listed format has under `staging/`. -/
def Listed (a : Archive B) : Prop :=
  ∀ row, a.audit = some row → ∀ fmt ∈ exportedFormats row.artifactKeys,
    (a.staging (downloadName fmt)).isSome = true

/-- Node 15 lists what it has staged, and writes nothing under `final/`. What could not be staged is
not listed, and the row is inserted last. -/
theorem savedPublication_spec (env : Env) (state : DecisionState F) (formats : List ExportFormat)
    (drafts : String → B) (faults : Op → Fault Unit) (job : Option Job)
    (staging : String → Option B) :
    let a := (savedPublication env state formats drafts faults job staging).pool.store
    Listed a ∧ (∀ name, a.final name = none) ∧ a.reviewState? ≠ some .final := by
  obtain ⟨keys, a, hrun, hfinal, haudit, -, hkeys⟩ :=
    run_putArtifacts state.requestId drafts faults
      (stagingArtifacts state (formats.map ExportFormat.toStr))
      { Archive.empty with job := job, staging := staging }
  have hstore : (savedPublication env state formats drafts faults job staging).pool.store =
      (a.perform drafts (faults (.insertAudit (savedRow env state keys)))
        (.insertAudit (savedRow env state keys))).2 := by
    rw [savedPublication, node15SaveAudit, Task.run_bind', hrun]
    rfl
  -- every key that is listed belongs to an object that was staged
  have hlisted : ∀ fmt ∈ exportedFormats keys, (a.staging (downloadName fmt)).isSome = true := by
    intro fmt hfmt
    obtain ⟨key, hkey, hof⟩ := List.mem_filterMap.mp (List.mem_eraseDups.mp hfmt)
    obtain ⟨name, hname, rfl, hstaged⟩ := hkeys key hkey
    have hdraft : name ∈ draftNames := mem_draftNames_of_mem_stagingArtifacts hname
    rw [stagingKey, formatOf?_append hdraft] at hof
    rw [← eq_downloadName_of_formatOf? hdraft hof]
    exact hstaged
  dsimp only
  rw [hstore, Archive.perform_snd]
  split
  -- the insert of the row lands, or fails and leaves no row
  · refine ⟨?_, fun name => congrFun hfinal name, by rintro ⟨⟩⟩
    rintro row ⟨⟩
    exact hlisted
  · have hnone : a.audit = none := haudit
    refine ⟨fun row hrow => ?_, fun name => congrFun hfinal name, ?_⟩
    · rw [hnone] at hrow
      cases hrow
    · rw [Archive.reviewState?, hnone]
      rintro ⟨⟩

/-! ### The invariant -/

namespace Publication

variable {env : Env} {requestId : String} {drafts : String → B} {w : Publication B}

/-- The listed formats are staged, only artifacts are copied, and what has been copied, and no
other artifact, is under `final/` as it is staged. -/
structure Faithful (a : Archive B) (done : List String) : Prop where
  listed : Listed a
  names : ∀ name ∈ done, name ∈ artifactNames
  copied : ∀ name ∈ done, ∀ bytes, a.staging name = some bytes →
    a.final name = some (.artifact bytes)
  artifacts : ∀ name bytes, a.final name = some (.artifact bytes) →
    name ∈ done ∧ a.staging name = some bytes
  logs : ∀ name l, a.final name = some (.log l) → name = approvalLogName

variable {a a' : Archive B} {done : List String}

private theorem Faithful.of_objects (h : Faithful a done) (hlisted : Listed a')
    (hstaging : a'.staging = a.staging) (hfinal : a'.final = a.final) : Faithful a' done := by
  refine ⟨hlisted, h.names, ?_, ?_, ?_⟩
  · rw [hstaging, hfinal]
    exact h.copied
  · rw [hstaging, hfinal]
    exact h.artifacts
  · rw [hfinal]
    exact h.logs

/-- A copy of an artifact has the staged bytes. Where the name is there already, the copy fails and
leaves what there is. -/
theorem Faithful.copyToFinal (h : Faithful a done) {filename : String}
    (hname : filename ∈ artifactNames) :
    Faithful (a.effect drafts (.copyToFinal filename)).2 (filename :: done) := by
  have hlog : filename ≠ approvalLogName := by
    rintro rfl
    revert hname
    decide
  have hnames : ∀ name ∈ filename :: done, name ∈ artifactNames := by
    intro name hmem
    obtain rfl | hmem := List.mem_cons.mp hmem
    · exact hname
    · exact h.names name hmem
  simp only [Archive.effect]
  cases hfinal : a.final filename with
  | some c =>
    -- The object is there already, with the staged bytes.
    rw [Option.isSome_some, if_pos rfl]
    refine ⟨h.listed, hnames, fun name hmem bytes hbytes => ?_, fun name bytes hc => ?_, h.logs⟩
    · obtain rfl | hmem := List.mem_cons.mp hmem
      · cases c with
        | artifact b =>
          have hb := (h.artifacts name b hfinal).2
          rw [hfinal, Option.some.inj (hb.symm.trans hbytes)]
        | log l => exact absurd (h.logs name l hfinal) hlog
      · exact h.copied name hmem bytes hbytes
    · obtain ⟨hmem, hbytes⟩ := h.artifacts name bytes hc
      exact ⟨List.mem_cons_of_mem _ hmem, hbytes⟩
  | none =>
    rw [Option.isSome_none, if_neg Bool.false_ne_true]
    cases hstaging : a.staging filename with
    | none =>
      refine ⟨h.listed, hnames, fun name hmem bytes hbytes => ?_, fun name bytes hc => ?_, h.logs⟩
      · obtain rfl | hmem := List.mem_cons.mp hmem
        · cases hstaging.symm.trans hbytes
        · exact h.copied name hmem bytes hbytes
      · obtain ⟨hmem, hbytes⟩ := h.artifacts name bytes hc
        exact ⟨List.mem_cons_of_mem _ hmem, hbytes⟩
    | some b =>
      refine ⟨h.listed, hnames, fun name hmem bytes hbytes => ?_, fun name bytes hc => ?_,
        fun name l hc => ?_⟩
      · obtain rfl | hmem := List.mem_cons.mp hmem
        · obtain rfl : b = bytes := Option.some.inj (hstaging.symm.trans hbytes)
          exact a.final_putFinal_self name _
        · exact Archive.final_putFinal_of_new hfinal _ (h.copied name hmem bytes hbytes)
      · obtain rfl | hne := eq_or_ne name filename
        · rw [a.final_putFinal_self] at hc
          cases hc
          exact ⟨List.mem_cons_self, hstaging⟩
        · rw [a.final_putFinal_of_ne hne] at hc
          obtain ⟨hmem, hbytes⟩ := h.artifacts name bytes hc
          exact ⟨List.mem_cons_of_mem _ hmem, hbytes⟩
      · obtain rfl | hne := eq_or_ne name filename
        · rw [a.final_putFinal_self] at hc
          cases hc
        · rw [a.final_putFinal_of_ne hne] at hc
          exact h.logs name l hc

/-- The approval log is no artifact, so that writing it changes no copy. -/
theorem Faithful.putApprovalLog (h : Faithful a done) (log : ApprovalLog) :
    Faithful (a.putFinal approvalLogName (.log log)) done := by
  have hne : ∀ name ∈ done, name ≠ approvalLogName := by
    rintro name hmem rfl
    have hname := h.names _ hmem
    revert hname
    decide
  refine ⟨h.listed, h.names, fun name hmem bytes hbytes => ?_, fun name bytes hc => ?_,
    fun name l hc => ?_⟩
  · rw [a.final_putFinal_of_ne (hne name hmem)]
    exact h.copied name hmem bytes hbytes
  · obtain rfl | hname := eq_or_ne name approvalLogName
    · rw [a.final_putFinal_self] at hc
      cases hc
    · rw [a.final_putFinal_of_ne hname] at hc
      exact h.artifacts name bytes hc
  · obtain rfl | hname := eq_or_ne name approvalLogName
    · rfl
    · rw [a.final_putFinal_of_ne hname] at hc
      exact h.logs name l hc

/-- A change of the review state changes no listed format. -/
theorem listed_setReviewState (h : Listed a) (s : ReviewState) : Listed (a.setReviewState s) := by
  intro row hrow
  obtain ⟨row', hrow', rfl⟩ := Option.map_eq_some_iff.mp hrow
  exact h row' hrow'

/-- Every operation of the review code keeps the objects faithful. -/
theorem Faithful.effect (h : Faithful a w.copied) {o : Op} (ho : o.ofReview = true) (i : ℕ) :
    Faithful (a.effect drafts o).2 (w.copiedAfter (some (i, o))) := by
  cases o with
  | insertAudit row => cases ho
  | putStaging name => cases ho
  | copyToFinal name => exact h.copyToFinal (of_decide_eq_true ho)
  | putApprovalLog log => exact h.putApprovalLog log
  | updateReviewState s => exact h.of_objects (listed_setReviewState h.listed s) rfl rfl
  | _ => exact h.of_objects h.listed rfl rfl

/-- What holds of every state of a run. -/
structure Kept (w : Publication B) : Prop where
  tasks : ∀ t ∈ w.pool.tasks, t.Always (·.ofReview = true) fun _ => True
  faithful : Faithful w.pool.store w.copied

/-- Every step keeps the objects faithful. Of the operations of the review code only the two above
write under `final/`. -/
theorem Kept.step (h : Kept w) (a : PublicationStep) :
    Kept (publicationStep env requestId drafts w a) := by
  refine ⟨fun t ht => ?_, ?_⟩
  · cases a with
    | arrive req =>
      obtain ht | ht := List.mem_append.mp ht
      · exact h.tasks t ht
      · rw [List.mem_singleton.mp ht]
        exact req.ofReview_handle
    | perform i fault => exact Pool.always_step _ h.tasks i t ht
    | crash =>
      obtain ⟨u, -, rfl⟩ := List.mem_map.mp ht
      trivial
  · change Faithful _ (w.copiedAfter (w.effectiveOp a))
    rw [store_publicationStep]
    cases heff : w.effectiveOp a with
    | none => exact h.faithful
    | some op =>
      obtain ⟨i, o⟩ := op
      obtain ⟨_, next, -, -, hget⟩ := effectiveOp_eq_some heff
      exact h.faithful.effect (h.tasks _ (List.mem_of_getElem? hget)).1 i

/-! ### Steps -/

/-- A listed format can be read exactly if its file has been copied. -/
theorem Kept.iff_complete (h : Kept w) :
    Complete w ↔ ∀ row, w.pool.store.audit = some row → row.reviewState = .final →
      ∀ fmt ∈ exportedFormats row.artifactKeys, downloadName fmt ∈ w.copied := by
  constructor
  · intro hc row hrow hfinal fmt hfmt
    obtain ⟨bytes, -, hobject⟩ := hc row hrow hfinal fmt hfmt
    exact (h.faithful.artifacts _ bytes hobject).1
  · intro hc row hrow hfinal fmt hfmt
    obtain ⟨bytes, hbytes⟩ := Option.isSome_iff_exists.mp (h.faithful.listed row hrow fmt hfmt)
    exact ⟨bytes, hbytes, h.faithful.copied _ (hc row hrow hfinal fmt hfmt) bytes hbytes⟩

/-- The only format whose file node 17 copies. -/
theorem eq_md_of_mem_artifactNames {fmt : ExportFormat} (h : downloadName fmt ∈ artifactNames) :
    fmt = .md := by
  revert h
  cases fmt <;> decide

private theorem copied_subset_copiedAfter (w : Publication B) (op : Option (ℕ × Op)) :
    w.copied ⊆ w.copiedAfter op := by
  unfold copiedAfter
  split
  · exact List.subset_cons_self _ _
  · exact fun _ h => h

/-- A row after an effective operation of the review code lists what it listed before, and is
final only if it was or is made so. -/
theorem audit_effect {o : Op} (ho : o.ofReview = true) {row' : AuditRow}
    (hrow' : (a.effect drafts o).2.audit = some row') :
    ∃ row, a.audit = some row ∧ row'.artifactKeys = row.artifactKeys ∧
      (row'.reviewState = .final → row.reviewState = .final ∨ o = .updateReviewState .final) := by
  cases o with
  | insertAudit row => cases ho
  | updateReviewState s =>
    obtain ⟨row, hrow, rfl⟩ := Option.map_eq_some_iff.mp hrow'
    exact ⟨row, hrow, rfl, fun hs => .inr (congrArg Op.updateReviewState hs)⟩
  | copyToFinal name =>
    obtain h | ⟨bytes, -, -, h⟩ := a.final_copyToFinal drafts name
    · rw [h] at hrow'
      exact ⟨row', hrow', rfl, .inl⟩
    · rw [h] at hrow'
      exact ⟨row', hrow', rfl, .inl⟩
  | _ => exact ⟨row', hrow', rfl, .inl⟩

/-- A step keeps a report complete exactly if it does not finalize it too early. Any other operation
leaves the state of the row or the copies as they are. -/
theorem Kept.complete_step_iff (h : Kept w) (hc : Complete w) (a : PublicationStep) :
    Complete (publicationStep env requestId drafts w a) ↔ FinalizesCopied w a := by
  rw [h.iff_complete] at hc
  rw [(h.step a).iff_complete, store_publicationStep]
  change (∀ row, _ → _ → ∀ fmt ∈ _, _ ∈ w.copiedAfter (w.effectiveOp a)) ↔ _
  rw [FinalizesCopied]
  cases heff : w.effectiveOp a with
  | none => exact iff_of_true hc nofun
  | some op =>
    obtain ⟨i, o⟩ := op
    obtain ⟨_, next, -, -, hget⟩ := effectiveOp_eq_some heff
    have ho : o.ofReview = true := (h.tasks _ (List.mem_of_getElem? hget)).1
    constructor
    · rintro hafter j row ⟨⟩ hrow fmt hfmt
      have hmem : downloadName fmt ∈ w.copied :=
        hafter { row with reviewState := .final } (congrArg (Option.map _) hrow) rfl fmt hfmt
      obtain rfl := eq_md_of_mem_artifactNames (h.faithful.names _ hmem)
      exact ⟨rfl, hmem⟩
    · intro hbefore row' hrow' hfinal fmt hfmt
      obtain ⟨row, hrow, hkeys, hstate⟩ := audit_effect ho hrow'
      rw [hkeys] at hfmt
      refine copied_subset_copiedAfter w _ ?_
      obtain hfinal' | rfl := hstate hfinal
      · exact hc row hrow hfinal' fmt hfmt
      · obtain ⟨rfl, hmem⟩ := hbefore i row rfl hrow fmt hfmt
        exact hmem

end Publication

/-! ### Runs -/

/-- However a report was saved, with whatever exports, and whatever requests arrive and interleave,
fail or are cut off: the report is complete whenever it is final exactly if each update that makes
it final finds no format but Markdown listed, and that file copied. Node 17 copies no other file, so
that a listed one is missing for good. -/
theorem complete_iff (env : Env) (state : DecisionState F) (formats : List ExportFormat)
    (drafts : String → B) (faults : Op → Fault Unit) (job : Option Job)
    (staging : String → Option B) (run : List PublicationStep) :
    Run.Throughout (publicationStep env state.requestId drafts) Publication.Complete
        (savedPublication env state formats drafts faults job staging) run ↔
      Run.Along (publicationStep env state.requestId drafts) Publication.FinalizesCopied
        (savedPublication env state formats drafts faults job staging) run := by
  obtain ⟨hlisted, hfinal, hstate⟩ :=
    savedPublication_spec env state formats drafts faults job staging
  have hkept : (savedPublication env state formats drafts faults job staging).Kept := by
    refine ⟨nofun, hlisted, nofun, nofun, fun name bytes hc => ?_, fun name l hc => ?_⟩
    · rw [hfinal name] at hc
      cases hc
    · rw [hfinal name] at hc
      cases hc
  have hcomplete : (savedPublication env state formats drafts faults job staging).Complete := by
    intro row hrow hs
    rw [Archive.reviewState?, hrow] at hstate
    exact absurd (congrArg some hs) hstate
  exact Run.throughout_iff_along (fun w a h => h.step a)
    (fun w a h hc => h.complete_step_iff hc a) hkept hcomplete run

/-- A report that passed the gate and is exported to Word too, as node 15 leaves it. -/
def wordReport : Publication String :=
  savedPublication bypassEnv
    { failedWorkflow with
      outputs := { Outputs.empty with intent := ["financial"], qualityGate := some .passed } }
    [.md, .docx] id (fun _ => .none) none fun _ => none

/-- A finance reviewer approves, and every operation succeeds. -/
def approval : List PublicationStep :=
  .arrive (.approve (some ⟨"reviewer", some "finance"⟩) none) ::
    List.replicate 12 (.perform 0 .none)

/-- The Word file of the final report is listed and not there. -/
theorem not_complete_wordReport :
    ¬ Run.Throughout (publicationStep bypassEnv "r1" id) Publication.Complete wordReport
      approval := by
  intro h
  obtain ⟨bytes, -, hbytes⟩ := h approval [] rfl
    ⟨"requester", some "P1", .passed, .final, true,
      [stagingKey "r1" "executive-decision-report.md",
        stagingKey "r1" "executive-decision-report.docx", stagingKey "r1" "evidence-pack.json",
        stagingKey "r1" "quality-gate-result.json", stagingKey "r1" "audit-log.json"]⟩
    (by decide +kernel) rfl .docx (by decide +kernel)
  have hnone : (Run.exec (publicationStep bypassEnv "r1" id) wordReport
      approval).pool.store.final (downloadName .docx) = none := by decide +kernel
  rw [hnone] at hbytes
  cases hbytes

end DecisionCenter.Review
