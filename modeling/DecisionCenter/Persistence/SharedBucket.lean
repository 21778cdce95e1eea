import DecisionCenter.Persistence.ObjectStore
import DecisionCenter.Review.Archive

/-!
# One bucket for all reports

The review code and node 15 work on the objects of one request each, and an `Archive` has the
objects of one request. In the store all of them share one bucket with each other and with the
uploads. Whatever operations of whatever requests follow one another, also such that raise
before or after their effect, the bucket shows every request its own archive, as if it were
alone: the copies return the same, and the objects under `final/` are the bytes of the archive,
the approval log included.

This is a refinement. `Shows` relates a bucket to the archive of one request: under the keys of
the request there are the bytes of the archive's objects, and nothing where it has none.
`Encodes` says which bytes those are, and for the approval log they are those of a JSON
document.

An access of the request itself does the same on both levels, to the objects and in what it
returns (`shows_effect`); an access of another request, or an upload, has keys of its own and
shows nothing (`shows_effect_of_ne`). Both rest on the keys of `Persistence.ObjectStore`, so
that file names have to be plain, as all of them are.

By induction on the run, the bucket shows what the own accesses alone have made of the archive.
`actsAs_exec` states this for every request and every run with faults; what is proved of
archives in `Review` thus holds in the store.
-/

namespace DecisionCenter.Persistence

open Async Py Review

section Shared

variable {F : Type} (codec : JsonCodec F)

/-- The content of `approval-log.json`. -/
def approvalLogJson (requestId approvedAt : String) (log : ApprovalLog) : Dict F :=
  [("request_id", .str requestId), ("approved_at", .str approvedAt),
    ("approver_id_hash", .str log.approverIdHash), ("approval_action", .str log.approvalAction),
    ("approval_comment", log.approvalComment.elim .null .str),
    ("staging_artifact_keys", .list (log.stagingArtifactKeys.map .str)),
    ("final_artifact_keys", .list (log.finalArtifactKeys.map .str))]

/-- The log holds nothing but texts and lists of texts, and is read back. -/
theorem storable_approvalLogJson (requestId approvedAt : String) (log : ApprovalLog) :
    Storable codec (approvalLogJson requestId approvedAt log) := by
  have htexts (texts : List String) : JsonText.Readable (.indented 2 codec.floatText)
      codec.dialect (.list (texts.map .str)) := by
    refine .list fun x hx => ?_
    obtain ⟨s, -, rfl⟩ := List.mem_map.mp hx
    exact .str s
  refine .dict (by simp [approvalLogJson]) fun kv hkv => ?_
  simp only [approvalLogJson, List.mem_cons, List.not_mem_nil, or_false] at hkv
  rcases hkv with rfl | rfl | rfl | rfl | rfl | rfl | rfl
  · exact .str _
  · exact .str _
  · exact .str _
  · exact .str _
  · cases log.approvalComment with
    | none => exact .null
    | some comment => exact .str comment
  · exact htexts _
  · exact htexts _

/-! ### The steps -/

/-- What happens to the bucket: an operation for a request, or an upload. A write of the approval
log has the time that goes into it. -/
inductive Access where
  | review (requestId : String) (fault : Fault Unit) (o : Op) (approvedAt : String)
  | upload (userIdHash uploadId filename : String) (data : ByteArray)

/-- The file name of an operation has no slash. -/
def PlainOp : Op → Prop
  | .putStaging filename => Plain filename
  | .copyToFinal filename => Plain filename
  | _ => True

/-- The file names are plain. -/
def Access.Named : Access → Prop
  | .review _ _ o _ => PlainOp o
  | .upload _ _ _ _ => True

variable (drafts : String → String → ByteArray)

/-- What an operation does to the bucket when it does not raise; `drafts` are the bytes that node
15 has for each request and file name. -/
def Bucket.effect (requestId approvedAt : String) (b : Bucket) : Op → Bucket
  | .putStaging filename =>
    b.put (objectName .staging requestId filename) (drafts requestId filename)
  | .copyToFinal filename => b.copyToFinal requestId filename
  | .putApprovalLog log =>
    b.put (objectName .final requestId approvalLogName)
      (jsonBytes codec (approvalLogJson requestId approvedAt log))
  | _ => b

/-- What a copy returns; `none` where it fails. -/
def Bucket.copied (requestId filename : String) (b : Bucket) : Option Copied :=
  if b.exists? .final requestId filename then some .exists
  else (b (objectName .staging requestId filename)).map fun _ => .written

/-- A step on the bucket. -/
def Access.onBucket (b : Bucket) : Access → Bucket
  | .review requestId fault o approvedAt =>
    if fault.effective then b.effect codec drafts requestId approvedAt o else b
  | .upload userIdHash uploadId filename data =>
    b.put (uploadName userIdHash uploadId filename) data

/-! ### What the bucket shows of a request -/

/-- The bytes are those of the content. -/
def Encodes (requestId : String) (bytes : ByteArray) : Content ByteArray → Prop
  | .artifact data => bytes = data
  | .log log => ∃ approvedAt, bytes = jsonBytes codec (approvalLogJson requestId approvedAt log)

/-- The bucket has the objects of the archive under the keys of its request. -/
structure Shows (requestId : String) (b : Bucket) (a : Archive ByteArray) : Prop where
  staging : ∀ name, Plain name → b (objectName .staging requestId name) = a.staging name
  final : ∀ name, Plain name →
    Option.Rel (Encodes codec requestId) (b (objectName .final requestId name)) (a.final name)

variable {codec drafts} {requestId : String} {b : Bucket} {a : Archive ByteArray}

/-- A write elsewhere shows nothing. -/
theorem Shows.put_elsewhere (h : Shows codec requestId b a) {key : String}
    (hkey : ∀ area name, Plain name → objectName area requestId name ≠ key) (data : ByteArray) :
    Shows codec requestId (b.put key data) a where
  staging name hname := by rw [b.put_of_ne (hkey .staging name hname), h.staging name hname]
  final name hname := by
    rw [b.put_of_ne (hkey .final name hname)]
    exact h.final name hname

private theorem Shows.put_staging (h : Shows codec requestId b a) {filename : String}
    (hplain : Plain filename) (data : ByteArray) :
    Shows codec requestId (b.put (objectName .staging requestId filename) data)
      { a with staging := Function.update a.staging filename (some data) } where
  staging name hname := by
    dsimp only
    by_cases heq : name = filename
    · rw [heq, b.put_self, Function.update_self]
    · rw [b.put_of_ne fun hkey => heq (objectName_inj hname hplain hkey).2.2,
        Function.update_of_ne heq, h.staging name hname]
  final name hname := by
    rw [b.put_of_ne fun hkey => absurd (objectName_inj hname hplain hkey).1 (by decide)]
    exact h.final name hname

private theorem Shows.put_final (h : Shows codec requestId b a) {filename : String}
    (hplain : Plain filename) {data : ByteArray} {c : Content ByteArray}
    (hdata : Encodes codec requestId data c) :
    Shows codec requestId (b.put (objectName .final requestId filename) data)
      (a.putFinal filename c) where
  staging name hname := by
    rw [b.put_of_ne fun hkey => absurd (objectName_inj hname hplain hkey).1 (by decide)]
    exact h.staging name hname
  final name hname := by
    by_cases heq : name = filename
    · rw [heq, b.put_self, a.final_putFinal_self]
      exact .some hdata
    · rw [b.put_of_ne fun hkey => heq (objectName_inj hname hplain hkey).2.2,
        a.final_putFinal_of_ne heq]
      exact h.final name hname

/-- An object exists in the bucket just if it does in the archive. -/
theorem Shows.exists?_final (h : Shows codec requestId b a) {name : String} (hname : Plain name) :
    b.exists? .final requestId name = (a.final name).isSome := by
  have hrel := h.final name hname
  rw [Bucket.exists?]
  generalize b (objectName .final requestId name) = bytes at hrel ⊢
  generalize a.final name = content at hrel ⊢
  cases hrel with
  | none => rfl
  | some _ => rfl

/-- A copy returns the same on both levels. -/
theorem Shows.copied (h : Shows codec requestId b a) {filename : String}
    (hplain : Plain filename) :
    b.copied requestId filename = (a.effect (drafts requestId) (.copyToFinal filename)).1 := by
  rw [Bucket.copied, h.exists?_final hplain, h.staging filename hplain, Archive.effect]
  split
  · rfl
  · cases a.staging filename <;> rfl

private theorem shows_copyToFinal (h : Shows codec requestId b a) {filename : String}
    (hplain : Plain filename) :
    Shows codec requestId (b.copyToFinal requestId filename)
      (a.effect (drafts requestId) (.copyToFinal filename)).2 := by
  rw [Bucket.copyToFinal, h.exists?_final hplain, h.staging filename hplain, Archive.effect]
  split
  · exact h
  · cases a.staging filename with
    | none => exact h
    | some data => exact h.put_final hplain rfl

/-- An operation does the same to the bucket, as far as its request sees it, as to the archive. -/
theorem shows_effect (h : Shows codec requestId b a) {o : Op} (ho : PlainOp o)
    (approvedAt : String) :
    Shows codec requestId (b.effect codec drafts requestId approvedAt o)
      (a.effect (drafts requestId) o).2 := by
  have hsame {a' : Archive ByteArray} (hstaging : a'.staging = a.staging)
      (hfinal : a'.final = a.final) : Shows codec requestId b a' :=
    ⟨fun name hname => by rw [hstaging, h.staging name hname],
      fun name hname => by rw [hfinal]; exact h.final name hname⟩
  cases o with
  | putStaging filename => exact h.put_staging ho _
  | copyToFinal filename => exact shows_copyToFinal h ho
  | putApprovalLog log => exact h.put_final (by decide) ⟨approvedAt, rfl⟩
  | _ => exact hsame rfl rfl

/-- An operation for another request shows nothing. The keys of the two requests differ, since a
plain file name has no separator. -/
theorem shows_effect_of_ne (h : Shows codec requestId b a) {other : String}
    (hne : requestId ≠ other) {o : Op} (ho : PlainOp o) (approvedAt : String) :
    Shows codec requestId (b.effect codec drafts other approvedAt o) a := by
  have helsewhere {filename : String} (hplain : Plain filename) (area area' : Area) (name : String)
      (hname : Plain name) : objectName area' requestId name ≠ objectName area other filename :=
    fun hkey => hne (objectName_inj hname hplain hkey).2.1
  cases o with
  | putStaging filename => exact h.put_elsewhere (helsewhere ho .staging) _
  | putApprovalLog log =>
    exact h.put_elsewhere (@helsewhere approvalLogName (by decide) .final) _
  | copyToFinal filename =>
    change Shows codec requestId (b.copyToFinal other filename) a
    rw [Bucket.copyToFinal]
    split
    · exact h
    · cases b (objectName .staging other filename) with
      | none => exact h
      | some data => exact h.put_elsewhere (helsewhere ho .final) _
  | _ => exact h

/-! ### Runs -/

/-- What a step does for a request. -/
def Access.own (requestId : String) : Access → Option (Fault Unit × Op)
  | .review other fault o _ => if other = requestId then some (fault, o) else none
  | .upload _ _ _ _ => none

/-- The operations of a request, one after another, on its archive. -/
def alone (drafts : String → String → ByteArray) (requestId : String) (a : Archive ByteArray)
    (ops : List (Fault Unit × Op)) : Archive ByteArray :=
  Run.exec (fun a x => (a.perform (drafts requestId) x.1 x.2).2) a ops

variable (drafts) in
/-- A step keeps what the bucket shows of a request. Uploads have keys of their own, and the
operations of other requests those of other requests. -/
theorem shows_step (h : Shows codec requestId b a) {x : Access} (hx : x.Named) :
    Shows codec requestId (x.onBucket codec drafts b)
      (alone drafts requestId a (x.own requestId).toList) := by
  cases x with
  | upload userIdHash uploadId filename data =>
    exact h.put_elsewhere (fun area name _ => (uploadName_ne_objectName _ _ _ _ _ _).symm) _
  | review other fault o approvedAt =>
    by_cases hother : other = requestId
    · subst hother
      have hown : (Access.review other fault o approvedAt).own other = some (fault, o) := if_pos rfl
      rw [hown]
      change Shows codec other (if fault.effective then _ else _)
        (a.perform (drafts other) fault o).2
      rw [Archive.perform_snd]
      split
      · exact shows_effect h hx approvedAt
      · exact h
    · have hown : (Access.review other fault o approvedAt).own requestId = none := if_neg hother
      rw [hown]
      change Shows codec requestId (if fault.effective then _ else _) a
      split
      · exact shows_effect_of_ne h (Ne.symm hother) hx approvedAt
      · exact h

variable (drafts) in
/-- After any run the bucket shows a request what its own operations have made of its archive. -/
theorem shows_exec (h : Shows codec requestId b a) {run : List Access} (hrun : ∀ x ∈ run, x.Named) :
    Shows codec requestId (Run.exec (Access.onBucket codec drafts) b run)
      (alone drafts requestId a (run.filterMap (Access.own requestId))) := by
  induction run generalizing b a with
  | nil => exact h
  | cons x run ih =>
    have hstep := ih (shows_step drafts h (hrun x List.mem_cons_self))
      fun y hy => hrun y (List.mem_cons_of_mem x hy)
    rw [Run.exec_cons]
    cases hown : x.own requestId with
    | none =>
      rw [hown] at hstep
      rwa [List.filterMap_cons_none hown]
    | some op =>
      rw [hown] at hstep
      rwa [List.filterMap_cons_some hown]

/-- The approval log that the archive has is loaded from the bucket. -/
theorem Shows.load_approvalLog (h : Shows codec requestId b a) {log : ApprovalLog}
    (hlog : a.final approvalLogName = some (.log log)) :
    ∃ approvedAt, loadJsonArtifact codec b requestId approvalLogName .final =
      approvalLogJson requestId approvedAt log := by
  have hrel := h.final approvalLogName (by decide)
  rw [hlog] at hrel
  rw [loadJsonArtifact]
  generalize b (objectName .final requestId approvalLogName) = bytes at hrel ⊢
  cases hrel with
  | some hdata =>
    obtain ⟨approvedAt, rfl⟩ := hdata
    exact ⟨approvedAt, parseJson_jsonBytes (storable_approvalLogJson codec _ _ _)⟩

variable (codec drafts) in
/-- The bucket is to a request what its own archive would be. -/
structure ActsAs (requestId : String) (b : Bucket) (a : Archive ByteArray) : Prop where
  shows : Shows codec requestId b a
  copied : ∀ filename, Plain filename →
    b.copied requestId filename = (a.effect (drafts requestId) (.copyToFinal filename)).1
  log : ∀ log, a.final approvalLogName = some (.log log) →
    ∃ approvedAt, loadJsonArtifact codec b requestId approvalLogName .final =
      approvalLogJson requestId approvedAt log

/-- Whatever other requests and uploads do, the bucket is to a request what its own operations have
made of its archive. So what is proved of an archive by itself holds in the store that all reports
share. -/
theorem actsAs_exec (codec : JsonCodec F) (drafts : String → String → ByteArray)
    {run : List Access} (hrun : ∀ x ∈ run, x.Named) (requestId : String) :
    ActsAs codec drafts requestId (Run.exec (Access.onBucket codec drafts) (fun _ => none) run)
      (alone drafts requestId .empty (run.filterMap (Access.own requestId))) := by
  have hempty : Shows codec requestId (fun _ => none) .empty := ⟨fun _ _ => rfl, fun _ _ => .none⟩
  have hshows := shows_exec drafts hempty hrun
  exact ⟨hshows, fun filename hplain => hshows.copied hplain, fun log => hshows.load_approvalLog⟩

end Shared

/-- A publication between the writes of another report and an upload. -/
theorem actsAs_publication :
    ActsAs wholeCodec (fun _ _ => "draft".toUTF8) "r1"
      (Run.exec (Access.onBucket wholeCodec fun _ _ => "draft".toUTF8) (fun _ => none)
        [.review "r1" .none (.putStaging "report-draft.json") "",
          .upload "u" "1" "../final/r1/report-draft.json" "x".toUTF8,
          .review "r2" (.after ()) (.putStaging "report-draft.json") "",
          .review "r1" .none (.copyToFinal "report-draft.json") ""])
      (alone (fun _ _ => "draft".toUTF8) "r1" .empty
        [(.none, .putStaging "report-draft.json"), (.none, .copyToFinal "report-draft.json")]) := by
  have hname : Plain "report-draft.json" := by decide
  refine actsAs_exec wholeCodec (fun _ _ => "draft".toUTF8) (fun x hx => ?_) "r1"
  simp only [List.mem_cons, List.not_mem_nil, or_false] at hx
  rcases hx with rfl | rfl | rfl | rfl
  · exact hname
  · trivial
  · exact hname
  · exact hname

end DecisionCenter.Persistence
