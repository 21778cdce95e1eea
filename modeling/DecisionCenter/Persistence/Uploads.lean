import DecisionCenter.Persistence.ObjectStore
import DecisionCenter.Py.Whole
import DecisionCenter.Review.Endpoints

/-!
# Uploads

`upload_file` of `apps/edr/app.py`: the file of a client is stored under the part of the bucket
that belongs to the caller, and under an id of its own. Its name is the client's and may be
anything; `_safe_filename` leaves no slash in it, so that the object lies where it is meant to,
and whatever the store is called for afterwards, the bytes are there as they were sent.

The name goes through `basename`, the replacement of characters and the cut, with the fallback
for a name of which nothing is left, and `safeFilename_safe` says that the result is not empty
and made of safe characters only. The type is checked by the extension and by the content type
that the client has named, the size by what has been read. The errors are those of the source,
with their status and text.

The key of an upload has four parts. The user's is the hash of the id in the claims and has no
slash, the upload id is fresh, and the name is safe, so that different uploads have different
keys (`uploadName_inj`) and no artifact has any of them.

`uploadKept_exec` says of an upload that was accepted what its client may rely on: the object
has the bytes that were sent, under the key that the response names, after any calls of the
store that do not put this very upload.
-/

namespace DecisionCenter.Persistence

open Async Py Review

/-! ### Names -/

/-- `os.path.basename(raw)` -/
def basename (raw : String) : String :=
  String.ofList (raw.toList.reverse.takeWhile (· ≠ '/')).reverse

/-- What `_FILENAME_SAFE_RE` does not replace. -/
def isSafeChar (c : Char) : Bool := c.isAlphanum || decide (c ∈ ['.', '_', '-'])

/-- `os.path.splitext(name)[1]` of a name without a slash: the last dot and what follows it, unless
there are only dots in front of it. -/
def extension (name : String) : String :=
  let rest := name.toList.reverse.takeWhile (· ≠ '.')
  let root := name.toList.take (name.length - rest.length - 1)
  if '.' ∈ name.toList ∧ root.any (· ≠ '.') = true then String.ofList ('.' :: rest.reverse) else ""

/-- `_ACCEPTED_UPLOAD_EXTENSIONS` -/
def acceptedUploadExtensions : List String := [".pdf", ".docx", ".xlsx", ".txt", ".msg", ".eml"]

/-- `_ACCEPTED_UPLOAD_CONTENT_TYPES` -/
def acceptedUploadContentTypes : List String :=
  ["application/pdf", "application/vnd.openxmlformats-officedocument.wordprocessingml.document",
    "application/vnd.openxmlformats-officedocument.spreadsheetml.sheet", "text/plain",
    "message/rfc822", "application/octet-stream"]

/-- `_MAX_UPLOAD_BYTES` -/
def maxUploadBytes : ℕ := 10 * 1024 * 1024

section Upload

variable [Text]

/-- `_safe_filename` -/
def safeFilename (raw : String) : String :=
  let base := strip (basename raw)
  if base = "" then "upload"
  else
    let cleaned := String.ofList (base.toList.map fun c => if isSafeChar c then c else '_')
    if cleaned = "" then "upload" else cleaned

/-- The 400 of a type that is not accepted. -/
def unsupportedType : HttpError :=
  ⟨400, "Unsupported file type. Accepted: PDF, DOCX, XLSX, TXT, MSG, EML."⟩

/-- `_validate_upload_type` -/
def validateUploadType (filename : String) (contentType : Option String) :
    Except HttpError Unit :=
  let ext := lower (extension filename)
  if ext ∈ acceptedUploadExtensions then .ok ()
  else if ext ≠ "" then .error unsupportedType
  else if (contentType.filter (· ≠ "")).any fun t => lower t ∈ acceptedUploadContentTypes then
    .ok ()
  else .error unsupportedType

/-- The limits of the size. -/
def checkUploadSize (size : ℕ) : Except HttpError Unit :=
  if size = 0 then .error ⟨400, "Empty upload."⟩
  else if maxUploadBytes < size then .error ⟨413, "File exceeds 10 MB limit."⟩
  else .ok ()

/-- A file as the client sends it. -/
structure UploadFile where
  filename : Option String
  contentType : Option String
  data : ByteArray

/-- `UploadResponse` -/
structure UploadResponse where
  uploadId : String
  filename : String
  size : ℕ
  contentType : String
  contentHash : String

/-- The hash that the uploads of a caller lie under. -/
def uploaderHash (env : Env) (claims : Claims) : String :=
  if claims.userId = "" then "anonymous" else env.hashUserId claims.userId

/-- `upload_file`: what is put into the store, under a new id, and the answer. -/
def uploadFile {F : Type} (env : Env) (sha256 : ByteArray → String) (claims : Option Claims)
    (file : UploadFile) (uploadId : String) : Except HttpError (StoreCall F × UploadResponse) := do
  let claims ← requireClaims claims
  let safeName := safeFilename (file.filename.getD "")
  validateUploadType safeName file.contentType
  checkUploadSize file.data.size
  let contentType := (file.contentType.filter (· ≠ "")).getD "application/octet-stream"
  return (.putUpload (uploaderHash env claims) uploadId safeName file.data,
    ⟨uploadId, safeName, file.data.size, contentType, sha256 file.data⟩)

/-! ### Safe names -/

omit [Text] in
private theorem isSafeChar_slash : isSafeChar '/' = false := by decide

/-- A safe name is not empty, and made of safe characters. -/
theorem safeFilename_safe (raw : String) :
    safeFilename raw ≠ "" ∧ ∀ c ∈ (safeFilename raw).toList, isSafeChar c = true := by
  have hchars : "upload".toList.all isSafeChar = true := rfl
  have hupload : "upload" ≠ "" ∧ ∀ c ∈ "upload".toList, isSafeChar c = true :=
    ⟨by decide, List.all_eq_true.mp hchars⟩
  rw [safeFilename]
  split
  · exact hupload
  dsimp only
  split
  · exact hupload
  · next hne =>
    refine ⟨hne, fun c hc => ?_⟩
    rw [String.toList_ofList] at hc
    obtain ⟨d, -, rfl⟩ := List.mem_map.mp hc
    split
    · next hd => exact hd
    · decide

/-- A safe name has no slash. -/
theorem plain_safeFilename (raw : String) : Plain (safeFilename raw) := fun h =>
  absurd ((safeFilename_safe raw).2 '/' h) (by rw [isSafeChar_slash]; exact Bool.false_ne_true)

omit [Text] in
private theorem checkUploadSize_eq_ok {size : ℕ} (h : checkUploadSize size = .ok ()) :
    0 < size ∧ size ≤ maxUploadBytes := by
  rw [checkUploadSize] at h
  split at h
  · cases h
  split at h
  · cases h
  · next hempty hlarge => exact ⟨Nat.pos_of_ne_zero hempty, Nat.le_of_not_lt hlarge⟩

/-- What an upload that is accepted puts into the store, and what is known of it: its type and its
size have been checked, and its name is a safe one. -/
theorem uploadFile_eq_ok {F : Type} {env : Env} {sha256 : ByteArray → String}
    {claims : Option Claims} {file : UploadFile} {uploadId : String} {call : StoreCall F}
    {r : UploadResponse} (h : uploadFile env sha256 claims file uploadId = .ok (call, r)) :
    ∃ c, claims = some c ∧ r.uploadId = uploadId ∧
      r.filename = safeFilename (file.filename.getD "") ∧
      call = .putUpload (uploaderHash env c) uploadId (safeFilename (file.filename.getD ""))
        file.data ∧
      validateUploadType (safeFilename (file.filename.getD "")) file.contentType = .ok () ∧
      r.size = file.data.size ∧ 0 < file.data.size ∧ file.data.size ≤ maxUploadBytes := by
  cases claims with
  | none => cases h
  | some c =>
    -- the handler, as the two checks followed by the write
    have hsteps : uploadFile (F := F) env sha256 (some c) file uploadId =
        (validateUploadType (safeFilename (file.filename.getD "")) file.contentType).bind fun _ =>
          (checkUploadSize file.data.size).bind fun _ =>
            .ok (.putUpload (uploaderHash env c) uploadId (safeFilename (file.filename.getD ""))
              file.data, ⟨uploadId, safeFilename (file.filename.getD ""), file.data.size,
                (file.contentType.filter (· ≠ "")).getD "application/octet-stream",
                sha256 file.data⟩) := rfl
    rw [hsteps] at h
    cases htype : validateUploadType (safeFilename (file.filename.getD "")) file.contentType with
    | error err =>
      rw [htype] at h
      cases h
    | ok u =>
      cases hsize : checkUploadSize file.data.size with
      | error err =>
        rw [htype, hsize] at h
        cases h
      | ok u =>
        rw [htype, hsize] at h
        obtain ⟨hpos, hmax⟩ := checkUploadSize_eq_ok hsize
        cases h
        exact ⟨c, rfl, rfl, by dsimp only, rfl, rfl, rfl, hpos, hmax⟩

end Upload

/-! ### Keys of uploads -/

private theorem toList_uploadName (userIdHash uploadId filename : String) :
    (uploadName userIdHash uploadId filename).toList = "uploads".toList ++ '/' ::
      (userIdHash.toList ++ '/' :: (uploadId.toList ++ '/' :: filename.toList)) := by
  simp [uploadName]

/-- An upload has a key of its own. -/
theorem uploadName_inj {user user' uploadId uploadId' name name' : String} (hu : Plain user)
    (hu' : Plain user') (hid : Plain uploadId) (hid' : Plain uploadId')
    (h : uploadName user uploadId name = uploadName user' uploadId' name') :
    user = user' ∧ uploadId = uploadId' ∧ name = name' := by
  have hchars := congrArg String.toList h
  rw [toList_uploadName, toList_uploadName] at hchars
  obtain ⟨-, hrest⟩ := eq_of_append_slash (by decide) (by decide) hchars
  obtain ⟨huser, hrest⟩ := eq_of_append_slash hu hu' hrest
  obtain ⟨hupload, hname⟩ := eq_of_append_slash hid hid' hrest
  exact ⟨String.toList_inj.mp huser, String.toList_inj.mp hupload, String.toList_inj.mp hname⟩

section Kept

variable {F : Type} {codec : JsonCodec F}

/-- A call that is not the upload with this id; a hash and an id have no slash. -/
def StoreCall.Spares (uploadId : String) : StoreCall F → Prop
  | .putUpload user uploadId' _ _ => Plain user ∧ Plain uploadId' ∧ uploadId' ≠ uploadId
  | _ => True

/-- No other call touches an upload. -/
theorem effect_of_spares {b : Bucket} {user uploadId name : String} (hu : Plain user)
    (hid : Plain uploadId) {c : StoreCall F} (hc : c.Spares uploadId) :
    c.effect codec b (uploadName user uploadId name) = b (uploadName user uploadId name) := by
  cases c with
  | putJson area requestId filename data =>
    exact b.put_of_ne (uploadName_ne_objectName _ _ _ _ _ _) _
  | putBytes area requestId filename data =>
    exact b.put_of_ne (uploadName_ne_objectName _ _ _ _ _ _) _
  | putUpload user' uploadId' name' data =>
    obtain ⟨hu', hid', hne⟩ := hc
    exact b.put_of_ne (fun heq => hne (uploadName_inj hu hu' hid hid' heq).2.1.symm) _
  | copyToFinal requestId filename =>
    exact b.copyToFinal_of_ne (uploadName_ne_objectName _ _ _ _ _ _)

private theorem exec_of_spares {b : Bucket} {user uploadId name : String} (hu : Plain user)
    (hid : Plain uploadId) {run : List (StoreCall F)} (hrun : ∀ c ∈ run, c.Spares uploadId) :
    Run.exec (StoreCall.effect codec) b run (uploadName user uploadId name) =
      b (uploadName user uploadId name) := by
  induction run generalizing b with
  | nil => rfl
  | cons c run ih =>
    rw [Run.exec_cons, ih fun c' hc' => hrun c' (List.mem_cons_of_mem c hc'),
      effect_of_spares hu hid (hrun c List.mem_cons_self)]

/-- What is promised to the client of an upload. -/
structure UploadKept [Text] (b : Bucket) (userIdHash : String) (file : UploadFile)
    (r : UploadResponse) : Prop where
  stored : b (uploadName userIdHash r.uploadId r.filename) = some file.data
  name : r.filename ≠ "" ∧ ∀ c ∈ r.filename.toList, isSafeChar c = true
  type : lower (extension r.filename) ∈ acceptedUploadExtensions ∨
    lower (extension r.filename) = "" ∧
      ∃ t ∈ file.contentType, lower t ∈ acceptedUploadContentTypes
  size : r.size = file.data.size ∧ 0 < file.data.size ∧ file.data.size ≤ maxUploadBytes

/-- An accepted type is known by the extension or, without one, by the content type. -/
private theorem validateUploadType_eq_ok [Text] {filename : String} {contentType : Option String}
    (h : validateUploadType filename contentType = .ok ()) :
    lower (extension filename) ∈ acceptedUploadExtensions ∨
      lower (extension filename) = "" ∧
        ∃ t ∈ contentType, lower t ∈ acceptedUploadContentTypes := by
  rw [validateUploadType] at h
  split at h
  · next hext => exact .inl hext
  split at h
  · cases h
  split at h
  · next hempty hany =>
    refine .inr ⟨not_not.mp hempty, ?_⟩
    cases contentType with
    | none => cases hany
    | some t =>
      by_cases ht : t = ""
      · simp [ht] at hany
      · exact ⟨t, rfl, by simpa [ht] using hany⟩
  · cases h

/-- An upload that is accepted is kept through whatever the store does later, other uploads and all
artifacts included; only the same upload id could reach its key. -/
theorem uploadKept_exec [Text] {env : Env} {sha256 : ByteArray → String} {claims : Option Claims}
    {file : UploadFile} {uploadId : String} {call : StoreCall F} {r : UploadResponse}
    (h : uploadFile env sha256 claims file uploadId = .ok (call, r)) (b : Bucket)
    (hhash : ∀ userId, Plain (env.hashUserId userId)) (hid : Plain uploadId)
    {later : List (StoreCall F)} (hlater : ∀ c ∈ later, c.Spares uploadId) :
    ∃ c, claims = some c ∧
      UploadKept (Run.exec (StoreCall.effect codec) b (call :: later)) (uploaderHash env c) file
        r := by
  obtain ⟨c, rfl, hupload, hname, rfl, htype, hsize, hpos, hmax⟩ := uploadFile_eq_ok h
  have huser : Plain (uploaderHash env c) := by
    rw [uploaderHash]
    split
    · decide
    · exact hhash _
  refine ⟨c, rfl, ?_, ?_, ?_, hsize, hpos, hmax⟩
  · rw [Run.exec_cons, hupload, hname, exec_of_spares huser hid hlater]
    exact b.put_self _ _
  · rw [hname]
    exact safeFilename_safe _
  · rw [hname]
    exact validateUploadType_eq_ok htype

end Kept

section Whole

open Py.Whole

/-- A name that tries to leave its directory. -/
def invoiceFile : UploadFile := ⟨some "../final/r1/an invoice.PDF", none, ⟨#[37]⟩⟩

/-- It is stored as an invoice, and kept when a report is staged. -/
theorem uploadKept_invoiceFile : ∃ c, some (Claims.mk "u1" none) = some c ∧
    UploadKept (Run.exec (StoreCall.effect wholeCodec) (fun _ => none)
      (.putUpload "hash" "id1" "an_invoice.PDF" ⟨#[37]⟩ ::
        [.putJson .staging "r1" "report-draft.json" draftJson]))
      (uploaderHash ⟨fun _ => "hash", true⟩ c) invoiceFile
      ⟨"id1", "an_invoice.PDF", 1, "application/octet-stream", "sha"⟩ := by
  have hstored : uploadFile (F := ℤ) ⟨fun _ => "hash", true⟩ (fun _ => "sha")
      (some ⟨"u1", none⟩) invoiceFile "id1" =
        .ok (.putUpload "hash" "id1" "an_invoice.PDF" ⟨#[37]⟩,
          ⟨"id1", "an_invoice.PDF", 1, "application/octet-stream", "sha"⟩) := by rfl
  have hhash : Plain "hash" := by decide
  exact uploadKept_exec hstored (fun _ => none) (fun _ => hhash) (by decide)
    (by simp [StoreCall.Spares])

end Whole

end DecisionCenter.Persistence
