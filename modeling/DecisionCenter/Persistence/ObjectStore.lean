import DecisionCenter.Async.Run
import DecisionCenter.Py.JsonText
import Mathlib.Logic.Function.Basic

/-!
# The object store

`MinioStore` of `apps/edr/persistence/minio_store.py`: one bucket, in which an artifact lies
under the key `prefix/request_id/filename` and an upload under
`uploads/user/upload_id/filename`. The keys of different artifacts differ as long as no file
name has a slash, whatever the request ids are, and no upload lies under a key of an artifact.
So `_load_json_artifact` of `apps/edr/app.py` gives back what `put_json` has stored, until the
same artifact is put again.

A bucket is a map from keys to bytes, and a call of the store is a value of `StoreCall`, whose
effect is a function on buckets. Of a key one can tell the area, which has no slash, and the
file name, which has none either; the request id is what stands between them, and may be any
text (`objectName_inj`).

JSON artifacts are stored as the bytes that `json.dumps` writes, in UTF-8, and are parsed when
they are read. The library has the round trip for documents whose numbers are read back as they
were written, which is what `JsonCodec` asks of the two functions for numbers.

The store is run through any list of calls. An object changes only by a call that puts it
(`exec_of_not_puts`), and a copy to `final` takes place once, since it asks whether the object
is there. `loadJsonArtifact_published` follows from the two. The content types, which nothing
reads, are left out.
-/

namespace DecisionCenter.Persistence

open Async Py

/-! ### Keys -/

/-- The prefixes of the artifacts of a report. -/
inductive Area where
  | staging
  | final
  deriving DecidableEq, Repr

def Area.toStr : Area → String
  | .staging => "staging"
  | .final => "final"

/-- `_object_name` -/
def objectName (area : Area) (requestId filename : String) : String :=
  area.toStr ++ "/" ++ requestId ++ "/" ++ filename

/-- The key of an upload. -/
def uploadName (userIdHash uploadId filename : String) : String :=
  "uploads/" ++ userIdHash ++ "/" ++ uploadId ++ "/" ++ filename

/-- The name has no slash. -/
def Plain (name : String) : Prop := '/' ∉ name.toList

instance (name : String) : Decidable (Plain name) := inferInstanceAs (Decidable (¬ _))

/-- What stands before the first slash, and what after it. -/
theorem eq_of_append_slash {a a' r r' : List Char} (ha : '/' ∉ a) (ha' : '/' ∉ a')
    (h : a ++ '/' :: r = a' ++ '/' :: r') : a = a' ∧ r = r' := by
  induction a generalizing a' with
  | nil =>
    cases a' with
    | nil => exact ⟨rfl, (List.cons.inj h).2⟩
    | cons c a' => exact absurd (List.cons.inj h).1 fun hc => ha' (hc ▸ List.mem_cons_self)
  | cons c a ih =>
    cases a' with
    | nil => exact absurd (List.cons.inj h).1.symm fun hc => ha (hc ▸ List.mem_cons_self)
    | cons c' a' =>
      obtain ⟨rfl, hrest⟩ := List.cons.inj h
      obtain ⟨rfl, rfl⟩ := ih (fun hmem => ha (List.mem_cons_of_mem _ hmem))
        (fun hmem => ha' (List.mem_cons_of_mem _ hmem)) hrest
      exact ⟨rfl, rfl⟩

/-- What stands before the last slash, and what after it. -/
theorem eq_of_slash_append {r r' f f' : List Char} (hf : '/' ∉ f) (hf' : '/' ∉ f')
    (h : r ++ '/' :: f = r' ++ '/' :: f') : r = r' ∧ f = f' := by
  have hreverse := congrArg List.reverse h
  simp only [List.reverse_append, List.reverse_cons, List.append_assoc, List.singleton_append]
    at hreverse
  obtain ⟨hname, hrest⟩ := eq_of_append_slash (by rwa [List.mem_reverse])
    (by rwa [List.mem_reverse]) hreverse
  exact ⟨List.reverse_injective hrest, List.reverse_injective hname⟩

private theorem toList_objectName (area : Area) (requestId filename : String) :
    (objectName area requestId filename).toList =
      area.toStr.toList ++ '/' :: (requestId.toList ++ '/' :: filename.toList) := by
  simp [objectName]

/-- An artifact has a key of its own. -/
theorem objectName_inj {area area' : Area} {requestId requestId' filename filename' : String}
    (hf : Plain filename) (hf' : Plain filename')
    (h : objectName area requestId filename = objectName area' requestId' filename') :
    area = area' ∧ requestId = requestId' ∧ filename = filename' := by
  have hchars := congrArg String.toList h
  rw [toList_objectName, toList_objectName] at hchars
  obtain ⟨harea, hrest⟩ := eq_of_append_slash (by cases area <;> decide)
    (by cases area' <;> decide) hchars
  obtain ⟨hrequest, hname⟩ := eq_of_slash_append hf hf' hrest
  refine ⟨?_, String.toList_inj.mp hrequest, String.toList_inj.mp hname⟩
  cases area <;> cases area' <;> first | rfl | exact absurd harea (by decide)

/-- No upload lies under a key of an artifact. -/
theorem uploadName_ne_objectName (userIdHash uploadId name : String) (area : Area)
    (requestId filename : String) :
    uploadName userIdHash uploadId name ≠ objectName area requestId filename := by
  intro h
  have hchars := congrArg String.toList h
  have hupload : (uploadName userIdHash uploadId name).toList = "uploads".toList ++ '/' ::
      (userIdHash ++ "/" ++ uploadId ++ "/" ++ name).toList := by
    simp [uploadName]
  rw [hupload, toList_objectName] at hchars
  obtain ⟨harea, -⟩ := eq_of_append_slash (by decide) (by cases area <;> decide) hchars
  cases area <;> exact absurd harea (by decide)

/-! ### JSON artifacts -/

/-- How Python writes and reads the numbers of JSON. -/
structure JsonCodec (F : Type) where
  /-- `float.__repr__` -/
  floatText : F → List Char
  /-- `float(text)` -/
  number : List Char → Option (Value F)
  /-- `NaN`, `Infinity` and `-Infinity`. -/
  words : List (List Char × Value F)

section Json

variable {F : Type} (codec : JsonCodec F)

/-- `json.dumps(data, indent=2).encode("utf-8")` -/
def jsonBytes (data : Dict F) : ByteArray :=
  (JsonText.dumps (.indented 2 codec.floatText) (.dict data)).toUTF8

/-- `json.loads` -/
def JsonCodec.dialect : JsonText.Dialect F := ⟨.int, codec.number, codec.words⟩

/-- `json.loads(raw.decode("utf-8"))`, where it is a dictionary, else `{}`. -/
def parseJson (raw : ByteArray) : Dict F :=
  (((String.fromUTF8? raw).bind (JsonText.loads codec.dialect)).bind Value.asDict?).getD []

/-- The data is read back as it was written. -/
def Storable (data : Dict F) : Prop :=
  JsonText.Readable (.indented 2 codec.floatText) codec.dialect (.dict data)

private theorem fromUTF8?_toUTF8 (s : String) : String.fromUTF8? s.toUTF8 = some s :=
  dif_pos s.isValidUTF8

variable {codec}

/-- What is stored as JSON is read back. -/
theorem parseJson_jsonBytes {data : Dict F} (h : Storable codec data) :
    parseJson codec (jsonBytes codec data) = data := by
  rw [parseJson, jsonBytes, fromUTF8?_toUTF8, Option.bind_some, JsonText.loads_dumps h]
  rfl

end Json

/-! ### The bucket -/

/-- The objects of the bucket, by key. -/
abbrev Bucket := String → Option ByteArray

/-- A call that writes to the bucket. -/
inductive StoreCall (F : Type) where
  | putJson (area : Area) (requestId filename : String) (data : Dict F)
  | putBytes (area : Area) (requestId filename : String) (data : ByteArray)
  | putUpload (userIdHash uploadId filename : String) (data : ByteArray)
  | copyToFinal (requestId filename : String)

namespace Bucket

/-- `put_object` -/
def put (b : Bucket) (key : String) (data : ByteArray) : Bucket := Function.update b key (some data)

/-- `object_exists` -/
def exists? (b : Bucket) (area : Area) (requestId filename : String) : Bool :=
  (b (objectName area requestId filename)).isSome

/-- What `copy_to_final` leaves: it refuses an artifact that exists, and fails without a source. -/
def copyToFinal (b : Bucket) (requestId filename : String) : Bucket :=
  if b.exists? .final requestId filename then b
  else match b (objectName .staging requestId filename) with
    | some data => b.put (objectName .final requestId filename) data
    | none => b

@[simp] theorem put_self (b : Bucket) (key : String) (data : ByteArray) :
    b.put key data key = some data := Function.update_self _ _ _

/-- A write changes the object of its key. -/
theorem put_of_ne (b : Bucket) {key key' : String} (h : key' ≠ key) (data : ByteArray) :
    b.put key data key' = b key' := Function.update_of_ne h _ _

/-- A copy changes at most the object it names, and only if that is new. -/
theorem copyToFinal_of_ne (b : Bucket) {requestId filename key : String}
    (h : key ≠ objectName .final requestId filename) :
    b.copyToFinal requestId filename key = b key := by
  rw [copyToFinal]
  split
  · rfl
  · cases b (objectName .staging requestId filename) with
    | none => rfl
    | some data => exact b.put_of_ne h _

private theorem copyToFinal_of_isSome (b : Bucket) {requestId filename key : String}
    (h : (b key).isSome = true) : b.copyToFinal requestId filename key = b key := by
  by_cases hkey : key = objectName .final requestId filename
  · subst hkey
    rw [copyToFinal, exists?, if_pos h]
  · exact b.copyToFinal_of_ne hkey

end Bucket

section Calls

variable {F : Type} (codec : JsonCodec F)

/-- What a call leaves in the bucket. -/
def StoreCall.effect (b : Bucket) : StoreCall F → Bucket
  | .putJson area requestId filename data =>
    b.put (objectName area requestId filename) (jsonBytes codec data)
  | .putBytes area requestId filename data => b.put (objectName area requestId filename) data
  | .putUpload userIdHash uploadId filename data =>
    b.put (uploadName userIdHash uploadId filename) data
  | .copyToFinal requestId filename => b.copyToFinal requestId filename

/-- The file name of a call. -/
def StoreCall.filename : StoreCall F → String
  | .putJson _ _ filename _ => filename
  | .putBytes _ _ filename _ => filename
  | .putUpload _ _ filename _ => filename
  | .copyToFinal _ filename => filename

/-- The call puts an artifact. -/
def StoreCall.Puts (area : Area) (requestId filename : String) : StoreCall F → Prop
  | .putJson area' requestId' filename' _ =>
    area' = area ∧ requestId' = requestId ∧ filename' = filename
  | .putBytes area' requestId' filename' _ =>
    area' = area ∧ requestId' = requestId ∧ filename' = filename
  | .putUpload _ _ _ _ => False
  | .copyToFinal _ _ => False

/-- `_load_json_artifact`; a read that fails gives `{}`. -/
def loadJsonArtifact (b : Bucket) (requestId filename : String) (area : Area) : Dict F :=
  (b (objectName area requestId filename)).elim [] (parseJson codec)

variable {codec}

/-- An artifact that exists is changed by a call that puts it only. -/
theorem effect_of_not_puts {b : Bucket} {area : Area} {requestId filename : String}
    (hplain : Plain filename) (hsome : (b (objectName area requestId filename)).isSome = true)
    {c : StoreCall F} (hc : Plain c.filename) (h : ¬ c.Puts area requestId filename) :
    c.effect codec b (objectName area requestId filename) =
      b (objectName area requestId filename) := by
  cases c with
  | putJson area' requestId' filename' data =>
    exact b.put_of_ne (fun heq => h (objectName_inj hc hplain heq.symm)) _
  | putBytes area' requestId' filename' data =>
    exact b.put_of_ne (fun heq => h (objectName_inj hc hplain heq.symm)) _
  | putUpload userIdHash uploadId name data =>
    exact b.put_of_ne (uploadName_ne_objectName _ _ _ _ _ _).symm _
  | copyToFinal requestId' filename' => exact b.copyToFinal_of_isSome hsome

/-- An artifact that exists is as it was, until it is put. -/
theorem exec_of_not_puts {b : Bucket} {area : Area} {requestId filename : String}
    (hplain : Plain filename) (hsome : (b (objectName area requestId filename)).isSome = true)
    {run : List (StoreCall F)} (hrun : ∀ c ∈ run, Plain c.filename)
    (hput : ∀ c ∈ run, ¬ c.Puts area requestId filename) :
    Run.exec (StoreCall.effect codec) b run (objectName area requestId filename) =
      b (objectName area requestId filename) := by
  induction run generalizing b with
  | nil => rfl
  | cons c run ih =>
    have hstep : c.effect codec b (objectName area requestId filename) =
        b (objectName area requestId filename) :=
      effect_of_not_puts hplain hsome (hrun c List.mem_cons_self) (hput c List.mem_cons_self)
    rw [Run.exec_cons, ih (by rwa [hstep]) (fun c' hc' => hrun c' (List.mem_cons_of_mem c hc'))
      fun c' hc' => hput c' (List.mem_cons_of_mem c hc'), hstep]

/-- A JSON artifact is read as it was put, until it is put again. -/
theorem loadJsonArtifact_exec (b : Bucket) {area : Area} {requestId filename : String}
    {data : Dict F} (hdata : Storable codec data) {run : List (StoreCall F)}
    (hplain : Plain filename) (hrun : ∀ c ∈ run, Plain c.filename)
    (hput : ∀ c ∈ run, ¬ c.Puts area requestId filename) :
    loadJsonArtifact codec (Run.exec (StoreCall.effect codec) b
      (.putJson area requestId filename data :: run)) requestId filename area = data := by
  have hput' : StoreCall.effect codec b (.putJson area requestId filename data)
      (objectName area requestId filename) = some (jsonBytes codec data) := b.put_self _ _
  rw [loadJsonArtifact, Run.exec_cons, exec_of_not_puts hplain (by rw [hput']; rfl) hrun hput,
    hput']
  exact parseJson_jsonBytes hdata

/-- A JSON artifact that is copied is read under `final` as it was staged, whatever is staged later,
until it is put there. The copy takes place once, as it asks whether the object is there. -/
theorem loadJsonArtifact_published (b : Bucket) {requestId filename : String} {data : Dict F}
    (hdata : Storable codec data) {before after : List (StoreCall F)} (hplain : Plain filename)
    (hbefore : ∀ c ∈ before, Plain c.filename) (hafter : ∀ c ∈ after, Plain c.filename)
    (hstaged : ∀ c ∈ before, ¬ c.Puts .staging requestId filename)
    (hput : ∀ c ∈ after, ¬ c.Puts .final requestId filename)
    (hnew : (Run.exec (StoreCall.effect codec) b
      (.putJson .staging requestId filename data :: before)).exists? .final requestId filename =
        false) :
    loadJsonArtifact codec (Run.exec (StoreCall.effect codec) b
      (.putJson .staging requestId filename data :: before ++
        .copyToFinal requestId filename :: after)) requestId filename .final = data := by
  have hput' : StoreCall.effect codec b (.putJson .staging requestId filename data)
      (objectName .staging requestId filename) = some (jsonBytes codec data) := b.put_self _ _
  have hbytes : Run.exec (StoreCall.effect codec) b
      (.putJson .staging requestId filename data :: before)
        (objectName .staging requestId filename) = some (jsonBytes codec data) := by
    rw [Run.exec_cons, exec_of_not_puts hplain (by rw [hput']; rfl) hbefore hstaged, hput']
  rw [Run.exec_append]
  generalize Run.exec (StoreCall.effect codec) b
    (.putJson .staging requestId filename data :: before) = staged at hnew hbytes
  have hcopy : StoreCall.effect codec staged (.copyToFinal requestId filename)
      (objectName .final requestId filename) = some (jsonBytes codec data) := by
    change staged.copyToFinal requestId filename _ = _
    rw [Bucket.copyToFinal, hnew, hbytes]
    exact staged.put_self _ _
  rw [loadJsonArtifact, Run.exec_cons, exec_of_not_puts hplain (by rw [hcopy]; rfl) hafter hput,
    hcopy]
  exact parseJson_jsonBytes hdata

end Calls

/-! ### A published draft -/

/-- Python's JSON on whole numbers. -/
def wholeCodec : JsonCodec ℤ where
  floatText x := JsonText.intText x ++ ['.', '0']
  number text := (String.ofList (text.takeWhile (· ≠ '.'))).toInt?.map .float
  words := []

/-- A draft. -/
def draftJson : Dict ℤ := [("executive_summary", .str "On \"time\"."), ("risks", .list [])]

private theorem storable_draftJson : Storable wholeCodec draftJson := by
  refine .dict (by decide) fun kv hkv => ?_
  simp only [draftJson, List.mem_cons, List.not_mem_nil, or_false] at hkv
  rcases hkv with rfl | rfl
  · exact .str _
  · exact .list (by simp)

/-- A draft that is replaced under `staging` after its publication is read as it was published. -/
theorem loadJsonArtifact_draftJson :
    loadJsonArtifact wholeCodec (Run.exec (StoreCall.effect wholeCodec) (fun _ => none)
      (.putJson .staging "r/1" "report-draft.json" draftJson :: [] ++
        .copyToFinal "r/1" "report-draft.json" ::
          [.putJson .staging "r/1" "report-draft.json" []])) "r/1" "report-draft.json" .final =
      draftJson := by
  have hnone : ∀ c ∈ ([] : List (StoreCall ℤ)), Plain c.filename := by simp
  have hstaged : ∀ c ∈ ([] : List (StoreCall ℤ)), ¬ c.Puts .staging "r/1" "report-draft.json" := by
    simp
  have hname : Plain "report-draft.json" := by decide
  have hkeys : objectName .final "r/1" "report-draft.json" ≠
      objectName .staging "r/1" "report-draft.json" := fun h =>
    absurd (objectName_inj hname hname h).1 (by decide)
  have hnew : (Bucket.put (fun _ => none) (objectName .staging "r/1" "report-draft.json")
      (jsonBytes wholeCodec draftJson)).exists? .final "r/1" "report-draft.json" = false := by
    rw [Bucket.exists?, Bucket.put_of_ne _ hkeys]
    rfl
  exact loadJsonArtifact_published (fun _ => none) storable_draftJson hname hnone
    (by simpa [StoreCall.filename] using hname) hstaged (by simp [StoreCall.Puts]) hnew

end DecisionCenter.Persistence
