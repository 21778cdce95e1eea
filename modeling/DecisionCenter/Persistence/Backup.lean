import DecisionCenter.Data.FileTree
import DecisionCenter.Persistence.Uploads

/-!
# Backup and restore

`backup_minio` of `scripts/backup_minio.py` writes every object of the bucket to the file that
its key is the path of, and `restore_minio` of `scripts/restore_minio.py` puts every file back
under the key that its path spells. Keys could clash as paths, or change on their way through
one; the keys that the application makes do not. So whatever it has stored, a backup succeeds
and its restoration brings every object back, whatever is in the bucket that it is restored to.

Files and directories are those of `Data.FileTree`: a file cannot be created where a directory
stands on its path, nor on a path through a file. Two keys clash if one is a prefix of the other
as a path. A key changes if a part of it is empty, is one of the dots, or has a backslash or a
slash in it; `Portable` is a part that does none of this.

`KeyParts` describes the keys that the application makes: an area, a request id and a file name,
or the keys of uploads, which have a level more. All parts are portable, and no key is on the
path of another as those of one area have one length (`KeyParts.not_onPath`). A safe file name
of an upload is portable unless it is a dot or two, which `safeFilename` leaves as they are.

`restores_exec` is about every bucket that calls of the store have filled, from an empty one,
and every listing of it. The archive between the two has the files as they are.
-/

namespace DecisionCenter.Persistence

open Async Py FileTree

/-! ### The two scripts -/

/-- The parts of `staging_dir / name`, for a name without a slash at its front and without `..`. -/
def pathParts (name : String) : List String :=
  ((name.toList.splitOn '/').map String.ofList).filter fun part => part ≠ "" ∧ part ≠ "."

/-- `str(file_path.relative_to(root_dir)).replace("\\", "/")` -/
def restoredName (path : List String) : String :=
  String.ofList ((join "/" path).toList.map fun c => if c = '\\' then '/' else c)

/-- The files of `backup_minio`, for the names that the bucket is listed with. -/
def backupMinio (b : Bucket) (names : List String) : Option (Files String ByteArray) :=
  names.foldlM (fun files name => (b name).bind (write files (pathParts name))) []

/-- `restore_minio`, for the files in the order they are found in. -/
def restoreMinio (files : Files String ByteArray) (b : Bucket) : Bucket :=
  files.foldl (fun b f => b.put (restoredName f.1) f.2) b

/-- `list_objects(bucket, recursive=True)` -/
structure Lists (names : List String) (b : Bucket) : Prop where
  nodup : names.Nodup
  mem_iff : ∀ name, name ∈ names ↔ (b name).isSome = true

/-! ### Keys as paths -/

/-- A part of a key that is the same as a file name. -/
structure Portable (part : String) : Prop where
  plain : Plain part
  backslash : '\\' ∉ part.toList
  named : part ≠ "" ∧ part ≠ "." ∧ part ≠ ".."

instance (part : String) : Decidable (Portable part) :=
  decidable_of_iff (Plain part ∧ '\\' ∉ part.toList ∧ part ≠ "" ∧ part ≠ "." ∧ part ≠ "..")
    ⟨fun h => ⟨h.1, h.2.1, h.2.2⟩, fun h => ⟨h.plain, h.backslash, h.named⟩⟩

/-- A safe name is portable, unless it is a dot or two. -/
theorem portable_safeFilename [Text] {raw : String} (h : safeFilename raw ≠ ".")
    (h' : safeFilename raw ≠ "..") : Portable (safeFilename raw) := by
  obtain ⟨hempty, hsafe⟩ := safeFilename_safe raw
  refine ⟨plain_safeFilename raw, fun hmem => ?_, hempty, h, h'⟩
  exact absurd (hsafe '\\' hmem) (by decide)

private theorem splitOn_join {parts : List String} (h : ∀ part ∈ parts, Plain part)
    (hne : parts ≠ []) : (join "/" parts).toList.splitOn '/' = parts.map String.toList := by
  induction parts with
  | nil => exact absurd rfl hne
  | cons part parts ih =>
    obtain ⟨hpart, hparts⟩ := List.forall_mem_cons.mp h
    cases parts with
    | nil => exact List.splitOn_eq_singleton hpart
    | cons part' parts =>
      have hchars : (join "/" (part :: part' :: parts)).toList =
          part.toList ++ '/' :: (join "/" (part' :: parts)).toList := by
        simp [join]
      rw [hchars, List.splitOn_append_cons_self_of_not_mem hpart, ih hparts (List.cons_ne_nil _ _)]
      rfl

/-- A key of portable parts is the path of its parts. -/
theorem pathParts_join {parts : List String} (h : ∀ part ∈ parts, Portable part)
    (hne : parts ≠ []) : pathParts (join "/" parts) = parts := by
  have hparts : (parts.map String.toList).map String.ofList = parts := by
    rw [List.map_map]
    exact (List.map_congr_left fun part _ => String.ofList_toList).trans (List.map_id parts)
  rw [pathParts, splitOn_join (fun part hpart => (h part hpart).plain) hne, hparts,
    List.filter_eq_self]
  intro part hpart
  exact decide_eq_true ⟨(h part hpart).named.1, (h part hpart).named.2.1⟩

private theorem mem_join {parts : List String} {c : Char} (hc : c ∈ (join "/" parts).toList) :
    c = '/' ∨ ∃ part ∈ parts, c ∈ part.toList := by
  induction parts with
  | nil => simp [join] at hc
  | cons part parts ih =>
    cases parts with
    | nil => exact .inr ⟨part, by simp, hc⟩
    | cons part' parts =>
      have hchars : (join "/" (part :: part' :: parts)).toList =
          part.toList ++ '/' :: (join "/" (part' :: parts)).toList := by
        simp [join]
      rw [hchars, List.mem_append, List.mem_cons] at hc
      rcases hc with hc | rfl | hc
      · exact .inr ⟨part, by simp, hc⟩
      · exact .inl rfl
      · refine (ih hc).imp_right ?_
        rintro ⟨x, hx, hc⟩
        exact ⟨x, List.mem_cons_of_mem part hx, hc⟩

/-- The path spells the key. -/
theorem restoredName_eq {parts : List String} (h : ∀ part ∈ parts, Portable part) :
    restoredName parts = join "/" parts := by
  have hsame : ∀ c ∈ (join "/" parts).toList, (if c = '\\' then '/' else c) = c := by
    intro c hc
    refine if_neg ?_
    rintro rfl
    rcases mem_join hc with hslash | ⟨part, hpart, hmem⟩
    · exact absurd hslash (by decide)
    · exact (h part hpart).backslash hmem
  rw [restoredName, List.map_congr_left hsame, List.map_id', String.ofList_toList]

/-! ### The keys of the application -/

/-- The parts of a key that the store is called with. -/
inductive KeyParts : List String → Prop
  | artifact (area : Area) {requestId filename : String} (hr : Portable requestId)
    (hf : Portable filename) : KeyParts [area.toStr, requestId, filename]
  | upload {userIdHash uploadId filename : String} (hu : Portable userIdHash)
    (hid : Portable uploadId) (hf : Portable filename) :
    KeyParts ["uploads", userIdHash, uploadId, filename]

/-- All parts of a key are file names. -/
theorem KeyParts.portable {parts : List String} (h : KeyParts parts) :
    ∀ part ∈ parts, Portable part := by
  cases h with
  | artifact area hr hf =>
    have harea : Portable area.toStr := by cases area <;> decide
    simp [harea, hr, hf]
  | upload hu hid hf =>
    have huploads : Portable "uploads" := by decide
    simp [huploads, hu, hid, hf]

private theorem KeyParts.ne_nil {parts : List String} (h : KeyParts parts) : parts ≠ [] := by
  cases h <;> exact List.cons_ne_nil _ _

/-- No key is on the path of another. -/
theorem KeyParts.not_onPath {parts parts' : List String} (h : KeyParts parts)
    (h' : KeyParts parts') : ¬ OnPath parts parts' := by
  rintro ⟨hbegins, hne⟩
  have hareas (area : Area) : area.toStr ≠ "uploads" := by cases area <;> decide
  cases h with
  | artifact area hr hf =>
    cases h' with
    | artifact area' hr' hf' => exact hne (hbegins.eq_of_length rfl)
    | upload hu' hid' hf' => exact hareas area (List.cons_prefix_cons.mp hbegins).1
  | upload hu hid hf =>
    cases h' with
    | artifact area' hr' hf' => exact hareas area' (List.cons_prefix_cons.mp hbegins).1.symm
    | upload hu' hid' hf' => exact hne (hbegins.eq_of_length rfl)

/-- The keys of the bucket are keys of the application. -/
def Keyed (b : Bucket) : Prop :=
  ∀ name, (b name).isSome = true → ∃ parts, KeyParts parts ∧ name = join "/" parts

section Calls

variable {F : Type} {codec : JsonCodec F}

/-- The names of a call are portable. -/
def StoreCall.Portable : StoreCall F → Prop
  | .putJson _ requestId filename _ =>
    Persistence.Portable requestId ∧ Persistence.Portable filename
  | .putBytes _ requestId filename _ =>
    Persistence.Portable requestId ∧ Persistence.Portable filename
  | .putUpload userIdHash uploadId filename _ => Persistence.Portable userIdHash ∧
      Persistence.Portable uploadId ∧ Persistence.Portable filename
  | .copyToFinal requestId filename =>
    Persistence.Portable requestId ∧ Persistence.Portable filename

/-- A write under a key of the application keeps to such keys. -/
theorem Keyed.put {b : Bucket} (h : Keyed b) {parts : List String} (hparts : KeyParts parts)
    {name : String} (hname : name = join "/" parts) (data : ByteArray) :
    Keyed (b.put name data) := by
  intro name' hsome
  by_cases heq : name' = name
  · exact ⟨parts, hparts, heq.trans hname⟩
  · rw [b.put_of_ne heq] at hsome
    exact h name' hsome

private theorem objectName_eq_join (area : Area) (requestId filename : String) :
    objectName area requestId filename = join "/" [area.toStr, requestId, filename] := by
  simp [objectName, join, String.append_assoc]

private theorem uploadName_eq_join (userIdHash uploadId filename : String) :
    uploadName userIdHash uploadId filename =
      join "/" ["uploads", userIdHash, uploadId, filename] := by
  simp [uploadName, join, ← String.append_assoc]

private theorem keyed_effect {b : Bucket} (h : Keyed b) {c : StoreCall F} (hc : c.Portable) :
    Keyed (c.effect codec b) := by
  cases c with
  | putJson area requestId filename data =>
    exact h.put (.artifact area hc.1 hc.2) (objectName_eq_join _ _ _) _
  | putBytes area requestId filename data =>
    exact h.put (.artifact area hc.1 hc.2) (objectName_eq_join _ _ _) _
  | putUpload userIdHash uploadId filename data =>
    exact h.put (.upload hc.1 hc.2.1 hc.2.2) (uploadName_eq_join _ _ _) _
  | copyToFinal requestId filename =>
    change Keyed (b.copyToFinal requestId filename)
    rw [Bucket.copyToFinal]
    split
    · exact h
    · split
      · exact h.put (.artifact .final hc.1 hc.2) (objectName_eq_join _ _ _) _
      · exact h

private theorem keyed_exec {b : Bucket} (h : Keyed b) {run : List (StoreCall F)}
    (hrun : ∀ c ∈ run, c.Portable) : Keyed (Run.exec (StoreCall.effect codec) b run) := by
  induction run generalizing b with
  | nil => exact h
  | cons c run ih =>
    rw [Run.exec_cons]
    exact ih (keyed_effect h (hrun c List.mem_cons_self)) fun c' hc' =>
      hrun c' (List.mem_cons_of_mem c hc')

end Calls

/-! ### The round trip -/

/-- The file of an object. -/
def fileOf (b : Bucket) (name : String) : List String × ByteArray :=
  (pathParts name, (b name).getD .empty)

private theorem backupMinio_eq {b : Bucket} {names : List String}
    (hsome : ∀ name ∈ names, (b name).isSome = true) :
    backupMinio b names = writeAll [] (names.map (fileOf b)) := by
  rw [backupMinio, writeAll, List.foldlM_map]
  generalize ([] : Files String ByteArray) = files
  induction names generalizing files with
  | nil => rfl
  | cons name names ih =>
    obtain ⟨data, hdata⟩ := Option.isSome_iff_exists.mp (hsome name List.mem_cons_self)
    have hstep : (b name).bind (write files (pathParts name)) =
        write files (fileOf b name).1 (fileOf b name).2 := by
      rw [fileOf, hdata]
      rfl
    rw [List.foldlM_cons, List.foldlM_cons, hstep]
    congr 1
    funext files'
    exact ih (fun x hx => hsome x (List.mem_cons_of_mem name hx)) files'

section Keyed

variable {b : Bucket} {names : List String}

private theorem pathParts_of_keyed (h : Keyed b) {name : String} (hsome : (b name).isSome = true) :
    KeyParts (pathParts name) ∧ restoredName (pathParts name) = name := by
  obtain ⟨parts, hparts, rfl⟩ := h name hsome
  rw [pathParts_join hparts.portable hparts.ne_nil]
  exact ⟨hparts, restoredName_eq hparts.portable⟩

private theorem map_restoredName (h : Keyed b) (hnames : Lists names b) :
    (names.map (fileOf b)).map (fun f => restoredName f.1) = names := by
  rw [List.map_map]
  refine (List.map_congr_left fun name hname => ?_).trans (List.map_id names)
  exact (pathParts_of_keyed h ((hnames.mem_iff name).mp hname)).2

private theorem apart_of_keyed (h : Keyed b) (hnames : Lists names b) :
    Apart (names.map (fileOf b)) := by
  have hparts : ∀ f ∈ names.map (fileOf b), KeyParts f.1 := by
    intro f hf
    obtain ⟨name, hname, rfl⟩ := List.mem_map.mp hf
    exact (pathParts_of_keyed h ((hnames.mem_iff name).mp hname)).1
  refine ⟨?_, fun f hf => (hparts f hf).ne_nil,
    fun f hf g hg => (hparts f hf).not_onPath (hparts g hg)⟩
  have hnodup : ((names.map (fileOf b)).map fun f => restoredName f.1).Nodup := by
    rw [map_restoredName h hnames]
    exact hnames.nodup
  rw [← Function.comp_def restoredName Prod.fst, ← List.map_map] at hnodup
  exact hnodup.of_map restoredName

end Keyed

private theorem restoreMinio_of_notMem {files : Files String ByteArray} {name : String}
    (h : name ∉ files.map fun f => restoredName f.1) (b : Bucket) :
    restoreMinio files b name = b name := by
  induction files generalizing b with
  | nil => rfl
  | cons f files ih =>
    rw [List.map_cons, List.mem_cons, not_or] at h
    exact (ih h.2 _).trans (b.put_of_ne h.1 _)

private theorem restoreMinio_of_mem {files : Files String ByteArray}
    (h : (files.map fun f => restoredName f.1).Nodup) {f : List String × ByteArray}
    (hf : f ∈ files) (b : Bucket) : restoreMinio files b (restoredName f.1) = some f.2 := by
  induction files generalizing b with
  | nil => cases hf
  | cons g files ih =>
    rw [List.map_cons, List.nodup_cons] at h
    rcases List.mem_cons.mp hf with rfl | hf
    · exact (restoreMinio_of_notMem h.1 _).trans (b.put_self _ _)
    · exact ih h.2 hf _

/-- The backup of the bucket succeeds, and brings it back. -/
structure Restores (b : Bucket) (names : List String) : Prop where
  restored : ∃ files, backupMinio b names = some files ∧
    ∀ found : Files String ByteArray, found.Perm files → ∀ target : Bucket,
      restoreMinio found target = fun name => (b name).or (target name)

/-- Whatever the application has stored, a backup can be restored. Its keys are paths of file names,
none of which lies on the path of another, so that each is a file of its own. -/
theorem restores_exec {F : Type} {codec : JsonCodec F} {run : List (StoreCall F)}
    (hrun : ∀ c ∈ run, c.Portable) {names : List String}
    (hnames : Lists names (Run.exec (StoreCall.effect codec) (fun _ => none) run)) :
    Restores (Run.exec (StoreCall.effect codec) (fun _ => none) run) names := by
  have hkeyed : Keyed (Run.exec (StoreCall.effect codec) (fun _ => none) run) :=
    keyed_exec (fun name hsome => by cases hsome) hrun
  generalize Run.exec (StoreCall.effect codec) (fun _ => none) run = b at hkeyed hnames
  refine ⟨names.map (fileOf b), ?_, fun found hfound target => funext fun name => ?_⟩
  · rw [backupMinio_eq fun name hname => (hnames.mem_iff name).mp hname]
    exact writeAll_of_apart (apart_of_keyed hkeyed hnames)
  · have hkeys : (found.map fun f => restoredName f.1).Perm names := by
      have hmap := hfound.map fun f => restoredName f.1
      rwa [map_restoredName hkeyed hnames] at hmap
    cases hname : b name with
    | none =>
      refine restoreMinio_of_notMem (fun hmem => ?_) target
      have hsome := (hnames.mem_iff name).mp (hkeys.mem_iff.mp hmem)
      rw [hname] at hsome
      cases hsome
    | some data =>
      have hsome : (b name).isSome = true := by rw [hname]; rfl
      have hfile : (pathParts name, data) ∈ found := by
        rw [hfound.mem_iff]
        exact List.mem_map.mpr ⟨name, (hnames.mem_iff name).mpr hsome, by rw [fileOf, hname]; rfl⟩
      have hdata := restoreMinio_of_mem (hkeys.nodup_iff.mpr hnames.nodup) hfile target
      rw [(pathParts_of_keyed hkeyed hsome).2] at hdata
      exact hdata

/-- A bucket with one upload is restored. -/
theorem restores_upload : Restores (Run.exec (StoreCall.effect wholeCodec) (fun _ => none)
    [.putUpload "hash" "id1" "an_invoice.PDF" ⟨#[37]⟩]) ["uploads/hash/id1/an_invoice.PDF"] := by
  have hportable : ∀ c ∈ [StoreCall.putUpload (F := ℤ) "hash" "id1" "an_invoice.PDF" ⟨#[37]⟩],
      c.Portable := by
    intro c hc
    obtain rfl := List.mem_singleton.mp hc
    exact ⟨by decide, by decide, by decide⟩
  refine restores_exec hportable ⟨by decide, fun name => ?_⟩
  rw [List.mem_singleton]
  constructor
  · rintro rfl
    rfl
  · intro hsome
    by_contra hne
    have hkey : uploadName "hash" "id1" "an_invoice.PDF" = "uploads/hash/id1/an_invoice.PDF" := by
      decide
    have hnone : Bucket.put (fun _ => none) (uploadName "hash" "id1" "an_invoice.PDF") ⟨#[37]⟩
        name = none := Bucket.put_of_ne _ (hkey ▸ hne) _
    rw [Run.exec_cons, Run.exec_nil, StoreCall.effect, hnone] at hsome
    cases hsome

end DecisionCenter.Persistence
