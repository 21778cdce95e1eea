import DecisionCenter.Py.Joined
import DecisionCenter.Py.Json
import DecisionCenter.Py.JsonText
import DecisionCenter.Py.Whole
import Mathlib.Data.Set.Insert
import Mathlib.Logic.Function.Basic

/-!
# The evidence cache

`EvidenceCache` of `apps/edr/retrieval/cache.py` files a value under the user, the normalised
query, the project and a fingerprint of the allowed resources, written one after the other with
colons between. A colon within a user id, a query or a project code reads like one of those, so
that two tuples with the same colon-separated parts share an entry, whichever parts are whose.

The fingerprint is a digest of JSON text, of which no more can be asked than that the resources
in question do not collide (`CollisionFree`); it has no colon, being hexadecimal. So keys are
equal just if the texts before the last colon are, and the fingerprints (`buildKey_eq_iff`).
Where the colons of the two texts are aligned, as many of them in the user ids and as many in
the project codes, the text determines its parts (`ownerText_inj`).

The cache has a dictionary in the process and, where there is a client for it, the store of
Redis. A run is any sequence of reads and writes under given tuples, with failures and expiries
of the store, and `Filed` is what holds throughout: every entry was stored under some tuple with
its key, and its query may be cached.

`Isolated` says of all runs that what is read under a tuple was stored under an equal one.
`cacheIsolated_iff` is exact for every set of tuples: those that read alike have to be aligned.
The failing ones have a user id with a colon.
-/

namespace DecisionCenter

open Py

variable {F : Type}

/-! ### Keys -/

/-- What `json` and `hashlib` compute. -/
class JsonHash (F : Type) where
  /-- `json.dumps(v, sort_keys=sort)` -/
  dumps : Bool → Value F → String
  /-- `json.loads(s)`; `none` when it raises. -/
  loads : String → Option (Value F)
  /-- The digits of `hashlib.sha256(s.encode()).hexdigest()`. -/
  sha256 : String → List (Fin 16)

/-- What an entry is filed under, and asked for with. -/
structure CacheTuple (F : Type) where
  userId : String
  query : String
  projectCode : String
  allowedResources : Dict F

section Key

variable [Text]

/-- `" ".join(query.lower().split())` -/
def normalizedQuery (query : String) : String := join " " (splitWords (lower query))

/-- `_NO_CACHE_KEYWORDS` -/
def noCacheKeywords : List String := ["delay", "claim", "payment"]

/-- `_ttl` -/
def cacheTtl (query : String) : ℕ :=
  if noCacheKeywords.any fun kw => contains (lower query) kw then 0 else 21600

variable [JsonHash F]

/-- The first 16 digits of the hash of the resources. -/
def rbacFingerprint (allowedResources : Dict F) : String :=
  String.ofList (((JsonHash.sha256 F (JsonHash.dumps true (.dict allowedResources))).take 16).map
    fun d : Fin 16 => Nat.digitChar d.val)

/-- `_build_key` -/
def buildKey (t : CacheTuple F) : String :=
  "edr:cache:" ++ t.userId ++ ":" ++ normalizedQuery t.query ++ ":" ++ t.projectCode ++ ":" ++
    rbacFingerprint t.allowedResources

end Key

/-! ### The cache -/

/-- `EvidenceCache`: the dictionary, and the store of Redis if there is a client. -/
structure EvidenceCache (F : Type) where
  memory : String → Option (Value F)
  redis : Option (String → Option String)

/-- A call, with what Redis does during it; or Redis drops an entry. -/
inductive CacheOp (F : Type) where
  | get (t : CacheTuple F) (raises : Bool)
  /-- A write that raises may have landed. -/
  | set (t : CacheTuple F) (value : Value F) (raises landed : Bool)
  | expire (key : String)

namespace EvidenceCache

/-- `__init__` -/
def init (connected : Bool) : EvidenceCache F where
  memory _ := none
  redis := if connected then some fun _ => none else none

variable [Text] [JsonHash F]

/-- `get` -/
def get (c : EvidenceCache F) (t : CacheTuple F) (raises : Bool) : Option (Value F) :=
  let key := buildKey t
  let raw := if raises then none else c.redis.bind fun store => store key
  ((raw.filter (· ≠ "")).bind JsonHash.loads).or (c.memory key)

/-- `set` -/
def set (c : EvidenceCache F) (t : CacheTuple F) (value : Value F) (raises landed : Bool) :
    EvidenceCache F :=
  if cacheTtl t.query = 0 then c
  else
    let key := buildKey t
    let payload := JsonHash.dumps false value
    let stored := c.redis.map fun store => Function.update store key (some payload)
    if c.redis.isSome ∧ raises = false then { c with redis := stored }
    else
      { memory := Function.update c.memory key (some value)
        redis := if landed then stored else c.redis }

def apply (c : EvidenceCache F) : CacheOp F → EvidenceCache F
  | .get _ _ => c
  | .set t value raises landed => c.set t value raises landed
  | .expire key => { c with redis := c.redis.map fun store => Function.update store key none }

/-- The cache after some operations. -/
def run (c : EvidenceCache F) (ops : List (CacheOp F)) : EvidenceCache F := ops.foldl apply c

end EvidenceCache

/-! ### Isolation -/

section Isolation

variable [Text]

/-- The tuples are equal, their queries up to normalisation. -/
structure SameOwner (t t' : CacheTuple F) : Prop where
  user : t.userId = t'.userId
  query : normalizedQuery t.query = normalizedQuery t'.query
  project : t.projectCode = t'.projectCode
  resources : t.allowedResources.SameJson t'.allowedResources

/-- The operation is a call with one of the tuples, if it is a call. -/
def CacheOp.Uses (T : Set (CacheTuple F)) : CacheOp F → Prop
  | .get t _ => t ∈ T
  | .set t _ _ _ => t ∈ T
  | .expire _ => True

/-- One of the operations stores the value under the tuple. -/
def Stores (ops : List (CacheOp F)) (t : CacheTuple F) (value : Value F) : Prop :=
  ∃ raises landed, CacheOp.set t value raises landed ∈ ops

variable [JsonHash F]

/-- What a read during the operations returns was stored before, under a tuple of the same owner. -/
def Isolated (c : EvidenceCache F) (ops : List (CacheOp F)) : Prop :=
  ∀ before after t raises v, ops = before ++ .get t raises :: after →
    (c.run before).get t raises = some v →
      ∃ t' value, Stores before t' value ∧ SameOwner t' t ∧
        (v = value ∨ JsonHash.loads (JsonHash.dumps false value) = some v)

/-- The hashes of different resources are different. -/
def CollisionFree (T : Set (CacheTuple F)) : Prop :=
  ∀ t ∈ T, ∀ t' ∈ T, rbacFingerprint t.allowedResources = rbacFingerprint t'.allowedResources →
    t.allowedResources.SameJson t'.allowedResources

/-- The user, the query and the project as the key has them. -/
def ownerText (t : CacheTuple F) : String :=
  t.userId ++ ":" ++ normalizedQuery t.query ++ ":" ++ t.projectCode

def colons (s : String) : ℕ := s.toList.count ':'

/-- Tuples that read alike have as many colons in the user id, and in the project code. -/
def Aligned (t t' : CacheTuple F) : Prop :=
  rbacFingerprint t.allowedResources = rbacFingerprint t'.allowedResources →
    ownerText t = ownerText t' →
      colons t.userId = colons t'.userId ∧ colons t.projectCode = colons t'.projectCode

omit [Text] in
private theorem colon_notMem_fingerprint (r : Dict F) : ':' ∉ (rbacFingerprint r).toList := by
  rw [rbacFingerprint, String.toList_ofList, List.mem_map]
  rintro ⟨d, -, hd⟩
  have hdigits : ∀ d : Fin 16, Nat.digitChar d.val ≠ ':' := by decide
  exact hdigits d hd

/-- Two keys are the same just if what comes before the last colon is, and the fingerprint. -/
theorem buildKey_eq_iff {t t' : CacheTuple F} : buildKey t = buildKey t' ↔
    ownerText t = ownerText t' ∧
      rbacFingerprint t.allowedResources = rbacFingerprint t'.allowedResources := by
  have hchars (t : CacheTuple F) : (buildKey t).toList = "edr:cache:".toList ++
      ((ownerText t).toList ++ ':' :: (rbacFingerprint t.allowedResources).toList) := by
    simp [buildKey, ownerText]
  have hcount (t : CacheTuple F) :
      (rbacFingerprint t.allowedResources).toList.count ':' = 0 :=
    List.count_eq_zero.mpr (colon_notMem_fingerprint _)
  rw [← String.toList_inj, hchars, hchars, List.append_cancel_left_eq]
  constructor
  · intro h
    obtain ⟨howner, hprint⟩ := append_sep_inj_of_right (by rw [hcount, hcount]) h
    exact ⟨String.toList_inj.mp howner, String.toList_inj.mp hprint⟩
  · rintro ⟨howner, hprint⟩
    rw [howner, hprint]

omit [JsonHash F] in
/-- Where the colons are aligned, the text determines its parts. -/
theorem ownerText_inj {t t' : CacheTuple F} (htext : ownerText t = ownerText t')
    (huser : colons t.userId = colons t'.userId)
    (hproject : colons t.projectCode = colons t'.projectCode) :
    t.userId = t'.userId ∧ normalizedQuery t.query = normalizedQuery t'.query ∧
      t.projectCode = t'.projectCode := by
  have hchars (t : CacheTuple F) : (ownerText t).toList = t.userId.toList ++
      ':' :: ((normalizedQuery t.query).toList ++ ':' :: t.projectCode.toList) := by
    simp [ownerText]
  have hlist := congrArg String.toList htext
  rw [hchars, hchars] at hlist
  obtain ⟨huserEq, hrest⟩ := append_sep_inj huser hlist
  obtain ⟨hquery, hprojectEq⟩ := append_sep_inj_of_right hproject hrest
  exact ⟨String.toList_inj.mp huserEq, String.toList_inj.mp hquery,
    String.toList_inj.mp hprojectEq⟩

/-! ### Runs -/

/-- Every entry was stored under a tuple with its key, whose query may be cached. -/
structure Filed (ops : List (CacheOp F)) (c : EvidenceCache F) : Prop where
  memory : ∀ key v, c.memory key = some v →
    ∃ t, Stores ops t v ∧ buildKey t = key ∧ cacheTtl t.query ≠ 0
  redis : ∀ store key raw, c.redis = some store → store key = some raw →
    ∃ t value, Stores ops t value ∧ buildKey t = key ∧ cacheTtl t.query ≠ 0 ∧
      raw = JsonHash.dumps false value

omit [Text] [JsonHash F] in
/-- What has been stored has been so after one more operation. -/
theorem Stores.append {ops : List (CacheOp F)} {t : CacheTuple F} {value : Value F}
    (h : Stores ops t value) (op : CacheOp F) : Stores (ops ++ [op]) t value := by
  obtain ⟨raises, landed, hmem⟩ := h
  exact ⟨raises, landed, List.mem_append_left _ hmem⟩

private theorem Filed.weaken {ops : List (CacheOp F)} {c : EvidenceCache F} (h : Filed ops c)
    (op : CacheOp F) : Filed (ops ++ [op]) c where
  memory key v hv := by
    obtain ⟨t, hstores, hkey⟩ := h.memory key v hv
    exact ⟨t, hstores.append op, hkey⟩
  redis store key raw hstore hraw := by
    obtain ⟨t, value, hstores, hkey⟩ := h.redis store key raw hstore hraw
    exact ⟨t, value, hstores.append op, hkey⟩

/-- A write files its value under the key of its tuple. The memory takes it only where Redis raises,
whether or not the write has landed there. -/
theorem Filed.set {ops : List (CacheOp F)} {c : EvidenceCache F} (h : Filed ops c)
    (t : CacheTuple F) (value : Value F) (raises landed : Bool) :
    Filed (ops ++ [.set t value raises landed]) (c.set t value raises landed) := by
  have hkept := h.weaken (.set t value raises landed)
  have hwritten : Stores (ops ++ [.set t value raises landed]) t value :=
    ⟨raises, landed, List.mem_append_right _ (List.mem_singleton_self _)⟩
  rw [EvidenceCache.set]
  split
  · exact hkept
  · next httl =>
    -- the memory takes the write only where Redis raises, landed or not
    have hredis : ∀ store key raw,
        (c.redis.map fun store => Function.update store (buildKey t)
          (some (JsonHash.dumps false value))) = some store → store key = some raw →
        ∃ t' value', Stores (ops ++ [.set t value raises landed]) t' value' ∧
          buildKey t' = key ∧ cacheTtl t'.query ≠ 0 ∧ raw = JsonHash.dumps false value' := by
      intro store key raw hstore hraw
      obtain ⟨old, hold, rfl⟩ := Option.map_eq_some_iff.mp hstore
      by_cases hkey : key = buildKey t
      · rw [hkey, Function.update_self] at hraw
        exact ⟨t, value, hwritten, hkey.symm, httl, (Option.some.inj hraw).symm⟩
      · rw [Function.update_of_ne hkey] at hraw
        exact hkept.redis old key raw hold hraw
    dsimp only
    split
    · exact ⟨hkept.memory, hredis⟩
    · refine ⟨fun key v hv => ?_, ?_⟩
      · have hv : Function.update c.memory (buildKey t) (some value) key = some v := hv
        by_cases hkey : key = buildKey t
        · rw [hkey, Function.update_self] at hv
          exact ⟨t, Option.some.inj hv ▸ hwritten, hkey.symm, httl⟩
        · rw [Function.update_of_ne hkey] at hv
          exact hkept.memory key v hv
      · cases landed with
        | true => exact hredis
        | false => exact hkept.redis

/-- Every operation keeps the entries filed: a write adds one under the key of its tuple, and
nothing else adds any. -/
theorem Filed.apply {ops : List (CacheOp F)} {c : EvidenceCache F} (h : Filed ops c)
    (op : CacheOp F) : Filed (ops ++ [op]) (c.apply op) := by
  cases op with
  | get t raises => exact h.weaken _
  | set t value raises landed => exact h.set t value raises landed
  | expire key =>
    have hkept := h.weaken (.expire key)
    refine ⟨hkept.memory, fun store key' raw hstore hraw => ?_⟩
    obtain ⟨old, hold, rfl⟩ := Option.map_eq_some_iff.mp hstore
    by_cases hkey : key' = key
    · rw [hkey, Function.update_self] at hraw
      cases hraw
    · rw [Function.update_of_ne hkey] at hraw
      exact hkept.redis old key' raw hold hraw

private theorem filed_run (connected : Bool) (ops : List (CacheOp F)) :
    Filed ops ((EvidenceCache.init connected).run ops) := by
  induction ops using List.reverseRecOn with
  | nil =>
    refine ⟨nofun, fun store key raw hstore hraw => ?_⟩
    cases connected with
    | true =>
      obtain rfl := Option.some.inj hstore
      cases hraw
    | false => cases hstore
  | append_singleton ops op ih =>
    rw [EvidenceCache.run, List.foldl_append]
    exact ih.apply op

/-- What a read returns was stored under a tuple with the same key. -/
theorem exists_stores_of_get {connected raises : Bool} {ops : List (CacheOp F)}
    {t : CacheTuple F} {v : Value F}
    (h : ((EvidenceCache.init connected).run ops).get t raises = some v) :
    ∃ t' value, Stores ops t' value ∧ buildKey t' = buildKey t ∧ cacheTtl t'.query ≠ 0 ∧
      (v = value ∨ JsonHash.loads (JsonHash.dumps false value) = some v) := by
  have hfiled := filed_run connected ops
  rw [EvidenceCache.get] at h
  rcases Option.or_eq_some_iff.mp h with hloaded | ⟨-, hmemory⟩
  · obtain ⟨raw, hraw, hloads⟩ := Option.bind_eq_some_iff.mp hloaded
    obtain ⟨hraw, -⟩ := Option.filter_eq_some_iff.mp hraw
    split at hraw
    · cases hraw
    · obtain ⟨store, hstore, hraw⟩ := Option.bind_eq_some_iff.mp hraw
      obtain ⟨t', value, hstores, hkey, httl, rfl⟩ := hfiled.redis store _ raw hstore hraw
      exact ⟨t', value, hstores, hkey, httl, .inr hloads⟩
  · obtain ⟨t', hstores, hkey, httl⟩ := hfiled.memory _ v hmemory
    exact ⟨t', v, hstores, hkey, httl, .inl rfl⟩

/-- Every sequence of operations on some tuples keeps them apart exactly when the tuples that read
alike, and whose query may be cached, have the colons in the same places. One write and one read are
enough to mix up two tuples that do not. -/
theorem cacheIsolated_iff (T : Set (CacheTuple F)) (hhash : CollisionFree T) :
    (∀ connected ops, (∀ op ∈ ops, CacheOp.Uses T op) → Isolated (.init connected) ops) ↔
      ∀ t ∈ T, cacheTtl t.query ≠ 0 → ∀ t' ∈ T, Aligned t t' := by
  constructor
  · intro hisolated t ht httl t' ht' hprint htext
    have hkey : buildKey t = buildKey t' := buildKey_eq_iff.mpr ⟨htext, hprint⟩
    have huses : ∀ op ∈ [CacheOp.set t .null false false, .get t' false], op.Uses T := by
      simp [CacheOp.Uses, ht, ht']
    have hread : ((EvidenceCache.init false).run [.set t .null false false]).get t' false =
        some .null := by
      simp [EvidenceCache.run, EvidenceCache.apply, EvidenceCache.set, EvidenceCache.init,
        EvidenceCache.get, httl, hkey]
    obtain ⟨t₀, value, ⟨raises, landed, hmem⟩, howner, -⟩ :=
      hisolated false _ huses [.set t .null false false] [] t' false .null rfl hread
    obtain ⟨rfl, -⟩ := CacheOp.set.inj (List.mem_singleton.mp hmem)
    rw [howner.user, howner.project]
    exact ⟨rfl, rfl⟩
  · rintro haligned connected ops huses before after t raises v rfl hread
    obtain ⟨t', value, hstores, hkey, httl, hvalue⟩ := exists_stores_of_get hread
    obtain ⟨htext, hprint⟩ := buildKey_eq_iff.mp hkey
    have ht : t ∈ T := huses (.get t raises) (by simp)
    have ht' : t' ∈ T := by
      obtain ⟨raises', landed, hmem⟩ := hstores
      exact huses (.set t' value raises' landed) (by simp [hmem])
    obtain ⟨hcolons, hcolons'⟩ := haligned t' ht' httl t ht hprint htext
    obtain ⟨huser, hquery, hproject⟩ := ownerText_inj htext hcolons hcolons'
    exact ⟨t', value, hstores, ⟨huser, hquery, hproject, hhash t' ht' t ht hprint⟩, hvalue⟩

end Isolation

section Whole

open Py.Whole

/-- The JSON of whole numbers, for objects with their keys in order, and a table of hashes with the
text of one mailbox in it. -/
scoped instance mailboxHash : JsonHash ℤ where
  dumps _ := JsonText.dumps (.plain fun x => JsonText.intText x ++ ['.', '0'])
  loads := JsonText.loads
    ⟨.int, fun text => (String.ofList (text.takeWhile (· ≠ '.'))).toInt?.map .float, []⟩
  sha256 text :=
    if text = "\x7b\"mailboxes\": [\"a@b.com\"]\x7d" then
      [14, 13, 6, 0, 1, 6, 2, 4, 15, 7, 6, 2, 10, 15, 0, 15, 14, 4, 14, 2, 2, 3, 10, 7, 13, 8, 9, 9,
        15, 11, 13, 1, 7, 15, 5, 10, 4, 12, 15, 15, 8, 0, 4, 2, 2, 11, 14, 9, 6, 6, 7, 5, 14, 5, 3,
        0, 2, 5, 1, 13, 3, 6, 6, 5]
    else []

/-- A status query of a user who may read one mailbox. -/
def mailboxTuple (userId query : String) : CacheTuple ℤ where
  userId := userId
  query := query
  projectCode := "PRJ-001"
  allowedResources := [("mailboxes", .list [.str "a@b.com"])]

private theorem collisionFree_mailbox (userId query userId' query' : String) :
    CollisionFree {mailboxTuple userId query, mailboxTuple userId' query'} := by
  rintro t (rfl | rfl) t' (rfl | rfl) - <;> exact .of_eq rfl

/-- Users without a colon in their ids do not share an entry. -/
theorem cacheIsolated_twoUsers : Isolated (.init true)
    [.set (mailboxTuple "alice" "status") .null false true,
      .get (mailboxTuple "bob" "status") false] := by
  refine (cacheIsolated_iff {mailboxTuple "alice" "status", mailboxTuple "bob" "status"}
    (collisionFree_mailbox _ _ _ _)).mpr ?_ true _ (by simp [CacheOp.Uses])
  rintro t (rfl | rfl) - t' (rfl | rfl) - htext
  · exact ⟨rfl, rfl⟩
  · exact absurd htext (by decide +kernel)
  · exact absurd htext (by decide +kernel)
  · exact ⟨rfl, rfl⟩

/-- A user whose id ends where the query of another one starts is served that user's entry. The key
joins its parts by colons, and both tuples give the same text. -/
theorem not_cacheIsolated_colonUser : ¬ ∀ T : Set (CacheTuple ℤ), CollisionFree T →
    ∀ connected ops, (∀ op ∈ ops, CacheOp.Uses T op) → Isolated (.init connected) ops := by
  intro hall
  let alice := mailboxTuple "alice" "bob:status"
  let bob := mailboxTuple "alice:bob" "status"
  have hkey : buildKey alice = buildKey bob := by decide +kernel
  have httl : cacheTtl alice.query ≠ 0 := by decide +kernel
  have hread : ((EvidenceCache.init false).run [.set alice .null false false]).get bob false =
      some .null := by
    simp [EvidenceCache.run, EvidenceCache.apply, EvidenceCache.set, EvidenceCache.init,
      EvidenceCache.get, httl, hkey]
  have huses : ∀ op ∈ [CacheOp.set alice .null false false, .get bob false],
      op.Uses {alice, bob} := by
    simp [CacheOp.Uses]
  obtain ⟨t, value, ⟨raises, landed, hmem⟩, howner, -⟩ :=
    hall {alice, bob} (collisionFree_mailbox _ _ _ _) false _ huses
      [.set alice .null false false] [] bob false .null rfl hread
  obtain ⟨rfl, -⟩ := CacheOp.set.inj (List.mem_singleton.mp hmem)
  exact absurd howner.user (by decide)

end Whole

end DecisionCenter
