import DecisionCenter.Data.Dedup
import DecisionCenter.Graph.FinancialSnapshot
import DecisionCenter.Graph.State

/-!
# Normalisation and deduplication

Node 9 (`apps/edr/graph/node_09_normalize.py`) drops duplicates twice: by source URI and content
hash, where an item of a source with a higher priority replaces the one kept so far, and by
title within a source type, where the first item stays. The module compares the financial totals
node 12 extracts before and after it.

The two passes are `keepBest` and `keepFirst` of `Data.Dedup`, with the source's keys and ranks.
From the library come the facts that do not depend on either: what is kept has different keys,
stands in the order of arrival, and represents what was dropped.

`Represents` is what the node is for: the result makes up nothing, holds no two items with one
key, keeps for each item one of its key that it does not outrank, in the first pass, or the
first of its title, in the second, and is left as it is by another run.
`normalizeRun_represents` has this of every pack, in any order.

As to totals, Odoo items outrank all others, so that the first pass keeps them all where they
are distinct (`mem_odooEvidence_hashPass`), and the second drops exactly those whose title
another one has had before (`mem_odooEvidence_normalize`). Two postings with one title are two
amounts and one title.
-/

namespace DecisionCenter

open Py

variable {F : Type}

/-! ### The two passes -/

/-- `_SOURCE_PRIORITY` -/
def sourcePriority : SourceType → ℕ
  | .odoo => 3
  | .sharepoint => 2
  | .owncloud => 2
  | .email => 1
  | .cad => 0

/-- The key of the primary pass. -/
def hashKey (item : Evidence F) : String × String := (item.sourceUri, item.hashSha256)

/-- `new_priority > existing_priority` -/
def outranks (item existing : Evidence F) : Bool :=
  decide (sourcePriority existing.sourceType < sourcePriority item.sourceType)

/-- Primary pass: deduplicate by `(source_uri, hash_sha256)`. -/
def hashPass (evidence : List (Evidence F)) : List (Evidence F) :=
  Dedup.keepBest hashKey outranks evidence

variable [Text]

/-- `_title_key` -/
def titleKey (item : Evidence F) : Option String :=
  let title := strip item.title
  if title = "" then none else some (lower title)

/-- The key of the secondary pass; items with no title have none. -/
def compositeKey (item : Evidence F) : Option (SourceType × String) :=
  (titleKey item).map fun t => (item.sourceType, t)

/-- Secondary pass: deduplicate by `(source_type, normalised_title)`. -/
def titlePass (evidence : List (Evidence F)) : List (Evidence F) :=
  Dedup.keepFirst compositeKey evidence

/-- What `run` leaves in `state.evidence`. -/
def normalizeEvidence (evidence : List (Evidence F)) : List (Evidence F) :=
  titlePass (hashPass evidence)

/-- `run` of node 9. -/
def normalizeRun (state : DecisionState F) : DecisionState F :=
  { state with evidence := normalizeEvidence state.evidence }

/-! ### What the passes keep -/

/-- The first place of an item's `(source_uri, hash_sha256)` in the list. -/
abbrev arrival (evidence : List (Evidence F)) (item : Evidence F) : ℕ :=
  Dedup.arrival hashKey evidence item

/-- The Odoo items are distinct records. -/
def DistinctOdoo (evidence : List (Evidence F)) : Prop :=
  ((odooEvidence evidence).map (·.sourceUri)).Nodup

omit [Text] in
/-- Distinct records are different items. -/
theorem DistinctOdoo.nodup {evidence : List (Evidence F)} (h : DistinctOdoo evidence) :
    (odooEvidence evidence).Nodup := List.Nodup.of_map _ h

omit [Text] in
private theorem DistinctOdoo.eq_of_uri {evidence : List (Evidence F)} (h : DistinctOdoo evidence)
    {x y : Evidence F} (hx : x ∈ odooEvidence evidence) (hy : y ∈ odooEvidence evidence)
    (huri : x.sourceUri = y.sourceUri) : x = y := List.inj_on_of_nodup_map h hx hy huri

omit [Text] in
/-- Odoo items outrank all others, so the primary pass keeps distinct ones. -/
theorem mem_hashPass_of_odoo {evidence : List (Evidence F)} (hd : DistinctOdoo evidence)
    {y : Evidence F} (hy : y ∈ odooEvidence evidence) : y ∈ hashPass evidence := by
  have hmem := mem_odooEvidence.mp hy
  refine Dedup.mem_keepBest hashKey outranks hmem.1 fun z hz hkey hne => ?_
  have huri : z.sourceUri = y.sourceUri := congrArg Prod.fst hkey
  have hother : z.sourceType ≠ .odoo := fun ht =>
    hne (hd.eq_of_uri (mem_odooEvidence.mpr ⟨hz, ht⟩) hy huri)
  have hlt : sourcePriority z.sourceType < 3 := by
    cases h : z.sourceType <;> simp_all [sourcePriority]
  have hthree : sourcePriority y.sourceType = 3 := by rw [hmem.2]; rfl
  simp only [outranks, hthree, decide_eq_true_eq, decide_eq_false_iff_not]
  omega

omit [Text] in
/-- The primary pass keeps exactly the Odoo items there were. -/
theorem mem_odooEvidence_hashPass {evidence : List (Evidence F)} (hd : DistinctOdoo evidence)
    {y : Evidence F} : y ∈ odooEvidence (hashPass evidence) ↔ y ∈ odooEvidence evidence := by
  constructor
  · intro hy
    obtain ⟨hy, ht⟩ := mem_odooEvidence.mp hy
    exact mem_odooEvidence.mpr ⟨Dedup.mem_of_mem_keepBest hashKey outranks hy, ht⟩
  · intro hy
    exact mem_odooEvidence.mpr ⟨mem_hashPass_of_odoo hd hy, (mem_odooEvidence.mp hy).2⟩

/-- An Odoo item that carries the title of an Odoo item arriving before it. -/
def TitleShadowed (evidence : List (Evidence F)) (y : Evidence F) : Prop :=
  ∃ x ∈ odooEvidence evidence, arrival evidence x < arrival evidence y ∧
    titleKey x = titleKey y ∧ titleKey y ≠ none

/-- Of distinct Odoo items, node 9 drops exactly those whose title has been seen. The pass over the
URIs keeps them all, as their URIs differ. -/
theorem mem_odooEvidence_normalize {evidence : List (Evidence F)} (hd : DistinctOdoo evidence)
    {y : Evidence F} :
    y ∈ odooEvidence (normalizeEvidence evidence) ↔
      y ∈ odooEvidence evidence ∧ ¬ TitleShadowed evidence y := by
  have hkept := Dedup.mem_keepFirst_iff compositeKey (fun _ _ => Nat.lt_asymm)
    (Dedup.pairwise_arrival hashKey outranks evidence) (y := y)
  rw [mem_odooEvidence, normalizeEvidence, titlePass, hashPass, hkept, ← hashPass]
  constructor
  · rintro ⟨⟨hy, hfirst⟩, ht⟩
    refine ⟨(mem_odooEvidence_hashPass hd).mp (mem_odooEvidence.mpr ⟨hy, ht⟩), ?_⟩
    rintro ⟨x, hx, hlt, hkey, hsome⟩
    obtain ⟨k, hk⟩ := Option.ne_none_iff_exists'.mp hsome
    have hxt := (mem_odooEvidence.mp hx).2
    refine hfirst (y.sourceType, k) ?_ x (mem_hashPass_of_odoo hd hx) hlt ?_
    · rw [compositeKey, hk]; rfl
    · rw [compositeKey, hkey, hk, hxt, ht]; rfl
  · rintro ⟨hy, hnot⟩
    have ht := (mem_odooEvidence.mp hy).2
    refine ⟨⟨mem_hashPass_of_odoo hd hy, fun k hk x hx hlt hxk => hnot ?_⟩, ht⟩
    obtain ⟨t, hyt, rfl⟩ := Option.map_eq_some_iff.mp hk
    obtain ⟨t', hxt, hpair⟩ := Option.map_eq_some_iff.mp hxk
    obtain ⟨htype, rfl⟩ := Prod.mk.inj hpair
    have hx' : x ∈ odooEvidence (hashPass evidence) := mem_odooEvidence.mpr ⟨hx, htype.trans ht⟩
    refine ⟨x, (mem_odooEvidence_hashPass hd).mp hx', hlt, hxt.trans hyt.symm, ?_⟩
    rw [hyt]
    exact Option.some_ne_none _

/-! ### The better version stays -/

/-- Items of one source that carry one title, and carry any. -/
def SameTitle (x y : Evidence F) : Prop :=
  x.sourceType = y.sourceType ∧ titleKey x = titleKey y ∧ titleKey y ≠ none

private theorem sameTitle_of_compositeKey {x y : Evidence F} {k : SourceType × String}
    (hx : compositeKey x = some k) (hy : compositeKey y = some k) : SameTitle x y := by
  obtain ⟨t, hxt, rfl⟩ := Option.map_eq_some_iff.mp hx
  obtain ⟨t', hyt, hpair⟩ := Option.map_eq_some_iff.mp hy
  obtain ⟨htype, rfl⟩ := Prod.mk.inj hpair
  refine ⟨htype.symm, hxt.trans hyt.symm, ?_⟩
  rw [hyt]
  exact Option.some_ne_none _

private theorem compositeKey_of_sameTitle {x y : Evidence F} (h : SameTitle x y) :
    ∃ k, compositeKey x = some k ∧ compositeKey y = some k := by
  obtain ⟨htype, htitle, hsome⟩ := h
  obtain ⟨t, ht⟩ := Option.ne_none_iff_exists'.mp hsome
  refine ⟨(y.sourceType, t), ?_, ?_⟩
  · rw [compositeKey, htitle, ht, htype]
    rfl
  · rw [compositeKey, ht]
    rfl

/-- `result` stands for `evidence`: it makes up nothing, has no duplicates under either key, and
has for each item one that is at least as good, or its namesake. -/
structure Represents (evidence result : List (Evidence F)) : Prop where
  mem : ∀ z ∈ result, z ∈ evidence
  hashKeys : result.Pairwise fun x y => hashKey x ≠ hashKey y
  titles : result.Pairwise fun x y => ¬ SameTitle x y
  kept : ∀ x ∈ evidence, ∃ y ∈ evidence, hashKey y = hashKey x ∧
    sourcePriority x.sourceType ≤ sourcePriority y.sourceType ∧
      ∃ z ∈ result, z = y ∨ SameTitle z y

private theorem represents_normalizeEvidence (evidence : List (Evidence F)) :
    Represents evidence (normalizeEvidence evidence) where
  mem z hz := Dedup.mem_of_mem_keepBest hashKey outranks
    ((Dedup.keepFirst_sublist compositeKey _).subset hz)
  hashKeys := List.pairwise_map.mp
    (Dedup.nodup_map_key_keepFirst_keepBest hashKey outranks compositeKey evidence)
  titles := (Dedup.distinct_keepFirst compositeKey (hashPass evidence)).imp
    fun {x y} hne hsame => by
      obtain ⟨k, hx, hy⟩ := compositeKey_of_sameTitle hsame
      exact hne k hx hy
  kept x hx := by
    -- the first pass leaves the best version, the second it or its namesake
    obtain ⟨y, hy, hkey, hle⟩ :=
      Dedup.exists_mem_keepBest hashKey (fun e : Evidence F => sourcePriority e.sourceType) hx
    refine ⟨y, Dedup.mem_of_mem_keepBest hashKey _ hy, hkey, hle, ?_⟩
    obtain ⟨z, hz, rfl | ⟨k, hyk, hzk⟩⟩ := Dedup.exists_mem_keepFirst compositeKey hy
    · exact ⟨z, hz, .inl rfl⟩
    · exact ⟨z, hz, .inr (sameTitle_of_compositeKey hzk hyk)⟩

/-- Node 9 never loses the better version, and what it leaves it leaves again. This holds of items
in any order, of which nothing is assumed. -/
theorem normalizeRun_represents (state : DecisionState F) :
    (normalizeRun (normalizeRun state)).evidence = (normalizeRun state).evidence ∧
      Represents state.evidence (normalizeRun state).evidence :=
  ⟨Dedup.keepFirst_keepBest_idem hashKey outranks compositeKey state.evidence,
    represents_normalizeEvidence state.evidence⟩

end DecisionCenter
