import DecisionCenter.Retrieval.Enabled

/-!
# The pack and the ledger

Coverage is counted where a source is read. Node 9 then drops items, and node 11 adds some, and
neither touches the ledger. The pack that reaches node 12 agrees with the ledger just if every
source that was counted keeps an item, and node 11 adds none of a source that was not; it is
free of duplicates just if node 11 adds no item that is there already.

`PackConsistent` has the two: no two items of the pack have one URI and one hash, and a source
has items in the pack just if its entry counts some. Where node 11 is not asked, or adds
nothing, only the normalisation stands between the ledger and the pack.

What normalisation keeps of a source follows from its two keys. The first pass keeps the first
item of the highest priority for each key, so that an item which no item of a higher source
rivals has one of its source that is kept (`Unrivalled`). The second pass goes by source type
and title, and where a source type has items before, it has one after (`exists_mem_titlePass`).
So a source stays represented just if one of its items is unrivalled.

`packConsistent_iff` is exact over all connectors and plans. A record that self-correction
finds, while node 8 recorded that Odoo has none, is the failing case.
-/

namespace DecisionCenter

open Async Py

variable {F : Type}

/-! ### What normalisation keeps of a source -/

/-- No item with the same URI and hash is of a source with a higher priority. -/
def Unrivalled (items : List (Evidence F)) (x : Evidence F) : Prop :=
  ∀ y ∈ items, hashKey y = hashKey x → sourcePriority y.sourceType ≤ sourcePriority x.sourceType

/-- The primary pass keeps the first item of the highest priority. -/
theorem mem_hashPass_iff {items : List (Evidence F)} {x : Evidence F} :
    x ∈ hashPass items ↔ ∃ l₁ l₂, items = l₁ ++ x :: l₂ ∧
      Dedup.Wins hashKey (fun e => sourcePriority e.sourceType) l₁ x l₂ :=
  Dedup.mem_keepBest_outranks_iff hashKey fun e => sourcePriority e.sourceType

private theorem unrivalled_of_mem_hashPass {items : List (Evidence F)} {x : Evidence F}
    (hx : x ∈ hashPass items) : Unrivalled items x := by
  obtain ⟨l₁, l₂, rfl, hbefore, hafter⟩ := mem_hashPass_iff.mp hx
  intro y hy hkey
  rw [List.mem_append, List.mem_cons] at hy
  obtain hy | rfl | hy := hy
  · exact (hbefore y hy hkey).le
  · exact le_rfl
  · exact hafter y hy hkey

/-- `y` has the key of `x`, and a source of the same priority. -/
def tiesWith (x y : Evidence F) : Bool :=
  decide (hashKey y = hashKey x ∧ sourcePriority y.sourceType = sourcePriority x.sourceType)

private theorem tiesWith_self (x : Evidence F) : tiesWith x x = true := decide_eq_true ⟨rfl, rfl⟩

/-- Of the items that tie with an unrivalled one, the first is kept. -/
theorem exists_mem_hashPass {items : List (Evidence F)} {x : Evidence F} (hx : x ∈ items)
    (hbest : Unrivalled items x) :
    ∃ e ∈ hashPass items, items.find? (tiesWith x) = some e := by
  obtain ⟨e, he⟩ : ∃ e, items.find? (tiesWith x) = some e :=
    Option.isSome_iff_exists.mp (List.find?_isSome.mpr ⟨x, hx, tiesWith_self x⟩)
  refine ⟨e, ?_, he⟩
  obtain ⟨hsame, l₁, l₂, rfl, hfirst⟩ := List.find?_eq_some_iff_append.mp he
  obtain ⟨hkey, hprio⟩ := of_decide_eq_true hsame
  refine mem_hashPass_iff.mpr ⟨l₁, l₂, rfl, fun y hy hyk => ?_, fun y hy hyk => ?_⟩
  · have hle := hbest y (List.mem_append_left _ hy) (hyk.trans hkey)
    have hne : sourcePriority y.sourceType ≠ sourcePriority x.sourceType := fun h => by
      simpa [tiesWith, hyk.trans hkey, h] using hfirst y hy
    change sourcePriority y.sourceType < sourcePriority e.sourceType
    omega
  · have hle := hbest y (by simp [hy]) (hyk.trans hkey)
    change sourcePriority y.sourceType ≤ sourcePriority e.sourceType
    omega

section Normalized

variable [Text]

/-- The secondary pass keeps an item of each source type there is. -/
theorem exists_mem_titlePass {items : List (Evidence F)} {t : SourceType} :
    (∃ e ∈ titlePass items, e.sourceType = t) ↔ ∃ e ∈ items, e.sourceType = t := by
  constructor
  · rintro ⟨e, he, ht⟩
    exact ⟨e, (Dedup.keepFirst_sublist compositeKey items).subset he, ht⟩
  · rintro ⟨x, hx, ht⟩
    obtain ⟨e, he, rfl | ⟨k, hxk, hek⟩⟩ := Dedup.exists_mem_keepFirst compositeKey hx
    · exact ⟨e, he, ht⟩
    · obtain ⟨_, -, rfl⟩ := Option.map_eq_some_iff.mp hxk
      obtain ⟨_, -, hpair⟩ := Option.map_eq_some_iff.mp hek
      exact ⟨e, he, (congrArg Prod.fst hpair).trans ht⟩

/-- Node 9 leaves no duplicates by URI and hash. -/
theorem nodup_hashKey_normalize (items : List (Evidence F)) :
    ((normalizeEvidence items).map hashKey).Nodup :=
  (Dedup.nodup_map_key_keepBest hashKey outranks items).sublist
    ((Dedup.keepFirst_sublist compositeKey _).map hashKey)

namespace Gathered

/-- Of a project source, node 9 keeps an item just if one is unrivalled. The pass over the titles
leaves a source represented that is represented after the first pass. -/
theorem Labelled.exists_mem_normalize {g : Gathered F} (h : g.Labelled) {s : ProjectSource} :
    (∃ e ∈ normalizeEvidence g.reads.items, e.sourceType = s.sourceType) ↔
      ∃ x ∈ g.reads.itemsOf s, Unrivalled g.reads.items x := by
  have hmem : ∀ {x}, x ∈ g.reads.itemsOf s → x ∈ g.reads.items := by
    intro x hx
    rw [Reads.items, List.mem_append, List.mem_append, List.mem_append]
    cases s with
    | odoo => exact .inr hx
    | sharepoint => exact .inl (.inl (.inl hx))
    | email => exact .inl (.inr hx)
  rw [normalizeEvidence, exists_mem_titlePass]
  constructor
  · rintro ⟨e, he, ht⟩
    refine ⟨e, ?_, unrivalled_of_mem_hashPass he⟩
    have hitem := Dedup.mem_of_mem_keepBest hashKey outranks he
    rw [Reads.items, List.mem_append, List.mem_append, List.mem_append] at hitem
    obtain ((hsp | hoc) | hem) | hod := hitem
    · have hlabel := h.project .sharepoint e hsp
      cases s with
      | sharepoint => exact hsp
      | _ => rw [hlabel] at ht; cases ht
    · have hlabel := h.owncloud e hoc
      cases s <;> rw [hlabel] at ht <;> cases ht
    · have hlabel := h.project .email e hem
      cases s with
      | email => exact hem
      | _ => rw [hlabel] at ht; cases ht
    · have hlabel := h.project .odoo e hod
      cases s with
      | odoo => exact hod
      | _ => rw [hlabel] at ht; cases ht
  · rintro ⟨x, hx, hbest⟩
    obtain ⟨e, he, hfind⟩ := exists_mem_hashPass (hmem hx) hbest
    refine ⟨e, he, ?_⟩
    have hties : tiesWith x e = true := List.find?_some hfind
    have hprio := (of_decide_eq_true hties).2
    rw [h.project s x hx] at hprio
    cases s with
    | odoo => cases ht : e.sourceType <;> rw [ht] at hprio <;> first | rfl | cases hprio
    | email => cases ht : e.sourceType <;> rw [ht] at hprio <;> first | rfl | cases hprio
    | sharepoint =>
      -- ownCloud has the same priority, but its items come later
      obtain ⟨e', he'⟩ : ∃ e', g.reads.sharepoint.items.find? (tiesWith x) = some e' :=
        Option.isSome_iff_exists.mp (List.find?_isSome.mpr ⟨x, hx, tiesWith_self x⟩)
      rw [Reads.items, List.append_assoc, List.append_assoc, List.find?_append, he',
        Option.some_or] at hfind
      cases hfind
      exact h.project .sharepoint e (List.mem_of_find?_eq_some he')

end Gathered

end Normalized

/-! ### Consistency up to drafting -/

section Consistency

variable [Text] [Floats F]

omit [Text] [Floats F] in
/-- The items differ in URI or hash, and a project source has been counted just if the pack has an
item of it. -/
def PackConsistent (state : DecisionState F) : Prop :=
  (state.evidence.map hashKey).Nodup ∧
    ∀ s : ProjectSource, 0 < (state.outputs.sourceCoverage.entry s).evidenceCount ↔
      ∃ e ∈ state.evidence, e.sourceType = s.sourceType

omit [Floats F] in
/-- Node 11 adds no item twice, and none that is in the pack. -/
def AddsFresh (g : Gathered F) : Prop :=
  (g.correction.items.map hashKey).Nodup ∧
    ∀ e ∈ g.correction.items, hashKey e ∉ (normalizeEvidence g.reads.items).map hashKey

omit [Text] [Floats F] in
/-- Node 11 adds an item of the source. -/
def Corrects (g : Gathered F) (s : ProjectSource) : Prop :=
  ∃ e ∈ g.correction.items, e.sourceType = s.sourceType

omit [Text] [Floats F] in
/-- If the source was read with success, one of its items is unrivalled or node 11 adds one;
otherwise node 11 adds none. -/
def StaysRepresented (g : Gathered F) (s : ProjectSource) : Prop :=
  (g.reads.itemsOf s ≠ [] →
      (∃ x ∈ g.reads.itemsOf s, Unrivalled g.reads.items x) ∨ Corrects g s) ∧
    (g.reads.itemsOf s = [] → ¬ Corrects g s)

variable {mapping : ProjectMapping}

/-- Node 12 drafts from duplicates only if node 11 added them. -/
theorem Authorized.nodup_ready_iff (a : Authorized F mapping) {g : Gathered F}
    {state : DecisionState F} (h : a.ready? g = some state) :
    (state.evidence.map hashKey).Nodup ↔ AddsFresh g := by
  rw [a.ready_evidence h, List.map_append, List.nodup_append']
  constructor
  · rintro ⟨-, hadded, hdisjoint⟩
    exact ⟨hadded, fun e he hkey => hdisjoint hkey (List.mem_map_of_mem he)⟩
  · rintro ⟨hadded, hfresh⟩
    refine ⟨nodup_hashKey_normalize _, hadded, fun k hk hadd => ?_⟩
    obtain ⟨e, he, rfl⟩ := List.mem_map.mp hadd
    exact hfresh e he hk

/-- A source that stays represented is one the ledger and the pack agree on. The ledger counts what
its node read, and the pack has what nodes 9 and 11 have made of it. -/
theorem Authorized.counted_ready_iff (a : Authorized F mapping) {g : Gathered F}
    (hg : g.Labelled) {state : DecisionState F} (h : a.ready? g = some state)
    (s : ProjectSource) :
    (0 < (state.outputs.sourceCoverage.entry s).evidenceCount ↔
      ∃ e ∈ state.evidence, e.sourceType = s.sourceType) ↔ StaysRepresented g s := by
  obtain ⟨reason, hentry⟩ := a.ready_entry h s
  have hpack : (∃ e ∈ state.evidence, e.sourceType = s.sourceType) ↔
      (∃ x ∈ g.reads.itemsOf s, Unrivalled g.reads.items x) ∨ Corrects g s := by
    rw [a.ready_evidence h, ← hg.exists_mem_normalize, Corrects]
    simp only [List.mem_append, or_and_right, exists_or]
  rw [hpack, hentry, List.length_pos_iff]
  constructor
  · rintro hiff
    exact ⟨hiff.mp, fun hnil hcorrects => hiff.mpr (.inr hcorrects) hnil⟩
  · rintro ⟨hkept, hnone⟩
    refine ⟨hkept, ?_⟩
    rintro (⟨x, hx, -⟩ | hcorrects) hnil
    · rw [hnil] at hx
      cases hx
    · exact hnone hnil hcorrects

/-- In every run, the pack node 12 drafts from agrees with the ledger and holds no duplicates just
if node 11 adds fresh items only and each source stays represented. Both are conditions on what was
retrieved; a run that ends before node 12 has no pack to be judged. -/
theorem packConsistent_iff {S : Type} (world : Connectors F S) (settings : RetrievalSettings)
    (a : Authorized F mapping) (s₀ : S) :
    let g := ((a.gather settings).run world.answer s₀).1
    (∀ state ∈ a.ready? g, PackConsistent state) ↔
      ((a.ready? g).isSome = true → AddsFresh g ∧ ∀ s, StaysRepresented g s) := by
  intro g
  have hlabelled : g.Labelled := world.run_ensures (a.gather_labelled settings) s₀
  constructor
  · intro h hready
    obtain ⟨state, hstate⟩ := Option.isSome_iff_exists.mp hready
    obtain ⟨hnodup, hcounted⟩ := h state hstate
    exact ⟨(a.nodup_ready_iff hstate).mp hnodup,
      fun s => (a.counted_ready_iff hlabelled hstate s).mp (hcounted s)⟩
  · intro h state hstate
    obtain ⟨hfresh, hstays⟩ := h (Option.isSome_of_mem hstate)
    exact ⟨(a.nodup_ready_iff hstate).mpr hfresh,
      fun s => (a.counted_ready_iff hlabelled hstate s).mpr (hstays s)⟩

end Consistency

section Whole

open Py.Whole

/-- The project's record in Odoo. -/
def yardRecord : Evidence ℤ :=
  { evidenceId := "odoo-project-project-9", sourceType := .odoo
    sourceUri := "odoo://project.project/9", title := "Yard", timestamp := none
    excerpt := "Yard", hashSha256 := "h9", confidence := .high, tags := [], metadata := [] }

/-- Connectors that find the record at the second read of Odoo, and a planner that asks for it. -/
def lateConnectors : Connectors ℤ Bool where
  answer c again := match c with
    | .read (.odoo _) _ => (.ok (if again then [yardRecord] else []), true)
    | .read _ _ => (.ok [], again)
    | .remaining => ((50000 : ℤ), again)
    | .plan => (some (some [("action", .str "source_retry"),
        ("target_sources", .list [.str "odoo"])]), again)
  labelled c again := by
    cases c with
    | read r timeoutMs =>
      cases r with
      | odoo q =>
        rintro items ⟨⟩ e he
        cases again with
        | false => cases he
        | true =>
          rw [List.mem_singleton.mp he]
          rfl
      | _ =>
        rintro items ⟨⟩
        exact AllFrom.nil
    | remaining => trivial
    | plan => trivial

/-- The run of the retrieval phase. -/
def lateRun : Gathered ℤ := ((odooOnlyState.gather {}).run lateConnectors.answer false).1

/-- The pack holds the record that self-correction found, and the ledger says that Odoo has none. -/
theorem not_packConsistent_lateRun :
    ¬ ∀ (S : Type) (world : Connectors ℤ S) (settings : RetrievalSettings)
      (mapping : ProjectMapping) (a : Authorized ℤ mapping) (s₀ : S),
      ∀ state ∈ a.ready? ((a.gather settings).run world.answer s₀).1, PackConsistent state := by
  intro h
  have hpack : (odooOnlyState.ready? lateRun).map (·.evidence) = some [yardRecord] := rfl
  have hcount : (odooOnlyState.ready? lateRun).map
      (fun state => (state.outputs.sourceCoverage.entry .odoo).evidenceCount) = some 0 := rfl
  obtain ⟨state, hstate, hevidence⟩ := Option.map_eq_some_iff.mp hpack
  obtain ⟨-, hcounted⟩ := h Bool lateConnectors {} _ odooOnlyState false state hstate
  have hzero : (state.outputs.sourceCoverage.entry .odoo).evidenceCount = 0 := by
    rw [hstate] at hcount
    exact Option.some.inj hcount
  have hpos := (hcounted .odoo).mpr ⟨yardRecord, by rw [hevidence]; simp, rfl⟩
  omega

end Whole

end DecisionCenter
