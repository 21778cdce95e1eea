import DecisionCenter.Py.Runtime

/-!
# Evidence items

`EvidenceObject` (`apps/edr/schemas/evidence.py`): the record every connector answer is
validated into and every item of `state.evidence` is dumped from. All of the retrieval, the
drafting and the checks of a report work on lists of these items.

An item comes from one source, has an id by which a report cites it, a title, a time, an
excerpt, a hash of its content, a confidence, tags and metadata. Metadata values are scalars or
lists of scalars; a number is taken at its float value, as the passes that read amounts do.
`metaStr` is the text of a metadata value where it is asked for as a text.

The fields that no modelled function reads (`project_code`, `contract_no`, `revision`) are left
out. Time stamps stay texts: they are compared and shown, never computed with.

`evidenceIds` are the ids of a pack and `odooEvidence` the items that come from Odoo. An id can
occur twice in a pack, and so can a title; what holds of packs where they do not is said where
it is used.
-/

namespace DecisionCenter

open Py

/-- `EvidenceObject.source_type` -/
inductive SourceType where
  | sharepoint
  | owncloud
  | email
  | odoo
  | cad
  deriving DecidableEq, Repr

namespace SourceType

/-- The literal the field holds in JSON. -/
def toStr : SourceType → String
  | .sharepoint => "sharepoint"
  | .owncloud => "owncloud"
  | .email => "email"
  | .odoo => "odoo"
  | .cad => "cad"

end SourceType

/-- `EvidenceObject.confidence` -/
inductive Confidence where
  | high
  | medium
  | low
  deriving DecidableEq, Repr

namespace Confidence

def toStr : Confidence → String
  | .high => "high"
  | .medium => "medium"
  | .low => "low"

end Confidence

/-- `_MetadataScalar` -/
inductive Scalar (F : Type) where
  | null
  | bool (b : Bool)
  | num (x : F)
  | str (s : String)

/-- `_MetadataValue` -/
inductive MetaValue (F : Type) where
  | scalar (v : Scalar F)
  | list (vs : List (Scalar F))

/-- The metadata scalar as a Python value. -/
def Scalar.toValue {F : Type} : Scalar F → Value F
  | .null => .null
  | .bool b => .bool b
  | .num x => .float x
  | .str s => .str s

/-- The metadata value as a Python value. -/
def MetaValue.toValue {F : Type} : MetaValue F → Value F
  | .scalar v => v.toValue
  | .list vs => .list (vs.map Scalar.toValue)

/-- `EvidenceObject.model_dump()` -/
structure Evidence (F : Type) where
  evidenceId : String
  sourceType : SourceType
  sourceUri : String
  title : String
  timestamp : Option String
  excerpt : String
  hashSha256 : String
  confidence : Confidence
  tags : List String
  metadata : List (String × MetaValue F)

variable {F : Type}

namespace Evidence

/-- `ev["metadata"].get(key)` -/
def metaGet (ev : Evidence F) (key : String) : Option (MetaValue F) := ev.metadata.lookup key

/-- `ev["metadata"].get(key)` when it is a string. -/
def metaStr (ev : Evidence F) (key : String) : Option String :=
  match ev.metaGet key with
  | some (.scalar (.str s)) => some s
  | _ => none

/-- `ev["source_type"] == "odoo"` -/
def isOdoo (ev : Evidence F) : Bool := decide (ev.sourceType = .odoo)

/-- The test for an Odoo item, as an equation. -/
theorem isOdoo_iff {ev : Evidence F} : ev.isOdoo = true ↔ ev.sourceType = .odoo := by
  simp [isOdoo]

end Evidence

/-- `{e.get("evidence_id", "") for e in evidence}` -/
def evidenceIds (evidence : List (Evidence F)) : List String := evidence.map (·.evidenceId)

/-- `[e for e in evidence if e.get("source_type") == "odoo"]` -/
def odooEvidence (evidence : List (Evidence F)) : List (Evidence F) :=
  evidence.filter (·.isOdoo)

/-- The Odoo items of a pack are those of its items that Odoo is the source of. -/
theorem mem_odooEvidence {evidence : List (Evidence F)} {ev : Evidence F} :
    ev ∈ odooEvidence evidence ↔ ev ∈ evidence ∧ ev.sourceType = .odoo := by
  simp [odooEvidence, Evidence.isOdoo]

/-- An Odoo item's id is the id of an item of the pack. -/
theorem mem_evidenceIds_of_odoo {evidence : List (Evidence F)} {id : String}
    (h : id ∈ evidenceIds (odooEvidence evidence)) : id ∈ evidenceIds evidence := by
  simp only [evidenceIds, List.mem_map, mem_odooEvidence] at h ⊢
  obtain ⟨ev, ⟨hev, -⟩, rfl⟩ := h
  exact ⟨ev, hev, rfl⟩

end DecisionCenter
