import DecisionCenter.Py.Value

/-!
# Values as JSON

A column that holds JSON keeps the entries of an object, not their order, and a program that
reads the column back gets a dictionary which prints differently and is the same to every
lookup. `SameJson` is that relation: the same is found at the end of every path into the two
values (`Shape`: a scalar, a list with its length, an object, or nothing).

It is an equivalence relation, and a step leads to values that are the same JSON, or nowhere in
both (`SameJson.child`). Scalars are the same JSON just if they are equal, lists one by one
(`eq_list`), and a value that is the same JSON as an object is one (`eq_dict`). A round trip
through a column is proved up to `SameJson`, and what a program reads of the result by keys is
then equal.

Keys that occur twice in a list of items play no part: a path leads to the first of them, as a
lookup does.
-/

namespace Py

variable {F : Type}

/-- A step into a value. -/
inductive PathStep where
  | key (k : String)
  | index (i : ℕ)

/-- What is found at the end of a path. -/
inductive Shape (F : Type) where
  | null
  | bool (b : Bool)
  | int (i : ℤ)
  | float (x : F)
  | str (s : String)
  | list (length : ℕ)
  | dict
  deriving DecidableEq

namespace Value

def shape : Value F → Shape F
  | .null => .null
  | .bool b => .bool b
  | .int i => .int i
  | .float x => .float x
  | .str s => .str s
  | .list xs => .list xs.length
  | .dict _ => .dict

/-- The value a step leads to. -/
def child (v : Value F) : PathStep → Option (Value F)
  | .key k => v.asDict?.bind fun d => d.get? k
  | .index i => v.asList?.bind fun xs => xs[i]?

def shapeAt : List PathStep → Value F → Option (Shape F)
  | [], v => some v.shape
  | step :: path, v => (v.child step).bind (shapeAt path)

/-- The two are the same JSON. -/
def SameJson (v w : Value F) : Prop := ∀ path, v.shapeAt path = w.shapeAt path

namespace SameJson

variable {u v w : Value F}

/-- Every value is the same JSON as itself. -/
theorem refl (v : Value F) : v.SameJson v := fun _ => rfl

/-- Being the same JSON goes both ways. -/
theorem symm (h : v.SameJson w) : w.SameJson v := fun path => (h path).symm

/-- Being the same JSON goes from one value to the next. -/
theorem trans (h : u.SameJson v) (h' : v.SameJson w) : u.SameJson w := fun path =>
  (h path).trans (h' path)

/-- The kind of a value can be told from its JSON. -/
theorem shape_eq (h : v.SameJson w) : v.shape = w.shape := Option.some.inj (h [])

/-- A step leads to the same JSON in both, or nowhere. -/
theorem child {step : PathStep} {w' : Value F} (h : v.SameJson w) (hw : w.child step = some w') :
    ∃ v', v.child step = some v' ∧ v'.SameJson w' := by
  have hstep : ∀ path, (v.child step).bind (shapeAt path) = shapeAt path w' := by
    intro path
    refine (h (step :: path)).trans ?_
    rw [shapeAt, hw, Option.bind_some]
  cases hv : v.child step with
  | none =>
    have hnone := hstep []
    rw [hv] at hnone
    cases hnone
  | some v' =>
    refine ⟨v', rfl, fun path => ?_⟩
    rw [← hstep path, hv, Option.bind_some]

/-- What is the same JSON as a text is this text. -/
theorem eq_str {s : String} (h : v.SameJson (.str s)) : v = .str s := by
  have hshape := h.shape_eq
  cases v <;> simp_all [shape]

/-- What is the same JSON as an integer is this integer. -/
theorem eq_int {i : ℤ} (h : v.SameJson (.int i)) : v = .int i := by
  have hshape := h.shape_eq
  cases v <;> simp_all [shape]

/-- What is the same JSON as a truth value is this one. -/
theorem eq_bool {b : Bool} (h : v.SameJson (.bool b)) : v = .bool b := by
  have hshape := h.shape_eq
  cases v <;> simp_all [shape]

/-- What is the same JSON as an object is an object, with its entries in any order. -/
theorem eq_dict {d : Dict F} (h : v.SameJson (.dict d)) : ∃ d', v = .dict d' := by
  have hshape := h.shape_eq
  cases v <;> simp_all [shape]

/-- The elements of a list are the same one by one. -/
theorem eq_list {ws : List (Value F)} (h : v.SameJson (.list ws)) :
    ∃ vs, v = .list vs ∧ List.Forall₂ SameJson vs ws := by
  have hshape := h.shape_eq
  cases v with
  | list vs =>
    have hlength : vs.length = ws.length := by
      injection hshape
    refine ⟨vs, rfl, List.forall₂_iff_get.mpr ⟨hlength, fun i hv hw => ?_⟩⟩
    have hw' : (Value.list ws).child (.index i) = some ws[i] := List.getElem?_eq_getElem hw
    obtain ⟨v', hv', hsame⟩ := h.child hw'
    obtain rfl := Option.some.inj ((List.getElem?_eq_getElem hv).symm.trans hv')
    exact hsame
  | _ => cases hshape

end SameJson

end Value

namespace Dict

/-- The two are the same JSON object. -/
def SameJson (d d' : Dict F) : Prop := (Value.dict d).SameJson (.dict d')

/-- Equal objects are the same JSON. -/
theorem SameJson.of_eq {d d' : Dict F} (h : d = d') : d.SameJson d' := h ▸ Value.SameJson.refl _

/-- Under each key, objects that are the same JSON have values that are. -/
theorem SameJson.get? {d d' : Dict F} {k : String} {w : Value F} (h : d.SameJson d')
    (hw : d'.get? k = some w) : ∃ v, d.get? k = some v ∧ v.SameJson w := by
  have hchild : (Value.dict d').child (.key k) = some w := hw
  exact Value.SameJson.child h hchild

end Dict

end Py
