import Mathlib.Data.Int.Notation
import Mathlib.Data.List.Forall2

/-!
# Python values and exceptions

The values a Python program exchanges as JSON: `None`, booleans, integers, floats, strings,
lists and string-keyed dictionaries. Floats are a type parameter `F`; nothing here looks inside
it. A dictionary is its list of items in insertion order, so that updating a key keeps its place
and a new key goes to the end, as in Python.

A computation that may raise is an `Except Error`, and `Completes` says that it does not. What
returned can be taken apart step by step: `bind_eq_ok` for a sequence of statements,
`mapM_eq_ok` for a loop, `modifyM_eq_ok` for a rewriting of one entry. With these a function of
the source is inverted once, and its callers cite the result.

`Dict.Frame keys` says of two dictionaries that they differ in the entries of `keys` only. Every
pass over a report has its frame, frames compose (`Frame.trans`, `Frame.mono`), and what lies
outside is read as before (`Frame.dict?_eq`, `Frame.get_eq`). Most of what is said about a
sequence of passes is said this way.

The methods of the values (`isinstance`, `==` with a literal, membership in a set of strings,
iteration) raise where Python's do: an unhashable value in a set, an iteration over a number.
-/

namespace Py

/-- The exception classes the programs modelled here can raise. -/
inductive Error where
  | typeError
  | attributeError
  | valueError
  | overflowError
  | validationError
  deriving DecidableEq, Repr

/-- A Python value, as `json.loads` builds them. -/
inductive Value (F : Type) where
  | null
  | bool (b : Bool)
  | int (i : ℤ)
  | float (x : F)
  | str (s : String)
  | list (xs : List (Value F))
  | dict (items : List (String × Value F))

/-- A `dict` with string keys: its items in insertion order. -/
abbrev Dict (F : Type) := List (String × Value F)

variable {F α β : Type}

/-! ### Computations that may raise -/

/-- The computation returns: no exception escapes it. -/
def Completes (x : Except Error α) : Prop := ∃ a, x = .ok a

/-- A sequence returns `b` if its first part returns something with which the second one returns it.
-/
theorem bind_eq_ok {ε : Type} {x : Except ε α} {f : α → Except ε β} {b : β} :
    (x >>= f) = .ok b ↔ ∃ a, x = .ok a ∧ f a = .ok b := by
  cases x with
  | error e => simp [bind, Except.bind]
  | ok a => simp [bind, Except.bind]

/-- A sequence returns something if its first part does, and the second part does with it. -/
theorem completes_bind {x : Except Error α} {f : α → Except Error β} :
    Completes (x >>= f) ↔ ∃ a, x = .ok a ∧ Completes (f a) := by
  simp only [Completes, bind_eq_ok]
  constructor
  · rintro ⟨b, a, ha, hb⟩; exact ⟨a, ha, b, hb⟩
  · rintro ⟨a, ha, b, hb⟩; exact ⟨b, a, ha, hb⟩

@[simp] theorem completes_pure (a : α) : Completes (pure a : Except Error α) := ⟨a, rfl⟩

@[simp] theorem completes_ok (a : α) : Completes (.ok a : Except Error α) := ⟨a, rfl⟩

@[simp] theorem not_completes_error (e : Error) : ¬ Completes (.error e : Except Error α) := by
  rintro ⟨a, h⟩; cases h

/-- A computation that can be run to a result returns one. -/
theorem completes_of_isSome {x : Except Error α} (h : x.toOption.isSome = true) : Completes x := by
  cases x with
  | ok a => exact completes_ok a
  | error e => cases h

/-- A computation with a result returns this result. -/
theorem eq_ok_of_toOption {x : Except Error α} {a : α} (h : x.toOption = some a) : x = .ok a := by
  cases x with
  | ok b => exact congrArg Except.ok (Option.some.inj h)
  | error e => cases h

/-- A loop that returned has computed each of its steps. -/
theorem mapM_eq_ok {f : α → Except Error β} {xs : List α} {ys : List β} :
    xs.mapM f = .ok ys ↔ List.Forall₂ (fun x y => f x = .ok y) xs ys := by
  induction xs generalizing ys with
  | nil =>
    rw [List.mapM_nil, List.forall₂_nil_left_iff]
    exact ⟨fun h => (Except.ok.inj h).symm, fun h => congrArg Except.ok h.symm⟩
  | cons x xs ih =>
    rw [List.mapM_cons, bind_eq_ok, List.forall₂_cons_left_iff]
    constructor
    · rintro ⟨y, hy, h⟩
      obtain ⟨zs, hzs, h⟩ := bind_eq_ok.mp h
      exact ⟨y, zs, hy, ih.mp hzs, (Except.ok.inj h).symm⟩
    · rintro ⟨y, zs, hy, hzs, rfl⟩
      exact ⟨y, hy, bind_eq_ok.mpr ⟨zs, ih.mpr hzs, rfl⟩⟩

/-- What a loop returned are the results of its steps. -/
theorem mem_of_mapM {f : α → Except Error β} {xs : List α} {ys : List β}
    (h : xs.mapM f = .ok ys) {y : β} : y ∈ ys ↔ ∃ x ∈ xs, f x = .ok y := by
  have hsteps := mapM_eq_ok.mp h
  clear h
  induction hsteps with
  | nil => simp
  | cons hx _ ih => simp [ih, hx, eq_comm]

/-- Nothing is kept just if each element is looked at and dropped. The elements kept so far only
grow. -/
theorem filterM_eq_nil {f : α → Except Error Bool} {xs : List α} :
    xs.filterM f = .ok [] ↔ ∀ x ∈ xs, f x = .ok false := by
  have haux (xs acc : List α) : xs.filterAuxM f acc = .ok [] ↔
      acc = [] ∧ ∀ x ∈ xs, f x = .ok false := by
    induction xs generalizing acc with
    | nil => exact ⟨fun h => ⟨Except.ok.inj h, nofun⟩, fun h => congrArg Except.ok h.1⟩
    | cons x xs ih =>
      rw [List.filterAuxM, bind_eq_ok, List.forall_mem_cons]
      constructor
      · rintro ⟨b, hb, h⟩
        obtain ⟨hacc, hxs⟩ := (ih _).mp h
        cases b with
        | true => cases hacc
        | false => exact ⟨hacc, hb, hxs⟩
      · rintro ⟨hacc, hx, hxs⟩
        exact ⟨false, hx, (ih _).mpr ⟨hacc, hxs⟩⟩
  rw [List.filterM, bind_eq_ok]
  constructor
  · rintro ⟨ys, hys, h⟩
    rw [List.reverse_eq_nil_iff.mp (Except.ok.inj h)] at hys
    exact ((haux xs []).mp hys).2
  · exact fun h => ⟨[], (haux xs []).mpr ⟨rfl, h⟩, rfl⟩

/-- A loop returns just if each of its steps does. -/
theorem completes_mapM {f : α → Except Error β} {xs : List α} :
    Completes (xs.mapM f) ↔ ∀ x ∈ xs, Completes (f x) := by
  induction xs with
  | nil => simp [List.mapM_nil]
  | cons x xs ih =>
    rw [List.mapM_cons, completes_bind, List.forall_mem_cons, ← ih]
    refine ⟨fun ⟨y, hy, h⟩ => ⟨⟨y, hy⟩, ?_⟩, fun ⟨⟨y, hy⟩, ys, hys⟩ => ⟨y, hy, ?_⟩⟩
    · obtain ⟨ys, hys, -⟩ := completes_bind.mp h
      exact ⟨ys, hys⟩
    · exact completes_bind.mpr ⟨ys, hys, completes_pure _⟩

namespace Value

/-- The dictionary the value is, if it is one. -/
def asDict? : Value F → Option (Dict F)
  | .dict items => some items
  | _ => none

/-- `isinstance(v, dict)` -/
def isDict (v : Value F) : Bool := v.asDict?.isSome

/-- The list the value is, if it is one. -/
def asList? : Value F → Option (List (Value F))
  | .list xs => some xs
  | _ => none

/-- `v is None` -/
def isNull : Value F → Bool
  | .null => true
  | _ => false

/-- `hash(v)` is defined: everything but lists and dictionaries. -/
def hashable : Value F → Bool
  | .list _ => false
  | .dict _ => false
  | _ => true

/-- `v == s` for a string literal `s`. -/
def eqStr (s : String) : Value F → Bool
  | .str t => t == s
  | _ => false

/-- `v in S` for a set of strings `S`; an unhashable `v` raises. -/
def inSet (S : List String) : Value F → Except Error Bool
  | .str s => pure (decide (s ∈ S))
  | v => if v.hashable then pure false else throw .typeError

/-- `for x in v`: the elements of a list, the keys of a dictionary, the characters of a
string; anything else is not iterable. -/
def iter : Value F → Except Error (List (Value F))
  | .list xs => pure xs
  | .dict items => pure (items.map fun kv => .str kv.1)
  | .str s => pure (s.toList.map fun c => .str (String.ofList [c]))
  | _ => throw .typeError

@[simp] theorem inSet_str (S : List String) (s : String) :
    (Value.str s : Value F).inSet S = .ok (decide (s ∈ S)) := rfl

@[simp] theorem iter_list (xs : List (Value F)) : (Value.list xs).iter = .ok xs := rfl

/-- The test for a dictionary, as an equation. -/
theorem isDict_iff {v : Value F} : v.isDict = true ↔ ∃ d, v = .dict d := by
  cases v <;> simp [isDict, asDict?]

/-- The cast to a dictionary, as an equation. -/
theorem asDict?_eq_some {v : Value F} {d : Dict F} : v.asDict? = some d ↔ v = .dict d := by
  cases v <;> simp [asDict?]

@[simp] theorem asDict?_dict (d : List (String × Value F)) :
    (Value.dict d).asDict? = some d := rfl

/-- The test for `None`, as an equation. -/
theorem isNull_iff {v : Value F} : v.isNull = true ↔ v = .null := by
  cases v <;> simp [isNull]

/-- The comparison with a text, as an equation. -/
theorem eqStr_iff {v : Value F} {s : String} : v.eqStr s = true ↔ v = .str s := by
  cases v <;> simp [eqStr]

/-- Membership in a set of strings holds of strings only. -/
theorem inSet_eq_true {S : List String} {v : Value F} (h : v.inSet S = .ok true) :
    ∃ s ∈ S, v = .str s := by
  cases v with
  | str s => exact ⟨s, by simpa using h, rfl⟩
  | _ => simp [inSet, hashable, pure, Except.pure, throw, throwThe, MonadExceptOf.throw] at h

/-- `s.strip()`, `s.lower()` and the like on a value: only strings have these methods. -/
def asStr : Value F → Except Error String
  | .str s => pure s
  | _ => throw .attributeError

end Value

/-! ### Dictionaries -/

namespace Dict

/-- `d.get(k)`, with `none` for an absent key. -/
def get? : Dict F → String → Option (Value F)
  | [], _ => none
  | (k, v) :: d, q => if k = q then some v else get? d q

/-- `d.get(k, default)` -/
def getD (d : Dict F) (k : String) (default : Value F) : Value F := (d.get? k).getD default

/-- `d.get(k)`, `None` for an absent key. -/
def get (d : Dict F) (k : String) : Value F := d.getD k .null

/-- `d[k] = v` -/
def set : Dict F → String → Value F → Dict F
  | [], k, v => [(k, v)]
  | (q, w) :: d, k, v => if q = k then (q, v) :: d else (q, w) :: set d k v

/-- `d.pop(k, None)`, keeping the rest. -/
def erase (d : Dict F) (k : String) : Dict F := d.filter fun kv => decide (kv.1 ≠ k)

/-- `d.setdefault(k, v)` -/
def setdefault (d : Dict F) (k : String) (v : Value F) : Dict F :=
  match d.get? k with
  | some _ => d
  | none => d.set k v

/-- The dictionary stored under `k`, if there is one: `isinstance(d.get(k), dict)`. -/
def dict? (d : Dict F) (k : String) : Option (Dict F) := (d.get? k).bind Value.asDict?

/-- `d[k]` is rewritten by `f` when it is a dictionary; any other value stays. -/
def modify (d : Dict F) (k : String) (f : Dict F → Dict F) : Dict F :=
  match d.dict? k with
  | some node => d.set k (.dict (f node))
  | none => d

/-- `modify` with a rewriting that may raise. -/
def modifyM (d : Dict F) (k : String) (f : Dict F → Except Error (Dict F)) :
    Except Error (Dict F) :=
  match d.dict? k with
  | some node => do pure (d.set k (.dict (← f node)))
  | none => pure d

@[simp] theorem get?_set_self (d : Dict F) (k : String) (v : Value F) :
    (d.set k v).get? k = some v := by
  induction d with
  | nil => simp [set, get?]
  | cons kv d ih =>
    obtain ⟨q, w⟩ := kv
    by_cases h : q = k <;> simp [set, get?, h, ih]

/-- Writing one key leaves the others. -/
theorem get?_set_ne (d : Dict F) {k q : String} (v : Value F) (h : k ≠ q) :
    (d.set k v).get? q = d.get? q := by
  induction d with
  | nil => simp [set, get?, h]
  | cons kv d ih =>
    obtain ⟨r, w⟩ := kv
    by_cases hr : r = k
    · subst hr; simp [set, get?, h]
    · by_cases hq : r = q
      · subst hq; simp [set, get?, hr]
      · simp [set, get?, hr, hq, ih]

/-- What is found after a write. -/
theorem get?_set (d : Dict F) (k q : String) (v : Value F) :
    (d.set k v).get? q = if k = q then some v else d.get? q := by
  by_cases h : k = q
  · subst h; simp
  · simp [h, get?_set_ne d v h]

/-- What is found after a key has been removed. -/
theorem get?_erase (d : Dict F) (k q : String) :
    (d.erase k).get? q = if k = q then none else d.get? q := by
  induction d with
  | nil => simp [erase, get?]
  | cons kv d ih =>
    obtain ⟨r, w⟩ := kv
    simp only [erase] at ih
    by_cases hr : r = k
    · subst hr
      by_cases hq : r = q <;> simp [erase, get?, hq] <;> simpa [hq] using ih
    · by_cases hq : r = q
      · subst hq; simp [erase, get?, hr, Ne.symm hr]
      · simp [erase, get?, hr, hq]; simpa using ih

/-- What is found after a default has been set: a key that is there keeps its value. -/
theorem get?_setdefault (d : Dict F) (k q : String) (v : Value F) :
    (d.setdefault k v).get? q =
      if k = q then some ((d.get? k).getD v) else d.get? q := by
  unfold setdefault
  by_cases h : k = q
  · subst h
    cases hk : d.get? k <;> simp [hk]
  · cases hk : d.get? k <;> simp [h, get?_set_ne]

@[simp] theorem get_set_self (d : Dict F) (k : String) (v : Value F) :
    (d.set k v).get k = v := by simp [get, getD]

/-- Writing one key leaves what is found under the others, where a missing key has `None`. -/
theorem get_set_ne (d : Dict F) {k q : String} (v : Value F) (h : k ≠ q) :
    (d.set k v).get q = d.get q := by simp [get, getD, get?_set_ne d v h]

/-- What is found after a write, where a missing key has `None`. -/
theorem get_set (d : Dict F) (k q : String) (v : Value F) :
    (d.set k v).get q = if k = q then v else d.get q := by
  by_cases h : k = q
  · subst h; simp
  · simp [h, get_set_ne d v h]

/-- A key that was removed has `None`. -/
theorem get_erase (d : Dict F) (k q : String) :
    (d.erase k).get q = if k = q then .null else d.get q := by
  by_cases h : k = q <;> simp [get, getD, get?_erase, h]

/-- A default is found where the key was missing. -/
theorem get_setdefault (d : Dict F) (k q : String) (v : Value F) :
    (d.setdefault k v).get q = if k = q then d.getD k v else d.get q := by
  by_cases h : k = q <;> simp [get, getD, get?_setdefault, h]

/-- A dictionary under a key, as an equation. -/
theorem dict?_eq_some {d node : Dict F} {k : String} :
    d.dict? k = some node ↔ d.get? k = some (.dict node) := by
  simp only [dict?, Option.bind_eq_some_iff, Value.asDict?_eq_some]
  exact ⟨by rintro ⟨v, hv, rfl⟩; exact hv, fun h => ⟨_, h, rfl⟩⟩

/-- The dictionary under a key after a write. -/
theorem dict?_set (d : Dict F) (k q : String) (v : Value F) :
    (d.set k v).dict? q = if k = q then v.asDict? else d.dict? q := by
  simp only [dict?, get?_set]
  split <;> rfl

/-- Changing the dictionary under one key leaves the other keys. -/
theorem get?_modify_ne (d : Dict F) {k q : String} (f : Dict F → Dict F) (h : k ≠ q) :
    (d.modify k f).get? q = d.get? q := by
  unfold modify
  split
  · exact get?_set_ne d _ h
  · rfl

/-- The dictionary under a key after it has been changed. -/
theorem dict?_modify_self (d : Dict F) (k : String) (f : Dict F → Dict F) :
    (d.modify k f).dict? k = (d.dict? k).map f := by
  unfold modify
  split
  · next node h => simp [dict?_set, h]
  · next h => simp [h]

/-- What a rewriting that returned did: it replaced one entry, or left the dictionary. -/
theorem modifyM_eq_ok {d d' : Dict F} {k : String} {f : Dict F → Except Error (Dict F)}
    (h : d.modifyM k f = .ok d') :
    (∃ node node', d.dict? k = some node ∧ f node = .ok node' ∧ d' = d.set k (.dict node')) ∨
      (d.dict? k = none ∧ d' = d) := by
  unfold modifyM at h
  split at h
  · next node hk =>
    obtain ⟨node', hf, hd⟩ := bind_eq_ok.mp h
    exact .inl ⟨node, node', hk, hf, by simpa [pure, Except.pure] using hd.symm⟩
  · next hk => exact .inr ⟨hk, by simpa [pure, Except.pure] using h.symm⟩

/-- The two dictionaries differ in the entries of `keys` only. -/
def Frame (keys : List String) (d d' : Dict F) : Prop := ∀ k, k ∉ keys → d'.get? k = d.get? k

namespace Frame

/-- A dictionary differs from itself under no key. -/
theorem refl (keys : List String) (d : Dict F) : Frame keys d d := fun _ _ => rfl

/-- Two changes under the same keys are one. -/
theorem trans {keys : List String} {d d' d'' : Dict F} (h : Frame keys d d')
    (h' : Frame keys d' d'') : Frame keys d d'' := fun k hk => (h' k hk).trans (h k hk)

/-- What is changed under some keys is changed under more of them. -/
theorem mono {keys keys' : List String} {d d' : Dict F} (h : Frame keys d d')
    (hsub : keys ⊆ keys') : Frame keys' d d' := fun k hk => h k fun hmem => hk (hsub hmem)

/-- A write changes its key at most. -/
theorem set {keys : List String} (d : Dict F) {k : String} (v : Value F) (hk : k ∈ keys) :
    Frame keys d (d.set k v) := fun _ hq =>
  get?_set_ne d v fun h => hq (h ▸ hk)

/-- Setting a default changes its key at most. -/
theorem setdefault {keys : List String} (d : Dict F) {k : String} (v : Value F)
    (hk : k ∈ keys) : Frame keys d (d.setdefault k v) := fun q hq => by
  have hne : k ≠ q := fun h => hq (h ▸ hk)
  rw [get?_setdefault, if_neg hne]

/-- A removal changes its key at most. -/
theorem erase {keys : List String} (d : Dict F) {k : String} (hk : k ∈ keys) :
    Frame keys d (d.erase k) := fun q hq => by
  have hne : k ≠ q := fun h => hq (h ▸ hk)
  rw [get?_erase, if_neg hne]

/-- Changing the dictionary under a key changes this key at most, whether or not the change may
raise. -/
theorem modifyM {keys : List String} {d d' : Dict F} {k : String}
    {f : Dict F → Except Error (Dict F)} (h : d.modifyM k f = .ok d') (hk : k ∈ keys) :
    Frame keys d d' := by
  rcases modifyM_eq_ok h with ⟨_, node, -, -, rfl⟩ | ⟨-, rfl⟩
  · exact set d _ hk
  · exact refl keys d'

/-- An entry outside the frame is read as before. -/
theorem dict?_eq {keys : List String} {d d' : Dict F} (h : Frame keys d d') {k : String}
    (hk : k ∉ keys) : d'.dict? k = d.dict? k := by rw [dict?, dict?, h k hk]

/-- Under any other key the value stays what it is. -/
theorem get_eq {keys : List String} {d d' : Dict F} (h : Frame keys d d') {k : String}
    (hk : k ∉ keys) : d'.get k = d.get k := by rw [get, get, getD, getD, h k hk]

end Frame

/-- The stored value is the one `get` reads. -/
theorem get_of_get? {d : Dict F} {k : String} {v : Value F} (h : d.get? k = some v) :
    d.get k = v := by simp [get, getD, h]

/-- What `get` reads is stored, unless it is the default. -/
theorem get?_of_getD {d : Dict F} {k : String} {v dflt : Value F} (h : d.getD k dflt = v)
    (hne : dflt ≠ v) : d.get? k = some v := by
  subst h
  rw [getD] at hne ⊢
  cases hget : d.get? k with
  | none =>
    rw [hget] at hne
    exact absurd rfl hne
  | some v => rfl

end Dict

/-- `v[k] = x`: item assignment under a string key works on dictionaries only. -/
def Value.setItem (v : Value F) (k : String) (x : Value F) : Except Error (Value F) :=
  match v with
  | .dict items => pure (.dict (Dict.set items k x))
  | _ => throw .typeError

end Py
