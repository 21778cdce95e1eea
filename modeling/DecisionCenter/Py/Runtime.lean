import DecisionCenter.Py.Value
import Mathlib.Data.List.Infix

/-!
# The interpreter's numbers and text

What a Python program takes from its interpreter beyond plain data: float arithmetic, the
Unicode tables behind `str.strip`, `str.lower` and `str.isdigit`, and the regular expression
engine. They enter as the classes `Floats` and `Text`, of which only the laws stated as fields
are known, so that what is proved holds of IEEE doubles as well as of exact numbers, and of
every version of the Unicode tables.

`Digits` keeps two things apart that look like one: which characters count as digits for
`isdigit`, superscripts among them, and which of them `int` reads. `pyInt` raises a `ValueError`
on a string that passed the test, as the interpreter does, and has the limit on the number of
digits.

On top of them stand truth values, `str` and `f"{v:,.2f}"` of arbitrary values, and arithmetic
on them: a `Num` is an integer or a float, mixed operands become floats, and an operand of
another type raises. Sums go from the left and start at the integer zero, as `sum` does. What
raises is an `Except Error`; the exceptions are those the programs catch or let through.

Strings are Lean's, and the functions on them are defined on their lists of characters, where
they can be unfolded.
-/

namespace Py

/-- Float arithmetic. -/
class Floats (F : Type) where
  /-- The literal `0.0`. -/
  zero : F
  /-- `float(i)`; `none` is the `OverflowError` of an integer beyond the float range. -/
  ofInt : ℤ → Option F
  /-- `float(s)`; `none` is the `ValueError`. -/
  ofStr : String → Option F
  /-- `int(x)`, towards zero; only a finite number has one. -/
  trunc : F → Except Error ℤ
  add : F → F → F
  sub : F → F → F
  abs : F → F
  /-- `round(x, 2)` -/
  round2 : F → F
  /-- `x == 0` -/
  isZero : F → Bool
  /-- `x == y` -/
  eq : F → F → Bool
  /-- `x == i` -/
  eqInt : F → ℤ → Bool
  /-- `f"{x:,.nf}"` -/
  format : ℕ → F → String
  /-- `str(v)` of a value that is not a string. -/
  repr : Value F → String
  abs_abs : ∀ x, abs (abs x) = abs x
  eqInt_zero : ∀ x i, isZero x = true → eqInt x i = true → i = 0
  ofInt_zero : ofInt 0 = some zero

/-- The digits of strings. -/
class Digits where
  /-- `c.isdigit()`: superscripts and the like are digits. -/
  isDigit : Char → Bool
  /-- The value of a decimal digit, which are the only ones `int` and `\d` read. -/
  decimal : Char → Option ℕ
  /-- The text of the `ValueError` that `int` raises. -/
  intError : String → String

/-- Character tables and the regular expression engine; patterns ignore case. -/
class Text extends Digits where
  /-- Characters that `str.strip` removes. -/
  isSpace : Char → Bool
  lower : String → String
  title : String → String
  /-- `re.search(pattern, text)`: the groups of the first match. -/
  search : String → String → Option (List String)
  /-- `re.findall(pattern, text)` -/
  findAll : String → String → List String
  /-- `re.sub(pattern, replacement, text)` -/
  replaceAll : String → String → String → String

/-! ### Strings -/

section Strings

variable [Text]

/-- `s.strip()` -/
def strip (s : String) : String :=
  let left := s.toList.dropWhile Text.isSpace
  String.ofList (left.reverse.dropWhile Text.isSpace).reverse

/-- `s.lower()` -/
def lower (s : String) : String := Text.lower s

/-- `s.split()` -/
def splitWords (s : String) : List String :=
  ((s.toList.splitOnP Text.isSpace).filter (· ≠ [])).map String.ofList

/-- `bool(re.search(pattern, text))` -/
def searches (pattern text : String) : Bool := (Text.search pattern text).isSome

/-- A text without white space at its ends is left as it is. -/
theorem strip_eq_self {s : String} (hhead : ∀ c ∈ s.toList.head?, Text.isSpace c = false)
    (hlast : ∀ c ∈ s.toList.getLast?, Text.isSpace c = false) : strip s = s := by
  have hkeep (cs : List Char) (h : ∀ c ∈ cs.head?, Text.isSpace c = false) :
      cs.dropWhile Text.isSpace = cs := by
    cases cs with
    | nil => rfl
    | cons c cs => exact List.dropWhile_cons_of_neg (by simp [h c rfl])
  rw [strip, hkeep _ hhead, hkeep _ (by rwa [List.head?_reverse]), List.reverse_reverse,
    String.ofList_toList]

/-- A text that is stripped begins and ends with a character that is no blank, if it has any. -/
theorem strip_ends (s : String) : (∀ c ∈ (strip s).toList.head?, Text.isSpace c = false) ∧
    ∀ c ∈ (strip s).toList.getLast?, Text.isSpace c = false := by
  have hhead (cs : List Char) :
      ∀ c ∈ (cs.dropWhile Text.isSpace).head?, Text.isSpace c = false := by
    intro c hc
    have hnot := List.head?_dropWhile_not Text.isSpace cs
    rwa [Option.mem_def.mp hc] at hnot
  rw [strip, String.toList_ofList]
  refine ⟨fun c hc => ?_, ?_⟩
  · -- what is left is the start of the text without the blanks in front
    have hprefix := List.dropWhile_suffix (l := (s.toList.dropWhile Text.isSpace).reverse)
      Text.isSpace
    rw [← List.reverse_prefix, List.reverse_reverse] at hprefix
    obtain ⟨rest, hrest⟩ := hprefix
    refine hhead s.toList c ?_
    rw [← hrest, List.head?_append, Option.mem_def.mp hc]
    rfl
  · rw [List.getLast?_reverse]
    exact hhead _

/-- A text that was stripped has none. -/
theorem strip_strip (s : String) : strip (strip s) = strip s :=
  strip_eq_self (strip_ends s).1 (strip_ends s).2

end Strings

/-! ### Integers in strings -/

/-- An exception: the name of its type, and its text. -/
structure Raised where
  type : String
  text : String
  deriving DecidableEq, Repr

/-- `f"{type(exc).__name__}: {exc}"` -/
def Raised.describe (exc : Raised) : String := exc.type ++ ": " ++ exc.text

/-- How many digits `int` converts. -/
def maxStrDigits : ℕ := 4300

/-- The number with these decimal digits. -/
def ofDigits (digits : List ℕ) : ℕ := digits.foldl (fun n d => 10 * n + d) 0

section Integers

variable [Digits]

/-- `s.isdigit()` -/
def isDigits (s : String) : Bool := decide (s.toList ≠ []) && s.toList.all Digits.isDigit

/-- A match of `\d+`. -/
def isDecimalRun (cs : List Char) : Bool :=
  !cs.isEmpty && cs.all fun c => (Digits.decimal c).isSome

/-- `int` reads the string, which has no blank around it. -/
def IsInt (s : String) : Prop :=
  (∀ c ∈ s.toList, (Digits.decimal c).isSome) ∧ s.toList.length ≤ maxStrDigits

instance (s : String) : Decidable (IsInt s) :=
  @instDecidableAnd _ _ (List.decidableBAll _ s.toList) (Nat.decLe _ _)

/-- Decimal digits, with single underscores between them. -/
def digitRun : List Char → Option (List ℕ)
  | [] => none
  | [c] => (Digits.decimal c).map fun d => [d]
  | c :: '_' :: cs => do return (← Digits.decimal c) :: (← digitRun cs)
  | c :: cs => do return (← Digits.decimal c) :: (← digitRun cs)

/-- The number of a run of digits; there is a limit to its length. -/
def naturalOf (cs : List Char) : Option ℕ :=
  ((digitRun cs).filter fun digits => decide (digits.length ≤ maxStrDigits)).map ofDigits

end Integers

section Integers

variable [Text]

/-- `str(raw).strip().isdigit()` -/
def isNumeric (raw : String) : Bool := isDigits (strip raw)

/-- `int(raw)` of a string that is digits, with blanks around them. -/
def pyInt (raw : String) : Except Raised ℕ :=
  if IsInt (strip raw) then .ok (ofDigits ((strip raw).toList.filterMap Digits.decimal))
  else .error ⟨"ValueError", Digits.intError raw⟩

/-- `int(text)`; `none` is the `ValueError`. -/
def parseInt (text : String) : Option ℤ :=
  match (strip text).toList with
  | '-' :: cs => (naturalOf cs).map fun n => -n
  | '+' :: cs => (naturalOf cs).map (↑)
  | cs => (naturalOf cs).map (↑)

end Integers

/-- `sub in s` for strings. -/
def contains (s sub : String) : Bool := s.toList.tails.any fun t => sub.toList.isPrefixOf t

/-- `sub in s`, as a statement on lists. -/
theorem contains_iff {s sub : String} : contains s sub = true ↔ sub.toList <:+: s.toList := by
  rw [contains, List.any_eq_true]
  constructor
  · rintro ⟨t, ht, hsub⟩
    exact (List.isPrefixOf_iff_prefix.mp hsub).isInfix.trans ((List.mem_tails _ _).mp ht).isInfix
  · rintro ⟨l₁, l₂, h⟩
    refine ⟨sub.toList ++ l₂, (List.mem_tails _ _).mpr ⟨l₁, ?_⟩, ?_⟩
    · rw [← List.append_assoc]
      exact h
    · exact List.isPrefixOf_iff_prefix.mpr (List.prefix_append _ _)

/-- What is in a string is in every longer one that ends with it. -/
theorem contains_append {pre s sub : String} (h : contains s sub = true) :
    contains (pre ++ s) sub = true := by
  rw [contains, List.any_eq_true] at h ⊢
  obtain ⟨t, ht, hsub⟩ := h
  refine ⟨t, ?_, hsub⟩
  rw [List.mem_tails] at ht ⊢
  rw [String.toList_append]
  exact ht.trans (List.suffix_append _ _)

/-- `s.replace(",", "")` -/
def dropCommas (s : String) : String := String.ofList (s.toList.filter (· ≠ ','))

/-- `s[:n]` -/
def takeChars (n : ℕ) (s : String) : String := String.ofList (s.toList.take n)

/-- `", ".join(xs)` and its like. -/
def join (sep : String) : List String → String
  | [] => ""
  | [x] => x
  | x :: y :: xs => x ++ sep ++ join sep (y :: xs)

/-! ### Truth and text of values -/

section Values

variable {F : Type} [Floats F]

namespace Value

/-- `bool(v)` -/
def truthy : Value F → Bool
  | .null => false
  | .bool b => b
  | .int i => decide (i ≠ 0)
  | .float x => !Floats.isZero x
  | .str s => decide (s ≠ "")
  | .list xs => !xs.isEmpty
  | .dict items => !items.isEmpty

/-- `v or w` -/
def orElse (v w : Value F) : Value F := if v.truthy then v else w

/-- `str(v)` -/
def toStr : Value F → String
  | .str s => s
  | v => Floats.repr v

@[simp] theorem toStr_str (s : String) : (Value.str s : Value F).toStr = s := rfl

@[simp] theorem truthy_null : (Value.null : Value F).truthy = false := rfl

@[simp] theorem truthy_str (s : String) :
    (Value.str s : Value F).truthy = decide (s ≠ "") := rfl

@[simp] theorem truthy_float (x : F) : (Value.float x).truthy = !Floats.isZero x := rfl

@[simp] theorem truthy_list (xs : List (Value F)) :
    (Value.list xs).truthy = !xs.isEmpty := rfl

end Value

/-! ### Arithmetic on values -/

/-- A Python number: integers (booleans among them) and floats. -/
inductive Num (F : Type) where
  | int (i : ℤ)
  | float (x : F)

namespace Num

def toValue : Num F → Value F
  | .int i => .int i
  | .float x => .float x

/-- The operand as a float, in an expression that mixes both kinds. -/
def toFloat : Num F → Except Error F
  | .float x => pure x
  | .int i => match Floats.ofInt i with
    | some x => pure x
    | none => throw .overflowError

def add : Num F → Num F → Except Error (Num F)
  | .int i, .int j => pure (.int (i + j))
  | a, b => do pure (.float (Floats.add (← a.toFloat) (← b.toFloat)))

def sub : Num F → Num F → Except Error (Num F)
  | .int i, .int j => pure (.int (i - j))
  | a, b => do pure (.float (Floats.sub (← a.toFloat) (← b.toFloat)))

/-- `a == b` -/
def eq : Num F → Num F → Bool
  | .int i, .int j => decide (i = j)
  | .int i, .float x => Floats.eqInt x i
  | .float x, .int i => Floats.eqInt x i
  | .float x, .float y => Floats.eq x y

def abs : Num F → Num F
  | .int i => .int i.natAbs
  | .float x => .float (Floats.abs x)

/-- `round(x, 2)`; rounding an integer leaves it as it is. -/
def round2 : Num F → Num F
  | .int i => .int i
  | .float x => .float (Floats.round2 x)

/-- `sum(xs)`, from the left, starting at the integer `0`. -/
def sum (xs : List (Num F)) : Except Error (Num F) := xs.foldlM add (.int 0)

/-- `sum(xs)` of floats alone. -/
def floatSum (xs : List F) : F := xs.foldl Floats.add Floats.zero

/-- Adding floats to a float never raises. -/
private theorem foldlM_add_float (xs : List F) (x : F) :
    (xs.map Num.float).foldlM add (.float x) = .ok (.float (xs.foldl Floats.add x)) := by
  induction xs generalizing x with
  | nil => rfl
  | cons y ys ih => exact ih (Floats.add x y)

/-- Summing floats, of which there is at least one, is the float sum. -/
theorem sum_map_float {xs : List F} (h : xs ≠ []) :
    sum (xs.map Num.float) = .ok (.float (floatSum xs)) := by
  cases xs with
  | nil => exact absurd rfl h
  | cons x xs =>
    have hstep : add (.int 0) (.float x) = .ok (.float (Floats.add Floats.zero x)) := by
      simp [add, toFloat, Floats.ofInt_zero, pure, Except.pure, bind, Except.bind]
    rw [sum, List.map_cons, List.foldlM_cons, hstep]
    exact foldlM_add_float xs _

end Num

namespace Value

/-- The number a value is, as an operand of arithmetic. -/
def toNum : Value F → Except Error (Num F)
  | .int i => pure (.int i)
  | .bool b => pure (.int (if b then 1 else 0))
  | .float x => pure (.float x)
  | _ => throw .typeError

/-- `abs(v)` -/
def absNum (v : Value F) : Except Error (Num F) := do pure (← v.toNum).abs

@[simp] theorem absNum_float (x : F) :
    (Value.float x).absNum = .ok (Num.float (Floats.abs x)) := rfl

/-- `v == w` for hashable values. -/
def hashEq : Value F → Value F → Bool
  | .null, .null => true
  | .str s, .str t => decide (s = t)
  | v, w => match v.toNum, w.toNum with
    | .ok a, .ok b => a.eq b
    | _, _ => false

/-- `list(dict.fromkeys(vs))`: the first of equal values stays; an unhashable one raises. -/
def fromKeys (vs : List (Value F)) : Except Error (List (Value F)) :=
  vs.foldlM (fun acc v =>
    if v.hashable then pure (if acc.any (hashEq v) then acc else acc ++ [v])
    else throw .typeError) []

/-- `(v or "").strip()` -/
def stripText [Text] (v : Value F) : Except Error String := do
  pure (strip (← (v.orElse (.str "")).asStr))

/-- `f"{v:,.nf}"`: numbers format, a string raises `ValueError`, the rest `TypeError`. -/
def format (n : ℕ) : Value F → Except Error String
  | .float x => pure (Floats.format n x)
  | .int i => do pure (Floats.format n (← (Num.int i : Num F).toFloat))
  | .bool b => do pure (Floats.format n (← (Num.int (if b then 1 else 0) : Num F).toFloat))
  | .str _ => throw .valueError
  | _ => throw .typeError

end Value

end Values

end Py
