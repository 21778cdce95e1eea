import DecisionCenter.Py.Runtime

/-!
# Whole amounts

A runtime to evaluate the programs on: floats that hold whole numbers, on which float arithmetic
is exact, and ASCII text, with the digits of Latin-1. It agrees with the interpreter on such
numbers and texts as long as no regular expression is matched: `search` finds nothing. A module
whose witness needs a pattern to match has a runtime of its own.

Its use is in witnesses and counterexamples. What is proved in general holds of all runtimes; a
run on fixed inputs needs one, and its amounts are whole numbers, so that nothing depends on how
doubles are rounded. The instances are scoped, and a module opens `Py.Whole` in the section of
its witnesses only.

The digits are the ones needed to show the difference between `isdigit` and `int`: the
superscripts of Latin-1 count as digits and `int` does not read them.
-/

namespace Py.Whole

/-- A comma after every third digit, from the right. -/
def groupDigits : List Char → List Char
  | a :: b :: c :: d :: ds => a :: b :: c :: ',' :: groupDigits (d :: ds)
  | ds => ds

/-- `f"{i:,.nf}"` -/
def formatInt (n : ℕ) (i : ℤ) : String :=
  let digits := String.ofList (groupDigits (toString i.natAbs).toList.reverse).reverse
  let decimals := if n = 0 then "" else "." ++ String.ofList (List.replicate n '0')
  (if i < 0 then "-" else "") ++ digits ++ decimals

/-- Capitals at the start of words, where words are runs of letters. -/
def titleChars : Bool → List Char → List Char
  | _, [] => []
  | inWord, c :: cs =>
    (if inWord then c.toLower else c.toUpper) :: titleChars c.isAlpha cs

/-- `repr(v)`; a container is shown without its contents. -/
def reprValue : Value ℤ → String
  | .null => "None"
  | .bool true => "True"
  | .bool false => "False"
  | .int i => toString i
  | .float i => toString i ++ ".0"
  | .str s => s
  | .list _ => "[]"
  | .dict _ => "dict()"

scoped instance : Floats ℤ where
  zero := 0
  ofInt i := some i
  ofStr s := s.toInt?
  trunc x := .ok x
  add x y := x + y
  sub x y := x - y
  abs x := x.natAbs
  round2 x := x
  isZero x := decide (x = 0)
  eq x y := decide (x = y)
  eqInt x i := decide (x = i)
  format := formatInt
  repr := reprValue
  abs_abs x := by rw [Int.natAbs_natCast]
  eqInt_zero x i hx hi := by
    have hx' : x = 0 := of_decide_eq_true hx
    have hi' : x = i := of_decide_eq_true hi
    omega
  ofInt_zero := rfl

/-- The digits of Latin-1: superscripts count as digits, and `int` does not read them. -/
@[reducible] def latinDigits : Digits where
  isDigit c := c.isDigit || c ∈ ['²', '³', '¹']
  decimal c := if c.isDigit then some (c.toNat - '0'.toNat) else none
  intError raw := "invalid literal for int() with base 10: '" ++ raw ++ "'"

scoped instance : Text where
  toDigits := latinDigits
  isSpace c := c.isWhitespace
  lower s := String.ofList (s.toList.map Char.toLower)
  title s := String.ofList (titleChars false s.toList)
  search _ _ := none
  findAll _ _ := []
  replaceAll _ _ s := s

end Py.Whole
