import DecisionCenter.Py.Value
import Mathlib.Data.List.TakeWhile
import Mathlib.Tactic.Linarith

/-!
# JSON texts

`json.dumps` and `json.loads` on values. A writer is given by a `Format`: the blanks after a
comma and a colon, the line breaks of an indented document, whether other characters than ASCII
are escaped, and the text of a float. The formats in use are `plain`, `indented` and `compact`.
A reader is given by a `Dialect`: what it makes of integers and of the other numbers, and the
words it knows besides `null`, `true` and `false`.

The reader is the grammar of JSON, which Python and JavaScript share. It works with a bound on
the nesting, which the length of the text always meets: what is read with one bound is read with
the next one (`readsOn`), so that the bound never decides anything (`readValue_of_le`).

`loads_dumps` says that a reader gives back the value that was written, in every format, if it
reads the numbers in it back and no object has a key twice (`Readable`). The proof goes by the
length of the text, for values, items and members at once (`readsBack`); it rests on a lemma for
each kind of token. A number is read from a longer text if what follows is no part of a number
(`readNumber_append`); a character of a string is read back however it was written, as itself,
by a short escape, by four digits or by a surrogate pair (`readUnit_escapeChar`).

A surrogate without its other half is no character here, so that texts which Python would read
into lone surrogates are not read.
-/

namespace Py.JsonText

variable {F : Type}

/-! ### Writing -/

/-- The blanks between the tokens of a text. -/
def isBlank (c : Char) : Bool := c = ' ' || c = '\t' || c = '\n' || c = '\r'

/-- How a document is laid out. -/
structure Format (F : Type) where
  afterComma : List Char
  afterColon : List Char
  /-- The line break at a depth. -/
  newline : ℕ → List Char
  /-- `ensure_ascii` -/
  ascii : Bool
  /-- `float.__repr__` -/
  floatText : F → List Char
  afterComma_blank : ∀ c ∈ afterComma, isBlank c = true
  afterColon_blank : ∀ c ∈ afterColon, isBlank c = true
  newline_blank : ∀ depth, ∀ c ∈ newline depth, isBlank c = true

/-- `json.dumps(v)` -/
def Format.plain (floatText : F → List Char) : Format F where
  afterComma := [' ']
  afterColon := [' ']
  newline _ := []
  ascii := true
  floatText := floatText
  afterComma_blank := by simp [isBlank]
  afterColon_blank := by simp [isBlank]
  newline_blank := by simp

/-- `json.dumps(v, indent=n)` -/
def Format.indented (n : ℕ) (floatText : F → List Char) : Format F where
  afterComma := []
  afterColon := [' ']
  newline depth := '\n' :: List.replicate (n * depth) ' '
  ascii := true
  floatText := floatText
  afterComma_blank := by simp
  afterColon_blank := by simp [isBlank]
  newline_blank := by
    intro depth c hc
    rcases List.mem_cons.mp hc with rfl | hc
    · rfl
    · rw [List.eq_of_mem_replicate hc]
      rfl

/-- `json.dumps(v, ensure_ascii=False, separators=(",", ":"))` -/
def Format.compact (floatText : F → List Char) : Format F where
  afterComma := []
  afterColon := []
  newline _ := []
  ascii := false
  floatText := floatText
  afterComma_blank := by simp
  afterColon_blank := by simp
  newline_blank := by simp

/-- `str(i)` -/
def intText : ℤ → List Char
  | .ofNat n => Nat.toDigits 10 n
  | .negSucc n => '-' :: Nat.toDigits 10 (n + 1)

def hexDigit (n : ℕ) : Char := ("0123456789abcdef".toList)[n % 16]?.getD '0'

/-- `"\\u{0:04x}".format(n)` -/
def unicodeEscape (n : ℕ) : List Char :=
  ['\\', 'u', hexDigit (n / 4096), hexDigit (n / 256), hexDigit (n / 16), hexDigit n]

/-- The escapes of one letter: what is written, and what it stands for. -/
def shortEscapes : List (Char × Char) :=
  [('"', '"'), ('\\', '\\'), ('/', '/'), ('b', '\x08'), ('f', '\x0c'), ('n', '\n'), ('r', '\r'),
    ('t', '\t')]

/-- A character beyond the first 65536 is escaped as a surrogate pair. -/
def longEscape (c : Char) : List Char :=
  if c.toNat < 0x10000 then unicodeEscape c.toNat
  else unicodeEscape (0xd800 + (c.toNat - 0x10000) / 1024) ++
    unicodeEscape (0xdc00 + (c.toNat - 0x10000) % 1024)

/-- A character in a string. -/
def escapeChar (ascii : Bool) (c : Char) : List Char :=
  if c = '"' then ['\\', '"'] else if c = '\\' then ['\\', '\\']
  else if c = '\n' then ['\\', 'n'] else if c = '\r' then ['\\', 'r']
  else if c = '\t' then ['\\', 't'] else if c = '\x0c' then ['\\', 'f']
  else if c = '\x08' then ['\\', 'b']
  else if c.toNat < 0x20 ∨ ascii ∧ 0x7e < c.toNat then longEscape c
  else [c]

def stringText (ascii : Bool) (s : String) : List Char :=
  '"' :: (s.toList.flatMap (escapeChar ascii) ++ ['"'])

section Write

variable (fmt : Format F)

mutual

/-- The text of a value that begins at a depth. -/
def write (depth : ℕ) : Value F → List Char
  | .null => ['n', 'u', 'l', 'l']
  | .bool true => ['t', 'r', 'u', 'e']
  | .bool false => ['f', 'a', 'l', 's', 'e']
  | .int i => intText i
  | .float x => fmt.floatText x
  | .str s => stringText fmt.ascii s
  | .list [] => ['[', ']']
  | .list (x :: xs) =>
    '[' :: (fmt.newline (depth + 1) ++ (write (depth + 1) x ++ writeItems (depth + 1) xs) ++
      (fmt.newline depth ++ [']']))
  | .dict [] => ['{', '}']
  | .dict ((k, v) :: items) =>
    '{' :: (fmt.newline (depth + 1) ++ (stringText fmt.ascii k ++ ':' :: (fmt.afterColon ++
      write (depth + 1) v) ++ writeMembers (depth + 1) items) ++ (fmt.newline depth ++ ['}']))

/-- The items of a list after its first. -/
def writeItems (depth : ℕ) : List (Value F) → List Char
  | [] => []
  | x :: xs =>
    ',' :: (fmt.afterComma ++ fmt.newline depth ++ (write depth x ++ writeItems depth xs))

/-- The members of a dictionary after its first. -/
def writeMembers (depth : ℕ) : List (String × Value F) → List Char
  | [] => []
  | (k, v) :: items =>
    ',' :: (fmt.afterComma ++ fmt.newline depth ++ (stringText fmt.ascii k ++
      ':' :: (fmt.afterColon ++ write depth v) ++ writeMembers depth items))

end

/-- `json.dumps` -/
def dumps (v : Value F) : String := String.ofList (write fmt 0 v)

end Write

/-! ### Reading -/

/-- What a reader makes of the tokens. -/
structure Dialect (F : Type) where
  /-- The value of an integer. -/
  integer : ℤ → Value F
  /-- The value of a number with a fraction or an exponent. -/
  number : List Char → Option (Value F)
  /-- Words besides `null`, `true` and `false`. -/
  words : List (List Char × Value F)

def skipBlanks (cs : List Char) : List Char := cs.dropWhile isBlank

def hexValue? (c : Char) : Option ℕ :=
  if '0' ≤ c ∧ c ≤ '9' then some (c.toNat - '0'.toNat)
  else if 'a' ≤ c ∧ c ≤ 'f' then some (c.toNat - 'a'.toNat + 10)
  else if 'A' ≤ c ∧ c ≤ 'F' then some (c.toNat - 'A'.toNat + 10)
  else none

/-- Four hexadecimal digits. -/
def readHex : List Char → Option (ℕ × List Char)
  | a :: b :: c :: d :: cs => do
    let a ← hexValue? a
    let b ← hexValue? b
    let c ← hexValue? c
    let d ← hexValue? d
    return (4096 * a + 256 * b + 16 * c + d, cs)
  | _ => none

/-- What follows `\u`. A surrogate without its other half is no character of a `String`. -/
def readUnicode (cs : List Char) : Option (Char × List Char) :=
  (readHex cs).bind fun (u, cs) =>
    if 0xd800 ≤ u ∧ u < 0xdc00 then
      match cs with
      | '\\' :: 'u' :: cs => (readHex cs).bind fun (v, cs) =>
        if 0xdc00 ≤ v ∧ v < 0xe000 then
          some (Char.ofNat (0x10000 + 1024 * (u - 0xd800) + (v - 0xdc00)), cs)
        else none
      | _ => none
    else if 0xdc00 ≤ u ∧ u < 0xe000 then none
    else some (Char.ofNat u, cs)

/-- What follows a backslash. -/
def readEscape : List Char → Option (Char × List Char)
  | [] => none
  | e :: cs => if e = 'u' then readUnicode cs else (shortEscapes.lookup e).map fun c => (c, cs)

/-- The next character of a string; `none` is the quote at its end. -/
def readUnit : List Char → Option (Option Char × List Char)
  | [] => none
  | c :: cs =>
    if c = '"' then some (none, cs)
    else if c = '\\' then (readEscape cs).map fun (c, cs) => (some c, cs)
    else if c.toNat < 0x20 then none
    else some (some c, cs)

/-- The characters up to the quote, `n` at most. -/
def readChars : ℕ → List Char → Option (List Char × List Char)
  | 0, _ => none
  | n + 1, cs => (readUnit cs).bind fun
    | (none, cs) => some ([], cs)
    | (some c, cs) => (readChars n cs).map fun (s, cs) => (c :: s, cs)

/-- What follows the first quote of a string. -/
def readString (cs : List Char) : Option (String × List Char) :=
  (readChars (cs.length + 1) cs).map fun (s, cs) => (String.ofList s, cs)

/-- `-?` -/
def signPart : List Char → List Char × List Char
  | '-' :: cs => (['-'], cs)
  | cs => ([], cs)

/-- `0|[1-9][0-9]*` -/
def intPart : List Char → Option (List Char × List Char)
  | [] => none
  | c :: cs =>
    if c = '0' then some (['0'], cs)
    else if c.isDigit then some (c :: cs.takeWhile Char.isDigit, cs.dropWhile Char.isDigit)
    else none

/-- `([0-9]+)?` after a text that is left alone where there is no digit. -/
def digitsAfter (lead cs : List Char) : List Char × List Char :=
  if cs.takeWhile Char.isDigit = [] then ([], lead ++ cs)
  else (lead ++ cs.takeWhile Char.isDigit, cs.dropWhile Char.isDigit)

/-- `(\.[0-9]+)?` -/
def fracPart : List Char → List Char × List Char
  | '.' :: cs => digitsAfter ['.'] cs
  | cs => ([], cs)

/-- `([eE][-+]?[0-9]+)?` -/
def expPart : List Char → List Char × List Char
  | e :: s :: cs =>
    if e = 'e' ∨ e = 'E' then
      if s = '-' ∨ s = '+' then digitsAfter [e, s] cs else digitsAfter [e] (s :: cs)
    else ([], e :: s :: cs)
  | cs => ([], cs)

/-- A number: its text, whether it is an integer, and what follows. -/
def readNumber (cs : List Char) : Option ((List Char × Bool) × List Char) :=
  let (sign, cs) := signPart cs
  (intPart cs).map fun (int, cs) =>
    let (frac, cs) := fracPart cs
    let (exp, cs) := expPart cs
    ((sign ++ int ++ frac ++ exp, decide (frac = [] ∧ exp = [])), cs)

/-- `int(text)` -/
def intValue : List Char → ℤ
  | '-' :: cs => -(Nat.ofDigitChars 10 cs 0)
  | cs => Nat.ofDigitChars 10 cs 0

/-- What follows a word, where the text begins with it. -/
def afterWord : List Char → List Char → Option (List Char)
  | [], cs => some cs
  | _ :: _, [] => none
  | w :: ws, c :: cs => if w = c then afterWord ws cs else none

/-- A key, the colon after it included. -/
def readKey (cs : List Char) : Option (String × List Char) :=
  match skipBlanks cs with
  | [] => none
  | c :: cs =>
    if c = '"' then (readString cs).bind fun (k, cs) =>
      if (skipBlanks cs).head? = some ':' then some (k, (skipBlanks cs).tail) else none
    else none

section Read

variable (d : Dialect F)

/-- A number or a word. -/
def readAtom (cs : List Char) : Option (Value F × List Char) :=
  match readNumber cs with
  | some ((text, true), cs) => some (d.integer (intValue text), cs)
  | some ((text, false), cs) => (d.number text).map fun v => (v, cs)
  | none =>
    let words : List (List Char × Value F) := [(['n', 'u', 'l', 'l'], .null),
      (['t', 'r', 'u', 'e'], .bool true), (['f', 'a', 'l', 's', 'e'], .bool false)]
    (words ++ d.words).findSome? fun w => (afterWord w.1 cs).map fun cs => (w.2, cs)

/-- `dict(pairs)` -/
def ofPairs (items : List (String × Value F)) : Dict F :=
  items.foldl (fun d kv => d.set kv.1 kv.2) []

mutual

/-- A value, nested at most `n` deep, and what follows it. -/
def readValue : ℕ → List Char → Option (Value F × List Char)
  | 0, _ => none
  | n + 1, cs => match skipBlanks cs with
    | [] => none
    | c :: cs =>
      if c = '"' then (readString cs).map fun (s, cs) => (.str s, cs)
      else if c = '[' then
        if (skipBlanks cs).head? = some ']' then some (.list [], (skipBlanks cs).tail)
        else (readItems n cs).map fun (xs, cs) => (.list xs, cs)
      else if c = '{' then
        if (skipBlanks cs).head? = some '}' then some (.dict [], (skipBlanks cs).tail)
        else (readMembers n cs).map fun (items, cs) => (.dict (ofPairs items), cs)
      else readAtom d (c :: cs)

/-- The items of a list, the bracket at its end included. -/
def readItems : ℕ → List Char → Option (List (Value F) × List Char)
  | 0, _ => none
  | n + 1, cs => (readValue n cs).bind fun (x, cs) => match skipBlanks cs with
    | [] => none
    | c :: cs =>
      if c = ',' then (readItems n cs).map fun (xs, cs) => (x :: xs, cs)
      else if c = ']' then some ([x], cs)
      else none

/-- The members of a dictionary, the brace at its end included. -/
def readMembers : ℕ → List Char → Option (List (String × Value F) × List Char)
  | 0, _ => none
  | n + 1, cs => (readKey cs).bind fun (k, cs) => (readValue n cs).bind fun (v, cs) =>
    match skipBlanks cs with
    | [] => none
    | c :: cs =>
      if c = ',' then (readMembers n cs).map fun (items, cs) => ((k, v) :: items, cs)
      else if c = '}' then some ([(k, v)], cs)
      else none

end

/-- `json.loads`; `none` is the `JSONDecodeError`. -/
def loads (s : String) : Option (Value F) :=
  (readValue d (s.toList.length + 1) s.toList).bind fun (v, cs) =>
    if skipBlanks cs = [] then some v else none

end Read

/-! ### Blanks -/

/-- Blanks in front are skipped. -/
theorem skipBlanks_append {bs : List Char} (h : ∀ c ∈ bs, isBlank c = true) (cs : List Char) :
    skipBlanks (bs ++ cs) = skipBlanks cs := List.dropWhile_append_of_pos h

/-- In front of another character nothing is skipped. -/
theorem skipBlanks_cons {c : Char} (h : isBlank c = false) (cs : List Char) :
    skipBlanks (c :: cs) = c :: cs := List.dropWhile_cons_of_neg (by simp [h])

/-- A value is read with or without blanks in front. -/
theorem readValue_blanks (d : Dialect F) {bs : List Char} (h : ∀ c ∈ bs, isBlank c = true)
    (n : ℕ) (cs : List Char) : readValue d n (bs ++ cs) = readValue d n cs := by
  cases n with
  | zero => rfl
  | succ n => rw [readValue, readValue, skipBlanks_append h]

/-- The items of a list are read with or without blanks in front. -/
theorem readItems_blanks (d : Dialect F) {bs : List Char} (h : ∀ c ∈ bs, isBlank c = true)
    (n : ℕ) (cs : List Char) : readItems d n (bs ++ cs) = readItems d n cs := by
  cases n with
  | zero => rfl
  | succ n => rw [readItems, readItems, readValue_blanks d h]

/-- The members of an object are read with or without blanks in front. -/
theorem readMembers_blanks (d : Dialect F) {bs : List Char} (h : ∀ c ∈ bs, isBlank c = true)
    (n : ℕ) (cs : List Char) : readMembers d n (bs ++ cs) = readMembers d n cs := by
  cases n with
  | zero => rfl
  | succ n => rw [readMembers, readMembers, readKey, readKey, skipBlanks_append h]

/-! ### The bound on the nesting -/

section Bound

variable (d : Dialect F) (n : ℕ)

/-- What is read with this bound is read with the next one. -/
structure ReadsOn : Prop where
  value : ∀ cs r, readValue d n cs = some r → readValue d (n + 1) cs = some r
  items : ∀ cs r, readItems d n cs = some r → readItems d (n + 1) cs = some r
  members : ∀ cs r, readMembers d n cs = some r → readMembers d (n + 1) cs = some r

variable {d n}

/-- One more round does not change what a value is read as. The three step lemmas are for the
induction on the fuel, as the three readers call one another. -/
theorem ReadsOn.value_succ (ih : ReadsOn d n) (cs : List Char) (r : Value F × List Char)
    (h : readValue d (n + 1) cs = some r) : readValue d (n + 2) cs = some r := by
  rw [readValue] at h ⊢
  -- the first letter decides: a string, a list, an object, or a scalar, which is read at once
  cases hskip : skipBlanks cs with
  | nil =>
    rw [hskip] at h
    cases h
  | cons c cs =>
    rw [hskip] at h
    dsimp only at h ⊢
    split at h
    · next hq => rwa [if_pos hq]
    next hq =>
    rw [if_neg hq]
    split at h
    · next hl =>
      rw [if_pos hl]
      split at h
      · next hempty => rwa [if_pos hempty]
      · next hempty =>
        obtain ⟨items, hitems, rfl⟩ := Option.map_eq_some_iff.mp h
        rw [if_neg hempty, ih.items _ _ hitems]
        rfl
    next hl =>
    rw [if_neg hl]
    split at h
    · next hd =>
      rw [if_pos hd]
      split at h
      · next hempty => rwa [if_pos hempty]
      · next hempty =>
        obtain ⟨items, hitems, rfl⟩ := Option.map_eq_some_iff.mp h
        rw [if_neg hempty, ih.members _ _ hitems]
        rfl
    · next hd => rwa [if_neg hd]

/-- One more round does not change what the items of a list are read as. The rounds bound the
nesting and the length together. -/
theorem ReadsOn.items_succ (ih : ReadsOn d n) (cs : List Char) (r : List (Value F) × List Char)
    (h : readItems d (n + 1) cs = some r) : readItems d (n + 2) cs = some r := by
  rw [readItems] at h ⊢
  obtain ⟨⟨x, rest⟩, hvalue, h⟩ := Option.bind_eq_some_iff.mp h
  rw [ih.value _ _ hvalue, Option.bind_some]
  dsimp only at h ⊢
  cases hskip : skipBlanks rest with
  | nil =>
    rw [hskip] at h
    cases h
  | cons c rest =>
    rw [hskip] at h
    dsimp only at h ⊢
    split at h
    · next hcomma =>
      obtain ⟨items, hitems, rfl⟩ := Option.map_eq_some_iff.mp h
      rw [if_pos hcomma, ih.items _ _ hitems]
      rfl
    · next hcomma => rwa [if_neg hcomma]

/-- One more round does not change what the members of an object are read as. Its key is read
without rounds, and its value by the hypothesis. -/
theorem ReadsOn.members_succ (ih : ReadsOn d n) (cs : List Char)
    (r : List (String × Value F) × List Char) (h : readMembers d (n + 1) cs = some r) :
    readMembers d (n + 2) cs = some r := by
  rw [readMembers] at h ⊢
  obtain ⟨⟨k, rest⟩, hkey, h⟩ := Option.bind_eq_some_iff.mp h
  obtain ⟨⟨v, rest'⟩, hvalue, h⟩ := Option.bind_eq_some_iff.mp h
  rw [hkey, Option.bind_some]
  dsimp only at hvalue h ⊢
  rw [ih.value _ _ hvalue, Option.bind_some]
  dsimp only
  cases hskip : skipBlanks rest' with
  | nil =>
    rw [hskip] at h
    cases h
  | cons c rest =>
    rw [hskip] at h
    dsimp only at h ⊢
    split at h
    · next hcomma =>
      obtain ⟨items, hitems, rfl⟩ := Option.map_eq_some_iff.mp h
      rw [if_pos hcomma, ih.members _ _ hitems]
      rfl
    · next hcomma => rwa [if_neg hcomma]

variable (d n)

/-- With more fuel, each reader returns what it returned with less. -/
theorem readsOn : ReadsOn d n := by
  induction n with
  | zero =>
    refine ⟨fun _ _ h => ?_, fun _ _ h => ?_, fun _ _ h => ?_⟩
    · cases h
    · cases h
    · cases h
  | succ n ih => exact ⟨ih.value_succ, ih.items_succ, ih.members_succ⟩

variable {d n}

/-- The fuel does not matter once it is enough. -/
theorem readValue_of_le {m : ℕ} (h : n ≤ m) {cs : List Char} {r : Value F × List Char}
    (hread : readValue d n cs = some r) : readValue d m cs = some r := by
  induction m, h using Nat.le_induction with
  | base => exact hread
  | succ m _ ih => exact (readsOn d m).value _ _ ih

/-- Blanks in front of a document do not matter. -/
theorem loads_blanks {bs : List Char} (hbs : ∀ c ∈ bs, isBlank c = true) {s : String}
    {v : Value F} (h : loads d s = some v) : loads d (String.ofList (bs ++ s.toList)) = some v := by
  obtain ⟨⟨w, rest⟩, hread, h⟩ := Option.bind_eq_some_iff.mp h
  have hlength : s.toList.length + 1 ≤ (bs ++ s.toList).length + 1 := by
    rw [List.length_append]
    omega
  rw [loads, String.toList_ofList, readValue_blanks d hbs, readValue_of_le hlength hread]
  exact h

end Bound

/-! ### Strings -/

/-- A hexadecimal digit is read as its value. -/
theorem hexValue?_hexDigit (n : ℕ) : hexValue? (hexDigit n) = some (n % 16) := by
  have hdigits : ∀ m < 16, hexValue? (("0123456789abcdef".toList)[m]?.getD '0') = some m := by
    decide
  exact hdigits (n % 16) (Nat.mod_lt n (by decide))

/-- Four digits are read as the number that they were made of. -/
theorem readHex_digits {n : ℕ} (h : n < 65536) (cs : List Char) :
    readHex (hexDigit (n / 4096) :: hexDigit (n / 256) :: hexDigit (n / 16) :: hexDigit n :: cs) =
      some (n, cs) := by
  have hvalue :
      4096 * (n / 4096 % 16) + 256 * (n / 256 % 16) + 16 * (n / 16 % 16) + n % 16 = n := by
    omega
  simp only [readHex, hexValue?_hexDigit, Option.bind_eq_bind, Option.bind_some, pure, hvalue]

/-- An escape of one unit is read as its character. Surrogates are written as two escapes and are
excluded here. -/
theorem readUnicode_escape {n : ℕ} (hn : n < 65536) (hsurrogate : n < 0xd800 ∨ 0xe000 ≤ n)
    (cs : List Char) :
    readUnicode ((unicodeEscape n).drop 2 ++ cs) = some (Char.ofNat n, cs) := by
  change (readHex (hexDigit (n / 4096) :: hexDigit (n / 256) :: hexDigit (n / 16) ::
    hexDigit n :: cs)).bind _ = _
  rw [readHex_digits hn, Option.bind_some]
  dsimp only
  rw [if_neg (by omega), if_neg (by omega)]

/-- A surrogate pair is read as the character it was made of. The number of the character is split
at the tenth bit, and the two ranges tell the halves apart. -/
theorem readUnicode_pair {m : ℕ} (hm : m < 1024 * 1024) (cs : List Char) :
    readUnicode ((unicodeEscape (0xd800 + m / 1024)).drop 2 ++
      (unicodeEscape (0xdc00 + m % 1024) ++ cs)) = some (Char.ofNat (0x10000 + m), cs) := by
  have hhigh : 0xd800 + m / 1024 < 0xdc00 := by omega
  have hlow : 0xdc00 + m % 1024 < 0xe000 := by omega
  change (readHex (hexDigit ((0xd800 + m / 1024) / 4096) :: hexDigit ((0xd800 + m / 1024) / 256) ::
    hexDigit ((0xd800 + m / 1024) / 16) :: hexDigit (0xd800 + m / 1024) :: '\\' :: 'u' ::
      hexDigit ((0xdc00 + m % 1024) / 4096) :: hexDigit ((0xdc00 + m % 1024) / 256) ::
      hexDigit ((0xdc00 + m % 1024) / 16) :: hexDigit (0xdc00 + m % 1024) :: cs)).bind _ = _
  rw [readHex_digits (by omega), Option.bind_some]
  dsimp only
  rw [if_pos ⟨by omega, hhigh⟩]
  change (readHex (hexDigit ((0xdc00 + m % 1024) / 4096) :: hexDigit ((0xdc00 + m % 1024) / 256) ::
    hexDigit ((0xdc00 + m % 1024) / 16) :: hexDigit (0xdc00 + m % 1024) :: cs)).bind _ = _
  rw [readHex_digits (by omega), Option.bind_some]
  dsimp only
  rw [if_pos ⟨by omega, hlow⟩]
  have hvalue : 0x10000 + 1024 * (0xd800 + m / 1024 - 0xd800) + (0xdc00 + m % 1024 - 0xdc00) =
      0x10000 + m := by omega
  rw [hvalue]

/-- An escape is read as the character, of whichever of the two forms it is. -/
theorem readUnit_longEscape (c : Char) (cs : List Char) :
    readUnit (longEscape c ++ cs) = some (some c, cs) := by
  have hvalid : c.toNat < 0xd800 ∨ 0xdfff < c.toNat ∧ c.toNat < 0x110000 := c.valid
  rw [longEscape]
  split
  · next hshort =>
    change (readUnicode ((unicodeEscape c.toNat).drop 2 ++ cs)).map _ = _
    rw [readUnicode_escape hshort (by omega), Char.ofNat_toNat]
    rfl
  · next hlong =>
    rw [List.append_assoc]
    change (readUnicode ((unicodeEscape (0xd800 + (c.toNat - 0x10000) / 1024)).drop 2 ++
      (unicodeEscape (0xdc00 + (c.toNat - 0x10000) % 1024) ++ cs))).map _ = _
    have hvalue : 0x10000 + (c.toNat - 0x10000) = c.toNat := by omega
    rw [readUnicode_pair (by omega), hvalue, Char.ofNat_toNat]
    rfl

/-- A character is read back, however it was written. -/
theorem readUnit_escapeChar (ascii : Bool) (c : Char) (cs : List Char) :
    readUnit (escapeChar ascii c ++ cs) = some (some c, cs) := by
  by_cases hshort : c ∈ ['"', '\\', '\n', '\r', '\t', '\x0c', '\x08']
  · simp only [List.mem_cons, List.not_mem_nil, or_false] at hshort
    rcases hshort with rfl | rfl | rfl | rfl | rfl | rfl | rfl <;> rfl
  · simp only [List.mem_cons, List.not_mem_nil, or_false, not_or] at hshort
    obtain ⟨hquote, hslash, hn, hr, ht, hf, hb⟩ := hshort
    rw [escapeChar, if_neg hquote, if_neg hslash, if_neg hn, if_neg hr, if_neg ht, if_neg hf,
      if_neg hb]
    split
    · exact readUnit_longEscape c cs
    · next hplain =>
      rw [List.singleton_append, readUnit, if_neg hquote, if_neg hslash,
        if_neg fun h => hplain (.inl h)]

/-- Every character is written as something. -/
theorem escapeChar_ne_nil (ascii : Bool) (c : Char) : escapeChar ascii c ≠ [] := by
  intro h
  have hunit := readUnit_escapeChar ascii c []
  rw [h] at hunit
  cases hunit

/-- The characters of a text, escaped one by one, are read back up to the closing quote. -/
theorem readChars_flatMap (ascii : Bool) (s cs : List Char) {n : ℕ} (h : s.length < n) :
    readChars n (s.flatMap (escapeChar ascii) ++ '"' :: cs) = some (s, cs) := by
  induction s generalizing n with
  | nil =>
    obtain ⟨n, rfl⟩ := Nat.exists_eq_add_one_of_ne_zero (Nat.ne_zero_of_lt h)
    rfl
  | cons c s ih =>
    obtain ⟨n, rfl⟩ := Nat.exists_eq_add_one_of_ne_zero (Nat.ne_zero_of_lt h)
    rw [List.flatMap_cons, List.append_assoc, readChars, readUnit_escapeChar, Option.bind_some]
    dsimp only
    rw [ih (Nat.lt_of_succ_lt_succ h)]
    rfl

/-- An escaped text is not shorter than the text. -/
theorem length_le_flatMap (ascii : Bool) (s : List Char) :
    s.length ≤ (s.flatMap (escapeChar ascii)).length := by
  induction s with
  | nil => exact Nat.le_refl _
  | cons c s ih =>
    have hc := List.length_pos_iff.mpr (escapeChar_ne_nil ascii c)
    rw [List.flatMap_cons, List.length_append, List.length_cons]
    omega

/-- A text between quotes is read back. -/
theorem readString_text (ascii : Bool) (s : String) (cs : List Char) :
    readString ((stringText ascii s ++ cs).tail) = some (s, cs) := by
  have hlength := length_le_flatMap ascii s.toList
  rw [stringText, List.cons_append, List.tail_cons, List.append_assoc, List.singleton_append,
    readString, readChars_flatMap]
  · exact congrArg (fun s => some (s, cs)) (String.ofList_toList (s := s))
  · rw [List.length_append]
    omega

/-! ### Numbers -/

/-- The text goes on with a character that is no part of a number, or ends. -/
def Delimits (cs : List Char) : Prop :=
  ∀ c ∈ cs.head?, c.isDigit = false ∧ c ≠ '.' ∧ c ≠ 'e' ∧ c ≠ 'E'

/-- Digits end in front of a delimiter, whatever follows it. -/
theorem takeWhile_delimits {cs : List Char} (h : Delimits cs) (t : List Char) :
    (t ++ cs).takeWhile Char.isDigit = t.takeWhile Char.isDigit ∧
      (t ++ cs).dropWhile Char.isDigit = t.dropWhile Char.isDigit ++ cs := by
  induction t with
  | nil =>
    cases cs with
    | nil => exact ⟨rfl, rfl⟩
    | cons c cs =>
      have hc : ¬ c.isDigit = true := by rw [(h c rfl).1]; exact Bool.false_ne_true
      exact ⟨List.takeWhile_cons_of_neg hc, List.dropWhile_cons_of_neg hc⟩
  | cons c t ih =>
    by_cases hc : c.isDigit = true
    · rw [List.cons_append, List.takeWhile_cons_of_pos hc, List.takeWhile_cons_of_pos hc,
        List.dropWhile_cons_of_pos hc, List.dropWhile_cons_of_pos hc, ih.1]
      exact ⟨rfl, ih.2⟩
    · rw [List.cons_append, List.takeWhile_cons_of_neg hc, List.takeWhile_cons_of_neg hc,
        List.dropWhile_cons_of_neg hc, List.dropWhile_cons_of_neg hc]
      exact ⟨rfl, rfl⟩

/-- Digits behind a sign or a point end in front of a delimiter as well. -/
theorem digitsAfter_append {cs : List Char} (h : Delimits cs) (lead t : List Char) :
    digitsAfter lead (t ++ cs) = ((digitsAfter lead t).1, (digitsAfter lead t).2 ++ cs) := by
  rw [digitsAfter, digitsAfter, (takeWhile_delimits h t).1, (takeWhile_delimits h t).2]
  split
  · rw [List.append_assoc]
  · rfl

/-- An integer part is not continued behind a delimiter. A zero is complete by itself, and other
digits go on as far as there are digits. -/
theorem intPart_append {cs t int rest : List Char} (h : Delimits cs)
    (ht : intPart t = some (int, rest)) : intPart (t ++ cs) = some (int, rest ++ cs) := by
  cases t with
  | nil => cases ht
  | cons c t =>
    rw [List.cons_append, intPart]
    rw [intPart] at ht
    split at ht
    · next hzero =>
      rw [if_pos hzero]
      cases ht
      rfl
    · next hzero =>
      rw [if_neg hzero]
      split at ht
      · next hdigit =>
        rw [if_pos hdigit, (takeWhile_delimits h t).1, (takeWhile_delimits h t).2]
        cases ht
        rfl
      · cases ht

/-- A fraction is not continued behind a delimiter. -/
theorem fracPart_append {cs : List Char} (h : Delimits cs) (t : List Char) :
    fracPart (t ++ cs) = ((fracPart t).1, (fracPart t).2 ++ cs) := by
  have hother (c : Char) (t : List Char) (hc : c ≠ '.') : fracPart (c :: t) = ([], c :: t) := by
    rw [fracPart]
    rintro t ⟨⟩
    exact hc rfl
  cases t with
  | nil =>
    cases cs with
    | nil => rfl
    | cons c cs => exact hother c cs (h c rfl).2.1
  | cons c t =>
    by_cases hc : c = '.'
    · subst hc
      exact digitsAfter_append h ['.'] t
    · rw [List.cons_append, hother c _ hc, hother c _ hc]
      rfl

/-- An exponent is not continued behind a delimiter, nor is one begun there, as a delimiter is no
`e`. -/
theorem expPart_append {cs t exp : List Char} (h : Delimits cs) (ht : expPart t = (exp, [])) :
    expPart (t ++ cs) = (exp, cs) := by
  have hother (e : Char) (t : List Char) (he : ¬ (e = 'e' ∨ e = 'E')) :
      expPart (e :: t) = ([], e :: t) := by
    cases t with
    | nil => rfl
    | cons s t => rw [expPart, if_neg he]
  cases t with
  | nil =>
    cases ht
    cases cs with
    | nil => rfl
    | cons c cs => exact hother c cs (not_or.mpr (h c rfl).2.2)
  | cons e t =>
    cases t with
    | nil => cases ht
    | cons s t =>
      by_cases he : e = 'e' ∨ e = 'E'
      · rw [List.cons_append, List.cons_append, expPart, if_pos he]
        rw [expPart, if_pos he] at ht
        split at ht
        · next hs => rw [if_pos hs, digitsAfter_append h, ht, List.nil_append]
        · next hs => rw [if_neg hs, ← List.cons_append, digitsAfter_append h, ht, List.nil_append]
      · rw [hother e _ he] at ht
        cases ht

/-- A number is read from a longer text, where something else follows. Its sign, integer part,
fraction and exponent each end where they did. -/
theorem readNumber_append {cs t : List Char} {token : List Char × Bool} (h : Delimits cs)
    (ht : readNumber t = some (token, [])) : readNumber (t ++ cs) = some (token, cs) := by
  have hsign : t ≠ [] → signPart (t ++ cs) = ((signPart t).1, (signPart t).2 ++ cs) := by
    intro hne
    cases t with
    | nil => exact absurd rfl hne
    | cons c t =>
      by_cases hc : c = '-'
      · subst hc
        rfl
      · have hother (t : List Char) : signPart (c :: t) = ([], c :: t) := by
          rw [signPart]
          rintro t ⟨⟩
          exact hc rfl
        rw [List.cons_append, hother, hother]
        rfl
  have hne : t ≠ [] := by
    rintro rfl
    cases ht
  rw [readNumber] at ht ⊢
  rw [hsign hne]
  dsimp only at ht ⊢
  obtain ⟨⟨int, rest⟩, hint, hpair⟩ := Option.map_eq_some_iff.mp ht
  obtain ⟨htoken, hrest⟩ := Prod.ext_iff.mp hpair
  rw [intPart_append h hint, Option.map_some]
  dsimp only at htoken hrest ⊢
  rw [fracPart_append h]
  dsimp only
  rw [expPart_append h (Prod.ext rfl hrest)]
  exact congrArg (fun token => some (token, cs)) htoken

/-- A number begins with its sign or a digit. So it is not taken for a text, a list, an object or a
name. -/
theorem readNumber_head {t : List Char} {r : (List Char × Bool) × List Char}
    (ht : readNumber t = some r) : ∃ c cs, t = c :: cs ∧ (c = '-' ∨ c.isDigit = true) := by
  cases t with
  | nil => cases ht
  | cons c cs =>
    refine ⟨c, cs, rfl, ?_⟩
    by_contra hc
    obtain ⟨hminus, hdigit⟩ := not_or.mp hc
    have hsign : signPart (c :: cs) = ([], c :: cs) := by
      rw [signPart]
      rintro t ⟨⟩
      exact hminus rfl
    have hzero : c ≠ '0' := by
      rintro rfl
      exact hdigit rfl
    rw [readNumber, hsign] at ht
    dsimp only at ht
    rw [intPart, if_neg hzero, if_neg hdigit] at ht
    cases ht

/-! ### Integers -/

/-- A number other than zero begins with a digit other than zero. -/
theorem toDigits_head {n : ℕ} (hn : n ≠ 0) :
    ∃ c cs, Nat.toDigits 10 n = c :: cs ∧ c.isDigit = true ∧ c ≠ '0' := by
  induction n using Nat.strong_induction_on with
  | _ n ih =>
    by_cases hlt : n < 10
    · have hdigits : ∀ m < 10, m ≠ 0 → m.digitChar.isDigit = true ∧ m.digitChar ≠ '0' := by
        decide
      exact ⟨n.digitChar, [], Nat.toDigits_of_lt_base hlt, hdigits n hlt hn⟩
    · obtain ⟨c, cs, hcs, hc⟩ := ih (n / 10) (by omega) (by omega)
      refine ⟨c, cs ++ [(n % 10).digitChar], ?_, hc⟩
      rw [Nat.toDigits_of_base_le (by decide) (by omega), hcs]
      rfl

/-- The digits of a number are digits. -/
theorem takeWhile_toDigits (n : ℕ) :
    (Nat.toDigits 10 n).takeWhile Char.isDigit = Nat.toDigits 10 n ∧
      (Nat.toDigits 10 n).dropWhile Char.isDigit = [] := by
  have hall : ∀ c ∈ Nat.toDigits 10 n, c.isDigit = true := fun c hc =>
    Nat.isDigit_of_mem_toDigits (by decide) (by decide) hc
  exact ⟨List.takeWhile_eq_self_iff.mpr hall, List.dropWhile_eq_nil_iff.mpr hall⟩

/-- The digits of a number are an integer part, with nothing behind it. -/
theorem intPart_toDigits (n : ℕ) : intPart (Nat.toDigits 10 n) = some (Nat.toDigits 10 n, []) := by
  by_cases hn : n = 0
  · subst hn
    rfl
  · obtain ⟨c, cs, hcs, hdigit, hzero⟩ := toDigits_head hn
    have hspan := takeWhile_toDigits n
    rw [hcs, List.takeWhile_cons_of_pos hdigit, List.dropWhile_cons_of_pos hdigit] at hspan
    rw [hcs, intPart, if_neg hzero, if_pos hdigit, hspan.2, hspan.1]

/-- An integer is read as an integer, to its last digit. -/
theorem readNumber_intText (i : ℤ) : readNumber (intText i) = some ((intText i, true), []) := by
  have hnat (n : ℕ) : signPart (Nat.toDigits 10 n) = ([], Nat.toDigits 10 n) := by
    rw [signPart]
    intro cs hcs
    have hmem : '-' ∈ Nat.toDigits 10 n := hcs ▸ List.mem_cons_self
    exact absurd (Nat.isDigit_of_mem_toDigits (by decide) (by decide) hmem) (by decide)
  cases i with
  | ofNat n =>
    rw [intText, readNumber, hnat]
    dsimp only
    rw [intPart_toDigits]
    simp [fracPart, expPart]
  | negSucc n =>
    rw [intText, readNumber, signPart]
    dsimp only
    rw [intPart_toDigits]
    simp [fracPart, expPart]

/-- The text of an integer has the value that was written. -/
theorem intValue_intText (i : ℤ) : intValue (intText i) = i := by
  cases i with
  | ofNat n =>
    have hplain : intValue (Nat.toDigits 10 n) = Nat.ofDigitChars 10 (Nat.toDigits 10 n) 0 := by
      rw [intValue]
      intro cs hcs
      have hmem : '-' ∈ Nat.toDigits 10 n := hcs ▸ List.mem_cons_self
      exact absurd (Nat.isDigit_of_mem_toDigits (by decide) (by decide) hmem) (by decide)
    rw [intText, hplain, Nat.ofDigitChars_ten_toDigits]
    rfl
  | negSucc n =>
    rw [intText, intValue, Nat.ofDigitChars_ten_toDigits]
    rfl

/-! ### Dictionaries -/

/-- A new key is appended. -/
theorem set_of_notMem {d : Dict F} {k : String} (h : k ∉ d.map Prod.fst) (v : Value F) :
    d.set k v = d ++ [(k, v)] := by
  induction d with
  | nil => rfl
  | cons kv d ih =>
    obtain ⟨q, w⟩ := kv
    rw [List.map_cons, List.mem_cons, not_or] at h
    rw [Dict.set, if_neg (Ne.symm h.1), ih h.2]
    rfl

/-- The pairs of a dictionary build it again. -/
theorem ofPairs_eq {items : List (String × Value F)} (h : (items.map Prod.fst).Nodup) :
    ofPairs items = items := by
  have hfold (rest acc : List (String × Value F))
      (hnodup : ((acc ++ rest).map Prod.fst).Nodup) :
      rest.foldl (fun d kv => Dict.set d kv.1 kv.2) acc = acc ++ rest := by
    induction rest generalizing acc with
    | nil => rw [List.foldl_nil, List.append_nil]
    | cons kv rest ih =>
      have hsplit : acc ++ kv :: rest = acc ++ [kv] ++ rest := by
        rw [List.append_assoc, List.singleton_append]
      have hnew : kv.1 ∉ acc.map Prod.fst := by
        rw [List.map_append, List.map_cons] at hnodup
        exact fun hmem => (List.nodup_append.mp hnodup).2.2 _ hmem _ List.mem_cons_self rfl
      rw [hsplit] at hnodup ⊢
      rw [List.foldl_cons, set_of_notMem hnew]
      exact ih (acc ++ [kv]) hnodup
  exact hfold items [] h

/-! ### Reading back -/

/-- The reader gives back the numbers of a value, and no key of it stands twice. -/
inductive Readable (fmt : Format F) (d : Dialect F) : Value F → Prop
  | null : Readable fmt d .null
  | bool (b : Bool) : Readable fmt d (.bool b)
  | int {i : ℤ} (h : d.integer i = .int i) : Readable fmt d (.int i)
  | float {x : F} (htext : readNumber (fmt.floatText x) = some ((fmt.floatText x, false), []))
    (h : d.number (fmt.floatText x) = some (.float x)) : Readable fmt d (.float x)
  | str (s : String) : Readable fmt d (.str s)
  | list {xs : List (Value F)} (h : ∀ x ∈ xs, Readable fmt d x) : Readable fmt d (.list xs)
  | dict {items : List (String × Value F)} (hkeys : (items.map Prod.fst).Nodup)
    (h : ∀ kv ∈ items, Readable fmt d kv.2) : Readable fmt d (.dict items)

/-- A character that a value can begin with. -/
def Begins (c : Char) : Prop := isBlank c = false ∧ c ≠ ']' ∧ c ≠ '}'

instance (c : Char) : Decidable (Begins c) :=
  inferInstanceAs (Decidable (isBlank c = false ∧ c ≠ ']' ∧ c ≠ '}'))

/-- No value that is not a number begins like one. -/
theorem begins_number {c : Char} (h : c = '-' ∨ c.isDigit = true) :
    Begins c ∧ c ≠ '"' ∧ c ≠ '[' ∧ c ≠ '{' := by
  have hne (c' : Char) (hc' : c'.isDigit = false) (hminus : c' ≠ '-') : c ≠ c' := by
    rintro rfl
    rcases h with h | h
    · exact hminus h
    · rw [hc'] at h
      cases h
  refine ⟨⟨?_, hne _ rfl (by decide), hne _ rfl (by decide)⟩, hne _ rfl (by decide),
    hne _ rfl (by decide), hne _ rfl (by decide)⟩
  simp [isBlank, hne ' ' rfl (by decide), hne '\t' rfl (by decide), hne '\n' rfl (by decide),
    hne '\r' rfl (by decide)]

section Back

variable {fmt : Format F} {d : Dialect F}

/-- What a value is written as begins with a character that can begin one. -/
theorem Readable.head {v : Value F} (h : Readable fmt d v) (depth : ℕ) :
    ∃ c cs, write fmt depth v = c :: cs ∧ Begins c := by
  have hnumber {t : List Char} {r : (List Char × Bool) × List Char} (ht : readNumber t = some r) :
      ∃ c cs, t = c :: cs ∧ Begins c := by
    obtain ⟨c, cs, hcs, hc⟩ := readNumber_head ht
    exact ⟨c, cs, hcs, (begins_number hc).1⟩
  cases h with
  | null => exact ⟨'n', _, rfl, by decide⟩
  | bool b => cases b <;> exact ⟨_, _, rfl, by decide⟩
  | int h => exact hnumber (readNumber_intText _)
  | float htext h => exact hnumber htext
  | str s => exact ⟨'"', _, rfl, by decide⟩
  | @list xs h => cases xs <;> exact ⟨'[', _, rfl, by decide⟩
  | @dict items hkeys h => cases items <;> exact ⟨'{', _, rfl, by decide⟩

/-- Behind any other beginning than a quote or a bracket there is an atom. -/
theorem readValue_atom {c : Char} (hc : Begins c) (hq : c ≠ '"') (hl : c ≠ '[') (hd : c ≠ '{')
    (n : ℕ) (cs : List Char) : readValue d (n + 1) (c :: cs) = readAtom d (c :: cs) := by
  rw [readValue, skipBlanks_cons hc.1]
  dsimp only
  rw [if_neg hq, if_neg hl, if_neg hd]

/-- A number is read, and what follows it is left. -/
theorem readValue_number {t cs text : List Char} {b : Bool} (h : Delimits cs)
    (ht : readNumber t = some ((text, b), [])) (n : ℕ) : readValue d (n + 1) (t ++ cs) =
      if b then some (d.integer (intValue text), cs)
      else (d.number text).map fun v => (v, cs) := by
  have hlong := readNumber_append h ht
  obtain ⟨c, rest, rfl, hc⟩ := readNumber_head ht
  obtain ⟨hbegins, hq, hl, hd⟩ := begins_number hc
  rw [List.cons_append, readValue_atom hbegins hq hl hd, readAtom, ← List.cons_append, hlong]
  cases b <;> rfl

/-- Behind an opening bracket and blanks the items are read. -/
theorem readValue_list {bs cs : List Char} (hbs : ∀ c ∈ bs, isBlank c = true) {c : Char}
    (hc : Begins c) (n : ℕ) : readValue d (n + 1) ('[' :: (bs ++ c :: cs)) =
      (readItems d n (c :: cs)).map fun r => (.list r.1, r.2) := by
  have hnext : ¬ (c :: cs).head? = some ']' := fun h => hc.2.1 (Option.some.inj h)
  rw [readValue, skipBlanks_cons rfl]
  dsimp only
  rw [if_neg (by decide), if_pos rfl, skipBlanks_append hbs, skipBlanks_cons hc.1, if_neg hnext,
    readItems_blanks d hbs]

/-- Behind an opening brace and blanks the members are read. -/
theorem readValue_dict {bs cs : List Char} (hbs : ∀ c ∈ bs, isBlank c = true) {c : Char}
    (hc : Begins c) (n : ℕ) : readValue d (n + 1) ('{' :: (bs ++ c :: cs)) =
      (readMembers d n (c :: cs)).map fun r => (.dict (ofPairs r.1), r.2) := by
  have hnext : ¬ (c :: cs).head? = some '}' := fun h => hc.2.2 (Option.some.inj h)
  rw [readValue, skipBlanks_cons rfl]
  dsimp only
  rw [if_neg (by decide), if_neg (by decide), if_pos rfl, skipBlanks_append hbs,
    skipBlanks_cons hc.1, if_neg hnext, readMembers_blanks d hbs]

/-- A key with its colon is read back. -/
theorem readKey_text (ascii : Bool) (k : String) (cs : List Char) :
    readKey (stringText ascii k ++ ':' :: cs) = some (k, cs) := by
  have hstring := readString_text ascii k (':' :: cs)
  rw [stringText, List.cons_append, List.tail_cons] at hstring
  rw [readKey, stringText, List.cons_append, skipBlanks_cons rfl]
  dsimp only
  rw [if_pos rfl, hstring, Option.bind_some]
  dsimp only
  rw [skipBlanks_cons rfl]
  exact if_pos rfl

/-- Blanks and a token end a number. -/
theorem delimits_blanks {bs : List Char} (h : ∀ c ∈ bs, isBlank c = true) {c : Char}
    (hc : c = ',' ∨ c = ']' ∨ c = '}') (cs : List Char) : Delimits (bs ++ c :: cs) := by
  intro c' hc'
  cases bs with
  | nil =>
    obtain rfl : c = c' := Option.some.inj hc'
    rcases hc with rfl | rfl | rfl <;> decide
  | cons b bs =>
    obtain rfl : b = c' := Option.some.inj hc'
    have hblank := h b List.mem_cons_self
    simp only [isBlank, Bool.or_eq_true, decide_eq_true_eq] at hblank
    rcases hblank with ((rfl | rfl) | rfl) | rfl <;> decide

variable (fmt d)

/-- Values, items and members whose texts are no longer than this are read back. -/
structure ReadsBack (n : ℕ) : Prop where
  value : ∀ (v : Value F) (depth : ℕ) (cs : List Char), Readable fmt d v → Delimits cs →
    (write fmt depth v).length ≤ n → readValue d n (write fmt depth v ++ cs) = some (v, cs)
  items : ∀ (x : Value F) (xs : List (Value F)) (depth : ℕ) (bs cs : List Char),
    (∀ y ∈ x :: xs, Readable fmt d y) → (∀ c ∈ bs, isBlank c = true) →
    (write fmt depth x ++ writeItems fmt depth xs).length + 1 ≤ n →
    readItems d n (write fmt depth x ++ writeItems fmt depth xs ++ (bs ++ ']' :: cs)) =
      some (x :: xs, cs)
  members : ∀ (k : String) (v : Value F) (items : List (String × Value F)) (depth : ℕ)
    (bs cs : List Char), (∀ kv ∈ (k, v) :: items, Readable fmt d kv.2) →
    (∀ c ∈ bs, isBlank c = true) →
    (stringText fmt.ascii k ++ ':' :: (fmt.afterColon ++ write fmt depth v) ++
      writeMembers fmt depth items).length + 1 ≤ n →
    readMembers d n (stringText fmt.ascii k ++ ':' :: (fmt.afterColon ++ write fmt depth v) ++
      writeMembers fmt depth items ++ (bs ++ '}' :: cs)) = some ((k, v) :: items, cs)

variable {fmt d} {n : ℕ}

/-- A value is read back with one more round. It is a case for each kind of value, and the induction
hypothesis is for its parts, which are shorter. -/
theorem ReadsBack.value_succ (ih : ReadsBack fmt d n) (v : Value F) (depth : ℕ) (cs : List Char)
    (h : Readable fmt d v) (hcs : Delimits cs) (hlength : (write fmt depth v).length ≤ n + 1) :
    readValue d (n + 1) (write fmt depth v ++ cs) = some (v, cs) := by
  cases h with
  | null => rfl
  | bool b => cases b <;> rfl
  | @int i h =>
    rw [write, readValue_number hcs (readNumber_intText i), if_pos rfl, intValue_intText, h]
  | float htext h =>
    rw [write, readValue_number hcs htext, if_neg Bool.false_ne_true, h]
    rfl
  | str s =>
    change (readString ((stringText fmt.ascii s ++ cs).tail)).map _ = _
    rw [readString_text]
    rfl
  -- the first item's first letter tells the reader that the list is not empty
  | @list xs h =>
    cases xs with
    | nil => rfl
    | cons x xs =>
      obtain ⟨c, t, ht, hc⟩ := (h x List.mem_cons_self).head (depth + 1)
      rw [write] at hlength ⊢
      simp only [List.length_cons, List.length_append] at hlength
      have hitems := ih.items x xs (depth + 1) (fmt.newline depth) cs h (fmt.newline_blank depth)
        (by rw [List.length_append]; omega)
      have htext : '[' :: (fmt.newline (depth + 1) ++ (write fmt (depth + 1) x ++
          writeItems fmt (depth + 1) xs) ++ (fmt.newline depth ++ [']'])) ++ cs =
          '[' :: (fmt.newline (depth + 1) ++ c :: (t ++ writeItems fmt (depth + 1) xs ++
            (fmt.newline depth ++ ']' :: cs))) := by
        simp [ht]
      rw [htext, readValue_list (fmt.newline_blank _) hc]
      rw [ht] at hitems
      rw [List.cons_append, List.cons_append] at hitems
      rw [hitems]
      rfl
  | @dict items hkeys h =>
    cases items with
    | nil => rfl
    | cons kv items =>
      obtain ⟨k, v⟩ := kv
      rw [write] at hlength ⊢
      simp only [List.length_cons, List.length_append] at hlength
      have hmembers := ih.members k v items (depth + 1) (fmt.newline depth) cs h
        (fmt.newline_blank depth)
        (by simp only [List.length_cons, List.length_append]; omega)
      -- a member starts with the quote of its key
      have hhead : stringText fmt.ascii k =
          '"' :: (k.toList.flatMap (escapeChar fmt.ascii) ++ ['"']) := rfl
      have htext : '{' :: (fmt.newline (depth + 1) ++ (stringText fmt.ascii k ++
          ':' :: (fmt.afterColon ++ write fmt (depth + 1) v) ++
            writeMembers fmt (depth + 1) items) ++ (fmt.newline depth ++ ['}'])) ++ cs =
          '{' :: (fmt.newline (depth + 1) ++ '"' :: (k.toList.flatMap (escapeChar fmt.ascii) ++
            ['"'] ++ ':' :: (fmt.afterColon ++ write fmt (depth + 1) v) ++
              writeMembers fmt (depth + 1) items ++ (fmt.newline depth ++ '}' :: cs))) := by
        simp [hhead]
      rw [htext, readValue_dict (fmt.newline_blank _) (by decide)]
      rw [hhead] at hmembers
      simp only [List.cons_append] at hmembers
      rw [hmembers]
      exact congrArg (fun items => some (Value.dict items, cs)) (ofPairs_eq hkeys)

/-- The items of a list are read back, one after the other. What follows an item is a comma or the
blanks and the bracket, which a number cannot go on with. -/
theorem ReadsBack.items_succ (ih : ReadsBack fmt d n) (x : Value F) (xs : List (Value F))
    (depth : ℕ) (bs cs : List Char) (h : ∀ y ∈ x :: xs, Readable fmt d y)
    (hbs : ∀ c ∈ bs, isBlank c = true)
    (hlength : (write fmt depth x ++ writeItems fmt depth xs).length + 1 ≤ n + 1) :
    readItems d (n + 1) (write fmt depth x ++ writeItems fmt depth xs ++ (bs ++ ']' :: cs)) =
      some (x :: xs, cs) := by
  have hx := h x List.mem_cons_self
  rw [List.length_append] at hlength
  cases xs with
  | nil =>
    rw [writeItems, List.append_nil, readItems,
      ih.value x depth _ hx (delimits_blanks hbs (.inr (.inl rfl)) cs) (by omega),
      Option.bind_some]
    dsimp only
    rw [skipBlanks_append hbs, skipBlanks_cons rfl]
    dsimp only
    rw [if_neg (by decide), if_pos rfl]
  | cons y ys =>
    have hitems := ih.items y ys depth bs cs (fun z hz => h z (List.mem_cons_of_mem x hz)) hbs (by
      simp only [writeItems, List.length_cons, List.length_append] at hlength ⊢
      omega)
    -- the comma and the blanks around it, then the rest by the induction hypothesis
    have htext : write fmt depth x ++ writeItems fmt depth (y :: ys) ++ (bs ++ ']' :: cs) =
        write fmt depth x ++ ([] ++ ',' :: (fmt.afterComma ++ (fmt.newline depth ++
          (write fmt depth y ++ writeItems fmt depth ys ++ (bs ++ ']' :: cs))))) := by
      simp [writeItems]
    rw [htext, readItems,
      ih.value x depth _ hx (delimits_blanks (by simp) (.inl rfl) _) (by omega), Option.bind_some]
    dsimp only
    rw [List.nil_append, skipBlanks_cons rfl]
    dsimp only
    rw [if_pos rfl, readItems_blanks d fmt.afterComma_blank,
      readItems_blanks d (fmt.newline_blank depth), hitems]
    rfl

/-- The members of an object are read back, each with its key. The key ends with its quote, and
behind the colon the value is read like an item. -/
theorem ReadsBack.members_succ (ih : ReadsBack fmt d n) (k : String) (v : Value F)
    (items : List (String × Value F)) (depth : ℕ) (bs cs : List Char)
    (h : ∀ kv ∈ (k, v) :: items, Readable fmt d kv.2) (hbs : ∀ c ∈ bs, isBlank c = true)
    (hlength : (stringText fmt.ascii k ++ ':' :: (fmt.afterColon ++ write fmt depth v) ++
      writeMembers fmt depth items).length + 1 ≤ n + 1) :
    readMembers d (n + 1) (stringText fmt.ascii k ++ ':' :: (fmt.afterColon ++
      write fmt depth v) ++ writeMembers fmt depth items ++ (bs ++ '}' :: cs)) =
        some ((k, v) :: items, cs) := by
  have hv := h (k, v) List.mem_cons_self
  simp only [List.length_cons, List.length_append] at hlength
  -- the key and the colon
  have hkey (rest : List Char) :
      readKey (stringText fmt.ascii k ++ ':' :: (fmt.afterColon ++ rest)) =
        some (k, fmt.afterColon ++ rest) := readKey_text fmt.ascii k _
  cases items with
  | nil =>
    have htext : stringText fmt.ascii k ++ ':' :: (fmt.afterColon ++ write fmt depth v) ++
        writeMembers fmt depth [] ++ (bs ++ '}' :: cs) = stringText fmt.ascii k ++
          ':' :: (fmt.afterColon ++ (write fmt depth v ++ (bs ++ '}' :: cs))) := by
      simp [writeMembers]
    rw [htext, readMembers, hkey, Option.bind_some]
    dsimp only
    rw [readValue_blanks d fmt.afterColon_blank,
      ih.value v depth _ hv (delimits_blanks hbs (.inr (.inr rfl)) cs) (by omega),
      Option.bind_some]
    dsimp only
    rw [skipBlanks_append hbs, skipBlanks_cons rfl]
    dsimp only
    rw [if_neg (by decide), if_pos rfl]
  | cons kv items =>
    obtain ⟨q, w⟩ := kv
    have hmembers := ih.members q w items depth bs cs
      (fun kv hkv => h kv (List.mem_cons_of_mem _ hkv)) hbs (by
        simp only [writeMembers, List.length_cons, List.length_append] at hlength ⊢
        omega)
    have htext : stringText fmt.ascii k ++ ':' :: (fmt.afterColon ++ write fmt depth v) ++
        writeMembers fmt depth ((q, w) :: items) ++ (bs ++ '}' :: cs) = stringText fmt.ascii k ++
          ':' :: (fmt.afterColon ++ (write fmt depth v ++ ([] ++ ',' :: (fmt.afterComma ++
            (fmt.newline depth ++ (stringText fmt.ascii q ++ ':' :: (fmt.afterColon ++
              write fmt depth w) ++ writeMembers fmt depth items ++ (bs ++ '}' :: cs))))))) := by
      simp [writeMembers]
    rw [htext, readMembers, hkey, Option.bind_some]
    dsimp only
    rw [readValue_blanks d fmt.afterColon_blank,
      ih.value v depth _ hv (delimits_blanks (by simp) (.inl rfl) _) (by omega), Option.bind_some]
    dsimp only
    rw [List.nil_append, skipBlanks_cons rfl]
    dsimp only
    rw [if_pos rfl, readMembers_blanks d fmt.afterComma_blank,
      readMembers_blanks d (fmt.newline_blank depth), hmembers]
    rfl

variable (fmt d n)

/-- Whatever is written is read back by each reader, if the fuel is as long as the text. -/
theorem readsBack : ReadsBack fmt d n := by
  induction n with
  | zero =>
    refine ⟨fun v depth cs h _ hlength => ?_, fun _ _ _ _ _ _ _ hlength => ?_,
      fun _ _ _ _ _ _ _ _ hlength => ?_⟩
    · obtain ⟨c, t, ht, -⟩ := h.head depth
      rw [ht] at hlength
      cases hlength
    · cases hlength
    · cases hlength
  | succ n ih => exact ⟨ih.value_succ, ih.items_succ, ih.members_succ⟩

variable {fmt d}

/-- What was written is read back. -/
theorem loads_dumps {v : Value F} (h : Readable fmt d v) : loads d (dumps fmt v) = some v := by
  have hend : Delimits [] := by
    intro c hc
    cases hc
  have hvalue := (readsBack fmt d ((write fmt 0 v).length + 1)).value v 0 [] h hend
    (Nat.le_succ _)
  rw [List.append_nil] at hvalue
  rw [loads, dumps, String.toList_ofList, hvalue]
  rfl

end Back

end Py.JsonText
