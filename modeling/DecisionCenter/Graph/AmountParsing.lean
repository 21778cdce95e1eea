import DecisionCenter.Graph.OdooContext
import DecisionCenter.Py.FirstMatch
import DecisionCenter.Py.Split
import DecisionCenter.Py.Whole
import Mathlib

/-!
# Amounts and the workflow that writes them

The workflow that reads Odoo (`n8n/odoo_read.json`) turns a record into an evidence item: all
its fields as `f_*` metadata, and the first five as text in the excerpt, joined by semicolons
and cut at 400 characters. Without the metadata `_cost_line_amount` has only that text to read
the amount off, in which nothing separates what the fields say from the fields.

The encoder is the JavaScript of the workflow (`encodeRecord`): which fields are previewed, how
a value becomes text there, and the cut, which counts UTF-16 units and can part a surrogate
pair. The decoder is node 12's, with its pattern written out as a matcher (`readAmount`);
`AmountSearch` says that the interpreter's engine finds what the matcher finds.

An amount holds no semicolon, so that the text can be searched field by field
(`readAmount_preview`), and the last field may be cut short. `AmountUndone` is the round trip,
with the metadata and without it: what is read back is the amount of the record, and nothing
where it has none. `amountUndone_iff` is exact for all records: the first shown field that reads
as an amount must read as the record's own one.

With its metadata a record that has an amount is always read back. The failing records are those
in which some other text, such as the name of a journal item, reads as an assignment of an
amount.
-/

namespace DecisionCenter

open Py

/-! ### Cutting text -/

/-- The number of UTF-16 code units of a character. -/
def unitWidth (c : Char) : ℕ := if c.toNat < 0x10000 then 1 else 2

/-- `substring(0, n)`, which counts UTF-16 code units; of a character that is cut in two, half is
left. -/
def substring : ℕ → List Char → List Char
  | _, [] => []
  | n, c :: cs =>
    if unitWidth c ≤ n then c :: substring (n - unitWidth c) cs
    else if n = 0 then [] else [Char.ofNat 0xFFFD]

/-- The length of a text in UTF-16 code units. -/
def unitLength (cs : List Char) : ℕ := (cs.map unitWidth).sum

/-- What the first `n` code units show of each text of a preview. -/
def shownTexts : ℕ → List (List Char) → List (List Char)
  | _, [] => []
  | n, t :: ts => substring n t ::
      if unitLength t + 2 ≤ n then shownTexts (n - (unitLength t + 2)) ts else []

@[simp] theorem substring_nil (n : ℕ) : substring n [] = [] := rfl

private theorem unitWidth_pos (c : Char) : 0 < unitWidth c := by
  unfold unitWidth
  split <;> omega

private theorem substring_zero (cs : List Char) : substring 0 cs = [] := by
  cases cs with
  | nil => rfl
  | cons c cs => rw [substring, if_neg (by have := unitWidth_pos c; omega), if_pos rfl]

private theorem substring_append_of_le {n : ℕ} {t : List Char} (h : unitLength t ≤ n)
    (us : List Char) : substring n (t ++ us) = t ++ substring (n - unitLength t) us := by
  induction t generalizing n with
  | nil => rfl
  | cons c t ih =>
    simp only [unitLength, List.map_cons, List.sum_cons] at h ih ⊢
    rw [List.cons_append, substring, if_pos (by omega), ih (by omega), Nat.sub_sub]
    rfl

private theorem substring_append_of_lt {n : ℕ} {t : List Char} (h : n < unitLength t)
    (us : List Char) : substring n (t ++ us) = substring n t := by
  induction t generalizing n with
  | nil => exact absurd h (Nat.not_lt_zero n)
  | cons c t ih =>
    simp only [unitLength, List.map_cons, List.sum_cons] at h ih
    rw [List.cons_append, substring, substring]
    split
    · rw [ih (by omega)]
    · rfl

/-- A text that fits is shown in full. -/
theorem substring_of_le {n : ℕ} {t : List Char} (h : unitLength t ≤ n) : substring n t = t := by
  have happend := substring_append_of_le h []
  rwa [substring_nil, List.append_nil] at happend

private theorem substring_separator (n : ℕ) (us : List Char) :
    substring (n + 2) (';' :: ' ' :: us) = ';' :: ' ' :: substring n us := rfl

section AmountParsing

variable {F : Type} [Floats F] [Text]

/-! ### The workflow -/

/-- A record of `search_read`: scalars and lists of scalars. -/
structure OdooRecord (F : Type) where
  fields : List (String × MetaValue F)
  nodup : (fields.map Prod.fst).Nodup
  /-- An amount is a number. -/
  numeric : ∀ v, fields.lookup "amount" = some v → ∃ x, v = .scalar (.num x)

/-- `h = ((h << 5) + h) ^ code`, over the UTF-16 code units of the text. -/
def hashUnits (s : String) : BitVec 32 :=
  let units := s.toList.flatMap fun c =>
    if c.toNat < 0x10000 then [c.toNat]
    else [0xD800 + (c.toNat - 0x10000) / 0x400, 0xDC00 + (c.toNat - 0x10000) % 0x400]
  units.foldl (fun h unit => ((h <<< 5) + h) ^^^ BitVec.ofNat 32 unit) 5381#32

/-- `padStart(n, '0')` of the hexadecimal digits. -/
def padStart (n : ℕ) (digits : List Char) : List Char :=
  List.replicate (n - digits.length) '0' ++ digits

/-- `simpleHash` -/
def simpleHash (s : String) : String :=
  let h := hashUnits s
  let u := padStart 8 (Nat.toDigits 16 h.toNat)
  let l := padStart 8 (Nat.toDigits 16 (h * 1000003#32).toNat)
  String.ofList (padStart 64 (u ++ l))

/-- `encodeURIComponent` -/
def encodeURIComponent (s : String) : String :=
  String.ofList (s.toList.flatMap fun c =>
    if c.isAlphanum || "-_.!~*()".toList.contains c || c.toNat = 39 then [c]
    else c.toString.toUTF8.toList.flatMap fun b =>
      '%' :: padStart 2 ((Nat.toDigits 16 b.toNat).map Char.toUpper))

section Workflow

variable (jsNumber : F → String) (odooUrl model : String)

/-- `String(v ?? '')`, where `jsNumber` writes a number. -/
def MetaValue.jsText : MetaValue F → String
  | .scalar v => scalarText v
  | .list vs => join "," (vs.map scalarText)
where
  scalarText : Scalar F → String
    | .null => ""
    | .bool b => if b then "true" else "false"
    | .num x => jsNumber x
    | .str s => s

/-- `Boolean(v)` -/
def MetaValue.jsTruthy : MetaValue F → Bool
  | .scalar .null => false
  | .scalar (.bool b) => b
  | .scalar (.num x) => !Floats.isZero x
  | .scalar (.str s) => decide (s ≠ "")
  | .list _ => true

/-- The first of the fields that holds something, as text. -/
def firstText (record : OdooRecord F) (keys : List String) : Option String :=
  ((keys.filterMap fun key => record.fields.lookup key).find? (·.jsTruthy)).map (·.jsText jsNumber)

/-- `valueKeys.slice(0,5)`, with what the record has under them. -/
def previewFields (record : OdooRecord F) : List (String × MetaValue F) :=
  (record.fields.filter fun kv =>
    kv.1 ∉ ["id", "create_date", "write_date", "__last_update"]).take 5

/-- The texts of the preview, one for each field. -/
def previewTexts (record : OdooRecord F) : List (List Char) :=
  (previewFields record).map fun kv => (kv.1 ++ ": " ++ kv.2.jsText jsNumber).toList

/-- The excerpt of a record, in characters. -/
def excerptChars (record : OdooRecord F) : List Char :=
  substring 1000 (List.intercalate [';', ' '] (previewTexts jsNumber record))

/-- `flattenRecord` -/
def flattenRecord (record : OdooRecord F) : List (String × MetaValue F) :=
  (record.fields.filter fun kv => kv.1 ≠ "id").map fun kv => ("f_" ++ kv.1, kv.2)

/-- The currency of the metadata: the name of `currency_id`, or else `currency`. -/
def recordCurrency (record : OdooRecord F) : MetaValue F :=
  match (record.fields.lookup "currency_id").filter (·.jsTruthy) with
  | some (.list vs) => .scalar (vs.getD 1 .null)
  | some (.scalar (.str s)) =>
    .scalar (((s.toList.drop 1).head?).elim .null fun c => .str c.toString)
  | some _ => .scalar .null
  | none => ((record.fields.lookup "currency").filter (·.jsTruthy)).getD (.scalar .null)

/-- The evidence item of the record at an index. -/
def encodeRecord (record : OdooRecord F) (index : ℕ) : Evidence F :=
  let recordId := (record.fields.lookup "id").elim (toString index) (·.jsText jsNumber)
  let timestamp := firstText jsNumber record ["write_date", "create_date", "date"]
  { evidenceId := "odoo-" ++ String.ofList (model.toList.map fun c => if c = '.' then '-' else c) ++
      "-" ++ recordId
    sourceType := .odoo
    sourceUri := odooUrl ++ "/web#id=" ++ recordId ++ "&model=" ++ encodeURIComponent model
    title := (firstText jsNumber record ["name", "display_name"]).getD (model ++ " #" ++ recordId)
    timestamp := timestamp
    excerpt := String.ofList (excerptChars jsNumber record)
    hashSha256 := simpleHash (model ++ "-" ++ recordId ++ "-" ++ timestamp.getD "")
    confidence := .high
    tags := ["odoo", model]
    metadata := [("model", .scalar (.str model)),
        ("record_id", (record.fields.lookup "id").getD (.scalar .null)),
        ("currency", recordCurrency record)] ++ flattenRecord record }

/-- The item without its metadata. -/
def Evidence.withoutMetadata (ev : Evidence F) : Evidence F := { ev with metadata := [] }

end Workflow

/-! ### The pattern of an amount -/

/-- The pattern `_amount_from_excerpt` searches for. -/
def amountPattern : String := "amount\\s*[:=]\\s*(-?[\\d,]+(?:\\.\\d+)?)"

section Pattern

variable (isDigit : Char → Bool)

/-- What is left after the word, in any case. -/
def afterWord : List Char → List Char → Option (List Char)
  | [], cs => some cs
  | _ :: _, [] => none
  | w :: ws, c :: cs => if c.toLower = w then afterWord ws cs else none

/-- `(?:\.\d+)?` -/
def decimalsAt : List Char → List Char
  | [] => []
  | c :: cs => if c = '.' ∧ cs.takeWhile isDigit ≠ [] then '.' :: cs.takeWhile isDigit else []

/-- `[\d,]+(?:\.\d+)?` -/
def digitsAt (cs : List Char) : Option (List Char) :=
  let inNumber := fun c => isDigit c || decide (c = ',')
  if cs.takeWhile inNumber = [] then none
  else some (cs.takeWhile inNumber ++ decimalsAt isDigit (cs.dropWhile inNumber))

/-- `(-?[\d,]+(?:\.\d+)?)` -/
def numberAt : List Char → Option (List Char)
  | [] => none
  | c :: cs => if c = '-' then (digitsAt isDigit cs).map ('-' :: ·) else digitsAt isDigit (c :: cs)

/-- `[:=]\s*(…)` -/
def assignedAt : List Char → Option (List Char)
  | [] => none
  | c :: cs => if c = ':' ∨ c = '=' then numberAt isDigit (cs.dropWhile Text.isSpace) else none

/-- The pattern at the start of a text: its group. -/
def amountAt (cs : List Char) : Option (List Char) :=
  (afterWord "amount".toList cs).bind fun cs => assignedAt isDigit (cs.dropWhile Text.isSpace)

/-- The first amount that stands in a text. -/
def readAmount (cs : List Char) : Option (List Char) := firstMatch (amountAt isDigit) cs

/-- The engine on the pattern, with `isDigit` the class `\d`: it finds the first amount, and neither
class holds a semicolon. -/
structure AmountSearch : Prop where
  search : ∀ s, Text.search amountPattern s =
    (readAmount isDigit s.toList).map fun g => [String.ofList g]
  space : Text.isSpace ';' = false
  digit : isDigit ';' = false

end Pattern

/-! ### Reading field by field -/

section Reading

variable {isDigit : Char → Bool}

omit [Text] in
private theorem afterWord_append {ws : List Char} (hws : ';' ∉ ws) (xs ys : List Char) :
    afterWord ws (xs ++ ';' :: ys) = (afterWord ws xs).map (· ++ ';' :: ys) := by
  induction ws generalizing xs with
  | nil => rfl
  | cons w ws ih =>
    cases xs with
    | nil =>
      have hw : ';'.toLower ≠ w := fun h => hws (h ▸ List.mem_cons_self)
      exact if_neg hw
    | cons x xs =>
      change (if x.toLower = w then afterWord ws (xs ++ ';' :: ys) else none) =
        (if x.toLower = w then afterWord ws xs else none).map _
      split
      · exact ih (fun h => hws (List.mem_cons_of_mem w h)) xs
      · rfl

omit [Text] in
private theorem stopsAt_decimalsAt (h : isDigit ';' = false) (xs ys : List Char) :
    decimalsAt isDigit (xs ++ ';' :: ys) = decimalsAt isDigit xs := by
  cases xs with
  | nil => rfl
  | cons x xs =>
    rw [List.cons_append, decimalsAt, decimalsAt, takeWhile_append_sep h]

omit [Text] in
private theorem stopsAt_digitsAt (h : isDigit ';' = false) : StopsAt (digitsAt isDigit) ';' := by
  intro xs ys
  have hnumber : (fun c => isDigit c || decide (c = ',')) ';' = false := by
    change (isDigit ';' || decide (';' = ',')) = false
    rw [h]
    rfl
  simp only [digitsAt]
  rw [takeWhile_append_sep (p := fun c => isDigit c || decide (c = ',')) hnumber,
    dropWhile_append_sep (p := fun c => isDigit c || decide (c = ',')) hnumber,
    stopsAt_decimalsAt h]

omit [Text] in
private theorem stopsAt_numberAt (h : isDigit ';' = false) : StopsAt (numberAt isDigit) ';' := by
  intro xs ys
  cases xs with
  | nil => exact stopsAt_digitsAt h [] ys
  | cons x xs =>
    rw [List.cons_append, numberAt, numberAt, stopsAt_digitsAt h, ← List.cons_append,
      stopsAt_digitsAt h]

private theorem stopsAt_assignedAt (h : AmountSearch isDigit) :
    StopsAt (assignedAt isDigit) ';' := by
  intro xs ys
  cases xs with
  | nil => rfl
  | cons x xs =>
    rw [List.cons_append, assignedAt, assignedAt, dropWhile_append_sep h.space,
      stopsAt_numberAt h.digit]

/-- An amount holds no semicolon. -/
theorem stopsAt_amountAt (h : AmountSearch isDigit) : StopsAt (amountAt isDigit) ';' := by
  intro xs ys
  rw [amountAt, amountAt, afterWord_append (by decide)]
  cases afterWord "amount".toList xs with
  | none => rfl
  | some cs =>
    change assignedAt isDigit ((cs ++ ';' :: ys).dropWhile Text.isSpace) = _
    rw [dropWhile_append_sep h.space, stopsAt_assignedAt h]
    rfl

private theorem readAmount_nil : readAmount isDigit [] = none := rfl

/-- The blank behind a semicolon starts no amount. -/
theorem readAmount_blank (cs : List Char) :
    readAmount isDigit (' ' :: cs) = readAmount isDigit cs := firstMatch_cons_of_none rfl

/-- Where the cut leaves nothing of the next text, the separator does not matter. -/
theorem readAmount_last (h : AmountSearch isDigit) {n : ℕ} {t : List Char}
    (hn : n < unitLength t + 2) (us : List Char) :
    readAmount isDigit (substring n (t ++ ';' :: ' ' :: us)) =
      readAmount isDigit (substring n t) := by
  rcases Nat.lt_or_ge n (unitLength t) with hlt | hle
  · rw [substring_append_of_lt hlt]
  obtain rfl | rfl : n = unitLength t ∨ n = unitLength t + 1 := by omega
  · rw [substring_append_of_le le_rfl, substring_of_le le_rfl, Nat.sub_self, substring_zero,
      List.append_nil]
  · have hsemicolon : substring 1 (';' :: ' ' :: us) = [';'] := by
      change ';' :: substring 0 (' ' :: us) = [';']
      rw [substring_zero]
    rw [substring_append_of_le (Nat.le_add_right _ 1),
      substring_of_le (t := t) (Nat.le_add_right _ 1),
      Nat.add_sub_cancel_left, hsemicolon, readAmount, firstMatch_append (stopsAt_amountAt h),
      ← readAmount, ← readAmount, readAmount_nil, Option.or_none]

/-- The first amount of a cut preview is the first amount of the first text that shows one. No
amount reaches across a semicolon. -/
theorem readAmount_preview (h : AmountSearch isDigit) (n : ℕ) (ts : List (List Char)) :
    readAmount isDigit (substring n (List.intercalate [';', ' '] ts)) =
      (shownTexts n ts).findSome? (readAmount isDigit) := by
  induction ts generalizing n with
  | nil => rfl
  | cons t ts ih =>
    cases ts with
    | nil => simp [shownTexts]
    | cons u us =>
      have hjoin : List.intercalate [';', ' '] (t :: u :: us) =
          t ++ ';' :: ' ' :: List.intercalate [';', ' '] (u :: us) := by simp
      rw [hjoin, shownTexts]
      by_cases hfits : unitLength t + 2 ≤ n
      · obtain ⟨m, rfl⟩ : ∃ m, n = unitLength t + (m + 2) := ⟨n - (unitLength t + 2), by omega⟩
        have hrest : unitLength t + (m + 2) - (unitLength t + 2) = m := by omega
        rw [if_pos hfits, hrest, List.findSome?_cons, ← ih,
          substring_append_of_le (Nat.le_add_right _ _),
          substring_of_le (t := t) (Nat.le_add_right _ _), Nat.add_sub_cancel_left,
          substring_separator, readAmount, firstMatch_append (stopsAt_amountAt h), ← readAmount,
          ← readAmount, readAmount_blank]
        cases readAmount isDigit t <;> rfl
      · rw [if_neg hfits, List.findSome?_cons, List.findSome?_nil,
          readAmount_last h (Nat.lt_of_not_le hfits)]
        cases readAmount isDigit (substring n t) <;> rfl

/-- The number between the first two slashes of an excerpt. -/
def slashAmount (excerpt : String) : Option F :=
  match excerptParts excerpt with
  | _ :: p :: _ => coerceText p
  | _ => none

private theorem amountFromExcerpt_eq (h : AmountSearch isDigit) (s : String) :
    (amountFromExcerpt s : Option F) =
      ((readAmount isDigit s.toList).bind fun g => coerceText (String.ofList g)).or
        (slashAmount s) := by
  by_cases hs : s = ""
  · subst hs
    rw [amountFromExcerpt, if_pos rfl, slashAmount, excerptParts, splitOn_eq (by decide)]
    rfl
  · have hsearch := h.search s
    rw [amountPattern] at hsearch
    rw [amountFromExcerpt, if_neg hs, hsearch]
    cases readAmount isDigit s.toList with
    | none => rfl
    | some g =>
      dsimp only [Option.bind_some, Option.map_some]
      cases (coerceText (String.ofList g) : Option F) <;> rfl

end Reading

/-! ### Reading a record back -/

section Law

variable (jsNumber : F → String) (odooUrl model : String) (isDigit : Char → Bool)

/-- The amount field of a record. -/
def OdooRecord.amount (record : OdooRecord F) : Option F :=
  (record.fields.lookup "amount").bind fun v => match v with
    | .scalar (.num x) => some x
    | _ => none

/-- The amount field, when it is among the fields of the preview. -/
def OdooRecord.shownAmount (record : OdooRecord F) : Option F :=
  if "amount" ∈ (previewFields record).map Prod.fst then record.amount else none

/-- Reading the amount undoes the encoding of a record, whether or not the item still has its
metadata. -/
structure AmountUndone (record : OdooRecord F) (index : ℕ) : Prop where
  shown : ∀ x, record.shownAmount = some x →
    costLineAmount (encodeRecord jsNumber odooUrl model record index) = some x ∧
      costLineAmount (encodeRecord jsNumber odooUrl model record index).withoutMetadata = some x
  absent : record.amount = none →
    costLineAmount (encodeRecord jsNumber odooUrl model record index) = none ∧
      costLineAmount (encodeRecord jsNumber odooUrl model record index).withoutMetadata = none

/-- The first of the texts that reads as an amount at all reads as this one. -/
def FirstAmount (ts : List (List Char)) (g : List Char) : Prop :=
  ∃ pre t post, ts = pre ++ t :: post ∧ (∀ s ∈ pre, readAmount isDigit s = none) ∧
    readAmount isDigit t = some g

/-- What the excerpt shows of each field, as `key: value`. -/
def shownFields (record : OdooRecord F) : List (List Char) :=
  shownTexts 1000 (previewTexts jsNumber record)

/-- The first field that reads as an amount reads as `x`; where that is not even a number, `x`
stands between the first two slashes. -/
def ReadsAs (record : OdooRecord F) (x : F) : Prop :=
  (∃ g, FirstAmount isDigit (shownFields jsNumber record) g ∧
      coerceText (String.ofList g) = some x) ∨
    (∀ g, FirstAmount isDigit (shownFields jsNumber record) g →
      (coerceText (String.ofList g) : Option F) = none) ∧
    slashAmount (String.ofList (excerptChars jsNumber record)) = some x

/-- The first field that reads as an amount, if there is one, shows no number, and neither do the
first two slashes enclose one. -/
def ReadsNothing (record : OdooRecord F) : Prop :=
  (∀ g, FirstAmount isDigit (shownFields jsNumber record) g →
      (coerceText (String.ofList g) : Option F) = none) ∧
    (slashAmount (String.ofList (excerptChars jsNumber record)) : Option F) = none

variable {jsNumber isDigit}

private theorem firstAmount_iff {ts : List (List Char)} {g : List Char} :
    FirstAmount isDigit ts g ↔ ts.findSome? (readAmount isDigit) = some g := by
  rw [List.findSome?_eq_some_iff, FirstAmount]
  constructor
  · rintro ⟨pre, t, post, rfl, hpre, ht⟩
    exact ⟨pre, t, post, rfl, ht, hpre⟩
  · rintro ⟨pre, t, post, rfl, ht, hpre⟩
    exact ⟨pre, t, post, rfl, hpre, ht⟩

/-- The amount read off the excerpt of a record, field by field. -/
theorem amountFromExcerpt_record (h : AmountSearch isDigit) (record : OdooRecord F) :
    (amountFromExcerpt (String.ofList (excerptChars jsNumber record)) : Option F) =
      (((shownFields jsNumber record).findSome? (readAmount isDigit)).bind fun g =>
        coerceText (String.ofList g)).or
          (slashAmount (String.ofList (excerptChars jsNumber record))) := by
  rw [amountFromExcerpt_eq h, String.toList_ofList, excerptChars, readAmount_preview h]
  rfl

private theorem amountFromExcerpt_eq_some_iff (h : AmountSearch isDigit) {record : OdooRecord F}
    {x : F} : amountFromExcerpt (String.ofList (excerptChars jsNumber record)) = some x ↔
      ReadsAs jsNumber isDigit record x := by
  rw [amountFromExcerpt_record h, ReadsAs]
  simp only [firstAmount_iff]
  cases (shownFields jsNumber record).findSome? (readAmount isDigit) with
  | none => simp
  | some g =>
    cases hg : (coerceText (String.ofList g) : Option F) with
    | none => simp [hg]
    | some y => simp [hg]

private theorem amountFromExcerpt_eq_none_iff (h : AmountSearch isDigit) {record : OdooRecord F} :
    (amountFromExcerpt (String.ofList (excerptChars jsNumber record)) : Option F) = none ↔
      ReadsNothing jsNumber isDigit record := by
  rw [amountFromExcerpt_record h, ReadsNothing]
  simp only [firstAmount_iff]
  cases (shownFields jsNumber record).findSome? (readAmount isDigit) with
  | none => simp
  | some g =>
    cases hg : (coerceText (String.ofList g) : Option F) with
    | none => simp [hg]
    | some y => simp [hg]

omit [Floats F] [Text] in
/-- A field of the record stands under its key in the metadata, the id apart. The prefix is put in
front of all keys alike. -/
theorem lookup_flattenRecord (fields : List (String × MetaValue F)) (key : String)
    (hkey : key ≠ "id") :
    ((fields.filter fun kv => kv.1 ≠ "id").map fun kv => ("f_" ++ kv.1, kv.2)).lookup
      ("f_" ++ key) = fields.lookup key := by
  induction fields with
  | nil => rfl
  | cons kv fields ih =>
    obtain ⟨k, v⟩ := kv
    rw [List.lookup_cons, List.filter_cons]
    by_cases hk : key = k
    · subst hk
      simp [hkey]
    · have hfk : ("f_" ++ key == "f_" ++ k) = false := by
        simpa [String.append_right_inj] using hk
      rw [beq_eq_false_iff_ne.mpr hk]
      split
      · rw [List.map_cons, List.lookup_cons, hfk]
        exact ih
      · exact ih

variable {odooUrl model}

omit [Text] in
private theorem metaGet_encodeRecord (record : OdooRecord F) (index : ℕ) :
    (encodeRecord jsNumber odooUrl model record index).metaGet "f_amount" =
      record.fields.lookup "amount" :=
  lookup_flattenRecord record.fields "amount" (by decide)

omit [Floats F] [Text] in
private theorem lookup_of_amount {record : OdooRecord F} {x : F} (h : record.amount = some x) :
    record.fields.lookup "amount" = some (.scalar (.num x)) := by
  obtain ⟨v, hv, hx⟩ := Option.bind_eq_some_iff.mp h
  obtain ⟨y, rfl⟩ := record.numeric v hv
  cases hx
  exact hv

omit [Floats F] [Text] in
private theorem lookup_of_no_amount {record : OdooRecord F} (h : record.amount = none) :
    record.fields.lookup "amount" = none := by
  cases hv : record.fields.lookup "amount" with
  | none => rfl
  | some v =>
    obtain ⟨x, rfl⟩ := record.numeric v hv
    rw [OdooRecord.amount, hv] at h
    cases h

/-- With its metadata, a record that has an amount is read back. -/
theorem costLineAmount_attached {record : OdooRecord F} {x : F} (h : record.amount = some x)
    (index : ℕ) : costLineAmount (encodeRecord jsNumber odooUrl model record index) = some x := by
  rw [costLineAmount, metaGet_encodeRecord, lookup_of_amount h]
  rfl

/-- Without an amount the metadata makes no difference. -/
theorem costLineAmount_of_no_amount {record : OdooRecord F} (h : record.amount = none)
    (index : ℕ) :
    (costLineAmount (encodeRecord jsNumber odooUrl model record index) : Option F) =
      amountFromExcerpt (String.ofList (excerptChars jsNumber record)) := by
  rw [costLineAmount, metaGet_encodeRecord, lookup_of_no_amount h]
  rfl

private theorem costLineAmount_withoutMetadata (record : OdooRecord F) (index : ℕ) :
    (costLineAmount (encodeRecord jsNumber odooUrl model record index).withoutMetadata : Option F) =
      amountFromExcerpt (String.ofList (excerptChars jsNumber record)) := rfl

omit [Floats F] [Text] in
private theorem amount_of_shownAmount {record : OdooRecord F} {x : F}
    (h : record.shownAmount = some x) : record.amount = some x := by
  rw [OdooRecord.shownAmount] at h
  split at h
  · exact h
  · cases h

/-- Reading the amount undoes the encoding just if the first field that reads as an amount reads as
the record's own one, and without an amount nothing reads as one. With the metadata the amount is
always read back; the condition is on the excerpt, which is all there is without it. -/
theorem amountUndone_iff (h : AmountSearch isDigit) (record : OdooRecord F) (index : ℕ) :
    AmountUndone jsNumber odooUrl model record index ↔
      (∀ x, record.shownAmount = some x → ReadsAs jsNumber isDigit record x) ∧
        (record.amount = none → ReadsNothing jsNumber isDigit record) := by
  constructor
  · intro hundone
    refine ⟨fun x hx => (amountFromExcerpt_eq_some_iff h).mp (hundone.shown x hx).2,
      fun hnone => (amountFromExcerpt_eq_none_iff h).mp (hundone.absent hnone).2⟩
  · rintro ⟨hshown, habsent⟩
    refine ⟨fun x hx => ⟨costLineAmount_attached (amount_of_shownAmount hx) index, ?_⟩,
      fun hnone => ?_⟩
    · exact (amountFromExcerpt_eq_some_iff h).mpr (hshown x hx)
    · rw [costLineAmount_of_no_amount hnone, costLineAmount_withoutMetadata, and_self]
      exact (amountFromExcerpt_eq_none_iff h).mpr (habsent hnone)

end Law

end AmountParsing

section Whole

open Py.Whole

/-- ASCII text with an engine for the one pattern. -/
local instance amountText : Text where
  toDigits := latinDigits
  isSpace c := c.isWhitespace
  lower s := String.ofList (s.toList.map Char.toLower)
  title s := String.ofList (titleChars false s.toList)
  search pattern s := if pattern = amountPattern then
    (readAmount Char.isDigit s.toList).map fun g => [String.ofList g] else none
  findAll _ _ := []
  replaceAll _ _ s := s

private theorem amountSearch_amountText : AmountSearch Char.isDigit where
  search _ := if_pos rfl
  space := rfl
  digit := rfl

/-- A posting on the analytic account. -/
def concretePosting : OdooRecord ℤ where
  fields := [("id", .scalar (.num 7)), ("name", .scalar (.str "Concrete")),
    ("amount", .scalar (.num (-100))), ("date", .scalar (.str "2024-06-01"))]
  nodup := by decide
  numeric v hv := by cases hv; exact ⟨_, rfl⟩

/-- A journal item whose name speaks of an amount; it has no amount field. -/
def retentionItem : OdooRecord ℤ where
  fields := [("id", .scalar (.num 8)), ("name", .scalar (.str "Retention amount: 500 released")),
    ("debit", .scalar (.num 0)), ("date", .scalar (.str "2024-06-01"))]
  nodup := by decide
  numeric v hv := by cases hv

/-- What is read off a text of digits is the number. -/
theorem coerceText_of_repr {g : List Char} {x : ℤ}
    (h : dropCommas (strip (String.ofList g)) = x.repr) :
    coerceText (String.ofList g) = some x := by
  rw [coerceText, h]
  exact Int.toInt?_repr x

/-- A posting without an amount in its name or description is read back as it is. -/
theorem amountUndone_concretePosting :
    AmountUndone toString "https://odoo" "account.analytic.line" concretePosting 0 := by
  refine (amountUndone_iff amountSearch_amountText concretePosting 0).mpr
    ⟨fun x hx => .inl ⟨"-100".toList, firstAmount_iff.mpr (by decide), ?_⟩, fun h => by cases h⟩
  cases hx
  exact coerceText_of_repr (by decide)

/-- The name of the journal item is read as its amount. -/
theorem not_amountUndone_retentionItem :
    ¬ ∀ record : OdooRecord ℤ,
      AmountUndone toString "https://odoo" "account.move.line" record 0 := by
  intro h
  have hnone := ((h retentionItem).absent rfl).1
  have hamount : amountFromExcerpt (String.ofList (excerptChars toString retentionItem)) =
      some (500 : ℤ) := by
    rw [amountFromExcerpt_record amountSearch_amountText]
    have hfound : (shownFields toString retentionItem).findSome? (readAmount Char.isDigit) =
        some "500".toList := by decide
    have hread : coerceText (String.ofList "500".toList) = some (500 : ℤ) :=
      coerceText_of_repr (by decide)
    rw [hfound, Option.bind_some, hread]
    rfl
  rw [costLineAmount_of_no_amount rfl, hamount] at hnone
  cases hnone

end Whole

end DecisionCenter
