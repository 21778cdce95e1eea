import DecisionCenter.Graph.Totals
import DecisionCenter.Py.Split
import Mathlib.Data.List.MinMax
import Mathlib.Data.String.Basic

/-!
# The evidence of the actual cost

The loop over the cost lines adds up amounts and, by a test of its own, remembers the newest
dated line. The total is that of the amounts, whatever the order of the pack; the line cited
need not be one of those that carry an amount.

`CostBacked` is what the extracted actual cost should come with: the total is that of the lines
with an amount, it is there just if one has an amount, the id cited is that of a line with an
amount, and none of this depends on the order of the pack where each line has a date of its own.
`costBacked_iff` is exact: the cost is backed exactly when the line that is cited carries an
amount, a condition on the newest dated line of the pack or, where no line has a date, on the
first one with an id.

The loop is described without its state: the newest line is one of the lines, it has a date, and
none is newer (`newestDated_spec`), and the loop remembers this line (`scanCostLines_best`).
Permutations of the pack then leave the line alone (`newestDated_perm`).

A date is compared as a text, as the source does; texts in ISO order compare as dates.
-/

namespace DecisionCenter

open Py

section CitedCost

variable {F : Type} [Floats F] [Text]

/-! ### The newest line -/

/-- The first of the lines with the latest date; lines without a date do not count. -/
def newestDated (lines : List (Evidence F)) : Option (Evidence F) :=
  (lines.filter fun line => decide (costLineDate line ≠ "")).argmax costLineDate

omit [Floats F] in
private theorem newestDated_concat (lines : List (Evidence F)) (line : Evidence F) :
    newestDated (lines ++ [line]) =
      if costLineDate line = "" then newestDated lines
      else match newestDated lines with
        | some newest => if costLineDate newest < costLineDate line then some line else some newest
        | none => some line := by
  unfold newestDated
  rw [List.filter_append]
  by_cases hdate : costLineDate line = ""
  · simp [hdate]
  · have hkeep : [line].filter (fun line => decide (costLineDate line ≠ "")) = [line] := by
      simp [hdate]
    rw [hkeep, List.argmax_concat, if_neg hdate]
    cases (lines.filter fun line => decide (costLineDate line ≠ "")).argmax costLineDate <;> rfl

omit [Floats F] in
/-- The newest line is one of the lines, has a date, and none is newer. -/
theorem newestDated_spec {lines : List (Evidence F)} {newest : Evidence F}
    (h : newestDated lines = some newest) :
    newest ∈ lines ∧ costLineDate newest ≠ "" ∧
      ∀ line ∈ lines, costLineDate line ≠ "" → costLineDate line ≤ costLineDate newest := by
  obtain ⟨hmem, hdate⟩ := List.mem_filter.mp (List.argmax_mem h)
  refine ⟨hmem, of_decide_eq_true hdate, fun line hline hne => ?_⟩
  exact List.le_of_mem_argmax (List.mem_filter.mpr ⟨hline, decide_eq_true hne⟩) h

omit [Floats F] in
private theorem newestDated_eq_none {lines : List (Evidence F)} :
    newestDated lines = none ↔ ∀ line ∈ lines, costLineDate line = "" := by
  simp [newestDated, List.filter_eq_nil_iff]

/-- The loop remembers the newest line and its date. Of lines with one date it is the first. -/
theorem scanCostLines_best (lines : List (Evidence F)) :
    (scanCostLines lines).bestEvidenceId = (newestDated lines).map (·.evidenceId) ∧
      (scanCostLines lines).bestDate = ((newestDated lines).map costLineDate).getD "" := by
  induction lines using List.reverseRecOn with
  | nil => exact ⟨rfl, rfl⟩
  | append_singleton lines line ih =>
    obtain ⟨hid, hdate⟩ := ih
    have hstep : scanCostLines (lines ++ [line]) = (scanCostLines lines).step line := by
      simp [scanCostLines]
    rw [hstep, newestDated_concat, CostScan.step, hid, hdate]
    by_cases hempty : costLineDate line = ""
    · simp [hempty]
    · rw [if_neg hempty]
      cases hnewest : newestDated lines with
      | none =>
        have hpos : "" < costLineDate line := by
          rw [String.lt_iff_toList_lt]
          cases hchars : (costLineDate line).toList with
          | nil => exact absurd (String.toList_eq_nil_iff.mp hchars) hempty
          | cons c cs => exact List.nil_lt_cons c cs
        simp [hempty, hpos]
      | some newest =>
        by_cases hlt : costLineDate newest < costLineDate line <;> simp [hempty, hlt]

/-! ### The line cited -/

/-- The line cited carries an amount: where a line has a date, the newest one or another with its
id does; else one with an id does. -/
def CitesValued (lines : List (Evidence F)) : Prop :=
  match newestDated lines with
  | some newest => ∃ line ∈ lines, (costLineAmount line : Option F).isSome ∧
      line.evidenceId = newest.evidenceId
  | none => ∃ line ∈ lines, (costLineAmount line : Option F).isSome ∧ line.evidenceId ≠ ""

/-- The best evidence id is the id of a line with an amount just if the line cited carries one.
Without dates the first line with an amount and an id is cited. -/
theorem bestEvidenceId_valued_iff {lines : List (Evidence F)}
    (h : (scanCostLines lines).hasAmount = true) :
    (∃ line ∈ lines, (costLineAmount line : Option F).isSome ∧
        bestEvidenceId lines = some line.evidenceId) ↔ CitesValued lines := by
  simp only [CitesValued, bestEvidenceId, (scanCostLines_best lines).1]
  cases hnewest : newestDated lines with
  -- the newest dated line is cited; without dates the first line with an amount and an id
  | some newest =>
    refine exists_congr fun line => and_congr_right fun _ => and_congr_right fun _ => ?_
    simp [eq_comm]
  | none =>
    simp only [Option.map_none, h, if_true]
    constructor
    · rintro ⟨_, _, _, hfound⟩
      obtain ⟨line, hline, hsome⟩ := List.exists_of_findSome?_eq_some hfound
      split at hsome
      · next hboth => exact ⟨line, hline, hboth⟩
      · cases hsome
    · rintro ⟨line, hline, hamount, hid⟩
      cases hfind : lines.findSome? fun line =>
          if (costLineAmount line : Option F).isSome ∧ line.evidenceId ≠ "" then
            some line.evidenceId
          else none with
      | none =>
        have hnone := List.findSome?_eq_none_iff.mp hfind line hline
        rw [if_pos ⟨hamount, hid⟩] at hnone
        cases hnone
      | some e =>
        obtain ⟨line', hline', hsome⟩ := List.exists_of_findSome?_eq_some hfind
        split at hsome
        · next hboth =>
          cases hsome
          exact ⟨line', hline', hboth.1, rfl⟩
        · cases hsome

/-! ### The order of the pack -/

/-- All lines have dates, each its own. -/
def OwnDates (lines : List (Evidence F)) : Prop :=
  (∀ line ∈ lines, costLineDate line ≠ "") ∧ (lines.map costLineDate).Nodup

omit [Floats F] in
/-- With a date of its own on each line, the newest does not depend on the order. -/
theorem newestDated_perm {lines lines' : List (Evidence F)} (hown : OwnDates lines)
    (hperm : lines'.Perm lines) : newestDated lines' = newestDated lines := by
  cases h : newestDated lines with
  | none =>
    rw [newestDated_eq_none] at h ⊢
    exact fun line hline => h line (hperm.mem_iff.mp hline)
  | some newest =>
    obtain ⟨hmem, hdate, hmax⟩ := newestDated_spec h
    cases h' : newestDated lines' with
    | none => exact absurd (newestDated_eq_none.mp h' newest (hperm.mem_iff.mpr hmem)) hdate
    | some newest' =>
      obtain ⟨hmem', hdate', hmax'⟩ := newestDated_spec h'
      have hle := hmax newest' (hperm.mem_iff.mp hmem') hdate'
      have hge := hmax' newest (hperm.mem_iff.mpr hmem) hdate
      rw [List.inj_on_of_nodup_map hown.2 (hperm.mem_iff.mp hmem') hmem (le_antisymm hle hge)]

/-- So neither does the line cited. -/
theorem bestEvidenceId_perm {lines lines' : List (Evidence F)} (hown : OwnDates lines)
    (hperm : lines'.Perm lines) : bestEvidenceId lines' = bestEvidenceId lines := by
  have hscan (lines : List (Evidence F)) := (scanCostLines_best lines).1
  simp only [bestEvidenceId, hscan, newestDated_perm hown hperm]
  cases hnewest : newestDated lines with
  | some newest => rfl
  | none =>
    -- no line is left without a date, so there is none
    have hnil : lines = [] := List.eq_nil_iff_forall_not_mem.mpr fun line hline =>
      hown.1 line hline (newestDated_eq_none.mp hnewest line hline)
    rw [hnil] at hperm ⊢
    rw [hperm.eq_nil]

/-! ### The actual cost -/

/-- The cost lines of a pack. -/
def packLines (pack : List (Evidence F)) : List (Evidence F) := costLines (odooEvidence pack)

/-- The extracted actual cost rests on its evidence: the total is the sum of the amounts of the cost
lines, the line cited is one that carries an amount, and neither depends on the order of a pack
whose lines have dates of their own. -/
structure CostBacked (pack : List (Evidence F)) : Prop where
  total : (extractOdooContext (odooEvidence pack)).totalAmount =
    some (Floats.round2 (Num.floatSum ((packLines pack).filterMap costLineAmount)))
  cited : ∃ line ∈ packLines pack, (costLineAmount line : Option F).isSome ∧
    (extractOdooContext (odooEvidence pack)).bestEvidenceId = some line.evidenceId
  stable : OwnDates (packLines pack) → ∀ pack' : List (Evidence F), pack'.Perm pack →
    (extractOdooContext (odooEvidence pack')).totalAmount =
        (extractOdooContext (odooEvidence pack)).totalAmount ∧
      (extractOdooContext (odooEvidence pack')).bestEvidenceId =
        (extractOdooContext (odooEvidence pack)).bestEvidenceId

/-- The extracted actual cost rests on its evidence exactly when the line cited carries an amount.
The total is right in any case; it is the line remembered by its date that may have none. -/
theorem costBacked_iff
    (hexact : ∀ x y z : F, Floats.add (Floats.add x y) z = Floats.add (Floats.add x z) y)
    {pack : List (Evidence F)} (h : (extractOdooContext (odooEvidence pack)).hasAmount = true) :
    CostBacked pack ↔ CitesValued (packLines pack) := by
  have hcites : _ ↔ CitesValued (packLines pack) := bestEvidenceId_valued_iff h
  rw [← hcites]
  refine ⟨CostBacked.cited, fun hcited => ⟨?_, hcited, fun hown pack' hperm => ⟨?_, ?_⟩⟩⟩
  · have htotal := scanCostLines_totalAmount (packLines pack)
    rw [← htotal]
    exact if_pos h
  · rw [extractOdooContext_totalAmount, extractOdooContext_totalAmount]
    exact totalOf_perm false hexact (hperm.filter _)
  · exact bestEvidenceId_perm hown ((hperm.filter _).filter _)

end CitedCost

section Whole

open Py.Whole

/-- A journal item; the journal items are read without an amount. -/
def journalItem (recordId name date : String) : Evidence ℤ :=
  { evidenceId := "odoo-account-move-line-" ++ recordId
    sourceType := .odoo
    sourceUri := "https://odoo/web#id=" ++ recordId ++ "&model=account.move.line"
    title := name
    timestamp := some date
    excerpt := "name: " ++ name
    hashSha256 := "item-" ++ recordId
    confidence := .high
    tags := ["odoo", "account.move.line"]
    metadata :=
      [("model", .scalar (.str "account.move.line")), ("f_name", .scalar (.str name)),
        ("f_date", .scalar (.str date))] }

/-- The only posting is cited for its amount. -/
theorem costBacked_onePosting : CostBacked [analyticLine "1" "Concrete supply" (-100)] := by
  refine (costBacked_iff (fun x y z => Int.add_right_comm x y z) (by decide)).mpr ?_
  exact ⟨analyticLine "1" "Concrete supply" (-100), List.mem_singleton_self _, by decide, rfl⟩

private theorem costLineAmount_journalItem :
    costLineAmount (journalItem "7" "Site visit" "2024-06-01") = none := by
  have hparts : excerptParts "name: Site visit" = ["name: Site visit"] := by
    rw [excerptParts, splitOn_eq (by decide)]
    decide
  have hamount : amountFromExcerpt "name: Site visit" = (none : Option ℤ) := by
    rw [amountFromExcerpt, if_neg (by decide), hparts]
    rfl
  exact hamount

/-- A journal item that is newer than the posting is cited for the amount of the posting. -/
theorem not_costBacked_newerJournalItem :
    ¬ ∀ pack : List (Evidence ℤ), (extractOdooContext (odooEvidence pack)).hasAmount = true →
      CostBacked pack := by
  intro h
  obtain ⟨line, hline, hamount, hbest⟩ := (h [analyticLine "1" "Concrete supply" (-100),
    journalItem "7" "Site visit" "2024-06-01"] (by decide)).cited
  have hcited : (extractOdooContext (odooEvidence [analyticLine "1" "Concrete supply" (-100),
    journalItem "7" "Site visit" "2024-06-01"])).bestEvidenceId =
      some "odoo-account-move-line-7" := by decide
  rw [hcited] at hbest
  have hmem : line ∈ [analyticLine "1" "Concrete supply" (-100),
      journalItem "7" "Site visit" "2024-06-01"] :=
    (mem_odooEvidence.mp (List.mem_filter.mp hline).1).1
  simp only [List.mem_cons, List.not_mem_nil, or_false] at hmem
  rcases hmem with rfl | rfl
  · exact absurd hbest (by decide)
  · rw [costLineAmount_journalItem] at hamount
    cases hamount

end Whole

end DecisionCenter
