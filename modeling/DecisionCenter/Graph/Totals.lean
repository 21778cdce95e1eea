import DecisionCenter.Graph.Normalize
import DecisionCenter.Py.Whole
import Mathlib.Data.List.Perm.Basic

/-!
# The financial totals of an evidence pack

The four sums node 12 takes over the Odoo items of the pack, as a function of the items that
carry an amount, and when node 9 preserves them. The sums are the actual cost, payroll, expenses
and commitments.

Each is a sum over the amounts of some items (`packTotals_eq`), so that items without an amount
do not matter, and packs with the same financial records in the same order have the same totals.
For another order this needs more: either addition does not depend on it, which is not true of
floats, or the records keep their order. `SummationOrderFree` has the two, and the second holds
wherever no item of another source has the URI of an Odoo record.

`MoneyPreserved` compares what node 9 is given with what it leaves: the financial records are
the same up to order, and so are the totals. Distinct Odoo records have different URIs, so that
the first pass keeps them all; the second pass goes by titles, and drops a record whose title
another one has had before. The records that are left are a permutation of those that were
retrieved just if none is shadowed in this way (`financialRecords_perm_iff`).

`moneyPreserved_normalize_iff` is exact: the money of distinct records is preserved exactly when
no record that carries an amount has the title of an Odoo record before it. Two postings of one
name are the failing case.
-/

namespace DecisionCenter

open Py

section Deduplication

variable {F : Type} [Floats F] [Text]

/-! ### Totals -/

/-- The extracted totals: actual cost, payroll, expenses and committed cost. -/
structure Totals (F : Type) where
  actualCost : Option F
  payrollCost : Option F
  expenseCost : Option F
  committedCost : Option F
  deriving DecidableEq

/-- The totals node 12 extracts from a pack. -/
def packTotals (pack : List (Evidence F)) : Totals F :=
  let odoo := odooEvidence pack
  let ctx := extractOdooContext odoo
  { actualCost := ctx.totalAmount
    payrollCost := ctx.payrollCost.map Prod.fst
    expenseCost := ctx.expenseCost.map Prod.fst
    committedCost := (committedCost odoo (evidenceIds pack)).map Prod.fst }

/-- The amount a cost line adds to the actual cost. -/
def lineAmount (ev : Evidence F) : Option F := if isCostLine ev then costLineAmount ev else none

/-- The amount an item adds to the payroll total. -/
def payrollAmount (ev : Evidence F) : Option F :=
  categoryAmount payrollCategories payrollAmountFields ev

/-- The amount an item adds to the expense total. -/
def expenseAmount (ev : Evidence F) : Option F :=
  categoryAmount expenseCategories expenseAmountFields ev

/-- The amount an item adds to the committed total. -/
def committedAmount (ev : Evidence F) : Option F :=
  categoryAmount committedCategories committedAmountFields ev

/-- A financial record: an Odoo item that adds to one of the totals. -/
def carriesMoney (ev : Evidence F) : Bool :=
  ev.isOdoo && ((lineAmount ev).isSome || (payrollAmount ev).isSome ||
    (expenseAmount ev).isSome || (committedAmount ev).isSome)

/-- The financial records of a pack. -/
def financialRecords (pack : List (Evidence F)) : List (Evidence F) := pack.filter carriesMoney

private theorem isOdoo_of_carriesMoney {ev : Evidence F} (h : carriesMoney ev = true) :
    ev.isOdoo = true := by
  rw [carriesMoney, Bool.and_eq_true] at h
  exact h.1

private theorem financialRecords_eq (pack : List (Evidence F)) :
    financialRecords pack = (odooEvidence pack).filter carriesMoney := by
  rw [financialRecords, odooEvidence, List.filter_filter]
  refine List.filter_congr fun ev _ => ?_
  rw [eq_comm, Bool.and_eq_left_iff_imp]
  exact isOdoo_of_carriesMoney

private theorem mem_financialRecords {pack : List (Evidence F)} {ev : Evidence F} :
    ev ∈ financialRecords pack ↔ ev ∈ odooEvidence pack ∧ carriesMoney ev = true := by
  rw [financialRecords_eq, List.mem_filter]

/-- The total of the amounts `amount` reads, if there are any; `cited` says whether an item with
an amount has to have an id as well. -/
def totalOf (amount : Evidence F → Option F) (cited : Bool) (records : List (Evidence F)) :
    Option F :=
  if ∃ ev ∈ records, (amount ev).isSome ∧ (cited = true → ev.evidenceId ≠ "") then
    some (Floats.round2 (Num.floatSum (records.filterMap amount)))
  else none

omit [Text] in
/-- Items without an amount do not matter. So a total may be taken over the financial records only.
-/
theorem totalOf_filter {amount : Evidence F → Option F} {p : Evidence F → Bool} (cited : Bool)
    {records : List (Evidence F)} (h : ∀ ev ∈ records, (amount ev).isSome → p ev = true) :
    totalOf amount cited (records.filter p) = totalOf amount cited records := by
  have hsum : (records.filter p).filterMap amount = records.filterMap amount := by
    rw [List.filterMap_filter]
    refine List.filterMap_congr fun ev hev => ?_
    cases hp : p ev with
    | true => rfl
    | false =>
      have hnone := mt (h ev hev) (by rw [hp]; exact Bool.false_ne_true)
      rw [Option.not_isSome_iff_eq_none] at hnone
      rw [hnone]
      rfl
  have hex : (∃ ev ∈ records.filter p, (amount ev).isSome ∧ (cited = true → ev.evidenceId ≠ "")) ↔
      ∃ ev ∈ records, (amount ev).isSome ∧ (cited = true → ev.evidenceId ≠ "") := by
    refine exists_congr fun ev => ?_
    rw [List.mem_filter]
    exact ⟨fun ⟨hev, h⟩ => ⟨hev.1, h⟩, fun ⟨hev, h'⟩ => ⟨⟨hev, h ev hev h'.1⟩, h'⟩⟩
  rw [totalOf, totalOf, hsum]
  exact if_congr hex rfl rfl

omit [Text] in
/-- A sum does not depend on the order of its terms when addition does not. -/
theorem totalOf_perm {amount : Evidence F → Option F} (cited : Bool)
    (hcomm : ∀ x y z : F, Floats.add (Floats.add x y) z = Floats.add (Floats.add x z) y)
    {records records' : List (Evidence F)} (h : records.Perm records') :
    totalOf amount cited records = totalOf amount cited records' := by
  have hright : RightCommutative (Floats.add (F := F)) := ⟨hcomm⟩
  have hsum : Num.floatSum (records.filterMap amount) = Num.floatSum (records'.filterMap amount) :=
    (h.filterMap amount).foldl_eq _
  rw [totalOf, totalOf, hsum]
  exact if_congr (exists_congr fun ev => and_congr_left fun _ => h.mem_iff) rfl rfl

/-- The actual cost adds up the amounts of the cost lines. -/
theorem extractOdooContext_totalAmount (odoo : List (Evidence F)) :
    (extractOdooContext odoo).totalAmount = totalOf lineAmount false odoo := by
  have hline : ∀ ev ∈ odoo, (lineAmount ev).isSome → isCostLine ev = true := by
    intro ev _ h
    by_contra hc
    rw [lineAmount, if_neg hc] at h
    cases h
  have hcost : ∀ ev ∈ costLines odoo, lineAmount ev = costLineAmount ev := fun ev hev =>
    if_pos (List.mem_filter.mp hev).2
  have hsum : (costLines odoo).filterMap lineAmount = (costLines odoo).filterMap costLineAmount :=
    List.filterMap_congr hcost
  rw [← totalOf_filter false hline, ← costLines, totalOf, hsum, ← scanCostLines_totalAmount]
  refine if_congr ?_ rfl rfl
  rw [scanCostLines_hasAmount]
  refine exists_congr fun ev => and_congr_right fun hev => ?_
  rw [hcost ev hev]
  simp

/-- The four totals, each as the total of the amounts it adds up. Payroll and expenses are shown
without their sign. -/
theorem packTotals_eq (pack : List (Evidence F)) :
    packTotals pack =
      { actualCost := totalOf lineAmount false (financialRecords pack)
        payrollCost := (totalOf payrollAmount true (financialRecords pack)).map Floats.abs
        expenseCost := (totalOf expenseAmount true (financialRecords pack)).map Floats.abs
        committedCost := totalOf committedAmount true (financialRecords pack) } := by
  have hmoney : ∀ ev ∈ odooEvidence pack, ((lineAmount ev).isSome || (payrollAmount ev).isSome ||
      (expenseAmount ev).isSome || (committedAmount ev).isSome) = true →
      carriesMoney ev = true := by
    intro ev hev h
    rw [carriesMoney, Bool.and_eq_true]
    exact ⟨Evidence.isOdoo_iff.mpr (mem_odooEvidence.mp hev).2, h⟩
  have hsum (categories fields : List String) :
      (sumOdooCategory (odooEvidence pack) categories fields none).map Prod.fst =
        totalOf (categoryAmount categories fields) true (odooEvidence pack) := by
    rw [sumOdooCategory_value, totalOf]
    simp only [forall_const]
  have habs (p : Option (F × String)) :
      (absAmount p).map Prod.fst = (p.map Prod.fst).map Floats.abs := by
    cases p <;> rfl
  rw [financialRecords_eq, totalOf_filter, totalOf_filter, totalOf_filter, totalOf_filter,
    ← extractOdooContext_totalAmount]
  · simp only [packTotals, committedCost_odooEvidence, extractOdooContext, habs, hsum]
    rfl
  all_goals
    intro ev hev h
    exact hmoney ev hev (by simp [h])

/-- Packs with the same financial records in the same order have the same totals. -/
theorem packTotals_congr {pack pack' : List (Evidence F)}
    (h : financialRecords pack = financialRecords pack') : packTotals pack = packTotals pack' := by
  rw [packTotals_eq, packTotals_eq, h]

/-- When addition does not depend on the order, the order of the records does not matter. -/
theorem packTotals_perm
    (hcomm : ∀ x y z : F, Floats.add (Floats.add x y) z = Floats.add (Floats.add x z) y)
    {pack pack' : List (Evidence F)} (h : (financialRecords pack).Perm (financialRecords pack')) :
    packTotals pack = packTotals pack' := by
  rw [packTotals_eq, packTotals_eq, totalOf_perm _ hcomm h, totalOf_perm _ hcomm h,
    totalOf_perm _ hcomm h, totalOf_perm _ hcomm h]

/-! ### Money across deduplication -/

/-- No financial record is lost and all totals are the same. -/
def MoneyPreserved (before after : List (Evidence F)) : Prop :=
  (financialRecords after).Perm (financialRecords before) ∧ packTotals after = packTotals before

/-- The order of the summands is immaterial: because addition is exact, or because no item of
another source carries the URI of an Odoo record, so that the Odoo records keep their order. -/
def SummationOrderFree (evidence : List (Evidence F)) : Prop :=
  (∀ x y z : F, Floats.add (Floats.add x y) z = Floats.add (Floats.add x z) y) ∨
    ∀ x ∈ evidence, ∀ y ∈ evidence, x.sourceUri = y.sourceUri → x.isOdoo = y.isOdoo

omit [Floats F] in
/-- Node 9 leaves distinct Odoo items distinct. -/
theorem nodup_odooEvidence_normalize (evidence : List (Evidence F)) :
    (odooEvidence (normalizeEvidence evidence)).Nodup := by
  have hpass : (hashPass evidence).Nodup := Dedup.nodup_keepBest hashKey outranks evidence
  have hsub : (normalizeEvidence evidence).Sublist (hashPass evidence) :=
    Dedup.keepFirst_sublist compositeKey (hashPass evidence)
  exact (hpass.sublist hsub).filter _

/-- All financial records are kept just if none is shadowed. None is doubled, so that it is a matter
of membership. -/
theorem financialRecords_perm_iff {evidence : List (Evidence F)} (hd : DistinctOdoo evidence) :
    (financialRecords (normalizeEvidence evidence)).Perm (financialRecords evidence) ↔
      ∀ y ∈ financialRecords evidence, ¬ TitleShadowed evidence y := by
  have hkept : ∀ y, y ∈ financialRecords (normalizeEvidence evidence) ↔
      y ∈ financialRecords evidence ∧ ¬ TitleShadowed evidence y := by
    intro y
    rw [mem_financialRecords, mem_financialRecords, mem_odooEvidence_normalize hd]
    tauto
  constructor
  · intro hperm y hy
    exact ((hkept y).mp (hperm.mem_iff.mpr hy)).2
  · intro hnone
    have hnodup (pack : List (Evidence F)) (h : (odooEvidence pack).Nodup) :
        (financialRecords pack).Nodup := by
      rw [financialRecords_eq]
      exact h.filter _
    refine (List.perm_ext_iff_of_nodup
      (hnodup _ (nodup_odooEvidence_normalize evidence)) (hnodup _ hd.nodup)).mpr fun y => ?_
    rw [hkept]
    exact ⟨And.left, fun hy => ⟨hy, hnone y hy⟩⟩

/-- When the other sources have URIs of their own, the records that are kept keep their order. None
of them takes the place of an item of another source. -/
theorem financialRecords_normalize_of_ownUris {evidence : List (Evidence F)}
    (hd : DistinctOdoo evidence)
    (hown : ∀ x ∈ evidence, ∀ y ∈ evidence, x.sourceUri = y.sourceUri → x.isOdoo = y.isOdoo)
    (hperm : (financialRecords (normalizeEvidence evidence)).Perm (financialRecords evidence)) :
    financialRecords (normalizeEvidence evidence) = financialRecords evidence := by
  have hkeys : evidence.Pairwise fun x y =>
      carriesMoney x = true ∨ carriesMoney y = true → hashKey x ≠ hashKey y := by
    have huris : evidence.Pairwise fun x y =>
        x.isOdoo = true → y.isOdoo = true → x.sourceUri ≠ y.sourceUri :=
      List.pairwise_filter.mp (List.pairwise_map.mp hd)
    refine huris.imp_of_mem fun {x y} hx hy hne hmoney hkey => ?_
    have huri : x.sourceUri = y.sourceUri := congrArg Prod.fst hkey
    have hsame := hown x hx y hy huri
    rcases hmoney with h | h
    · have hx' := isOdoo_of_carriesMoney h
      exact hne hx' (hsame ▸ hx') huri
    · have hy' := isOdoo_of_carriesMoney h
      exact hne (hsame ▸ hy') hy' huri
  have hpass : financialRecords (hashPass evidence) = financialRecords evidence :=
    Dedup.filter_keepBest hashKey outranks hkeys
  have hsub : (financialRecords (normalizeEvidence evidence)).Sublist
      (financialRecords (hashPass evidence)) :=
    (Dedup.keepFirst_sublist compositeKey (hashPass evidence)).filter _
  rw [hpass] at hsub
  exact hsub.eq_of_length hperm.length_eq

/-- Deduplication preserves the money of distinct Odoo records exactly when no record that carries
an amount shares its title with an Odoo record arriving before it. That the same records are left
gives the totals as well, as long as the order of the summands is immaterial. -/
theorem moneyPreserved_normalize_iff {evidence : List (Evidence F)} (hd : DistinctOdoo evidence)
    (horder : SummationOrderFree evidence) :
    MoneyPreserved evidence (normalizeEvidence evidence) ↔
      ∀ y ∈ financialRecords evidence, ¬ TitleShadowed evidence y := by
  rw [← financialRecords_perm_iff hd]
  refine ⟨And.left, fun hperm => ⟨hperm, ?_⟩⟩
  rcases horder with hcomm | hown
  · exact packTotals_perm hcomm hperm
  · exact packTotals_congr (financialRecords_normalize_of_ownUris hd hown hperm)

end Deduplication

section Whole

open Py.Whole

/-- An analytic line as the Odoo workflow emits it. -/
def analyticLine (recordId : String) (name : String) (amount : ℤ) : Evidence ℤ :=
  { evidenceId := "odoo-account-analytic-line-" ++ recordId
    sourceType := .odoo
    sourceUri := "https://odoo/web#id=" ++ recordId ++ "&model=account.analytic.line"
    title := name
    timestamp := some "2024-05-01 00:00:00"
    excerpt := "name: " ++ name
    hashSha256 := "line-" ++ recordId
    confidence := .high
    tags := ["odoo", "account.analytic.line"]
    metadata :=
      [("model", .scalar (.str "account.analytic.line")), ("f_name", .scalar (.str name)),
        ("f_amount", .scalar (.num amount)), ("f_date", .scalar (.str "2024-05-01"))] }

/-- Two postings of the same name. -/
def sameNameLines : List (Evidence ℤ) :=
  [analyticLine "1" "Concrete supply" (-100), analyticLine "2" "Concrete supply" (-250)]

/-- Two postings with names of their own. -/
def ownNameLines : List (Evidence ℤ) :=
  [analyticLine "1" "Concrete supply" (-100), analyticLine "2" "Steel supply" (-250)]

/-- With titles of their own, both postings count. -/
theorem moneyPreserved_ownNameLines :
    MoneyPreserved ownNameLines (normalizeEvidence ownNameLines) := by
  have hd : DistinctOdoo ownNameLines := by
    unfold DistinctOdoo
    decide
  have horder : SummationOrderFree ownNameLines := .inl fun x y z => Int.add_right_comm x y z
  refine (moneyPreserved_normalize_iff hd horder).mpr ?_
  rintro y hy ⟨x, hx, hlt, hkey, -⟩
  have hy' : y ∈ ownNameLines := (mem_odooEvidence.mp (mem_financialRecords.mp hy).1).1
  have hx' : x ∈ ownNameLines := (mem_odooEvidence.mp hx).1
  simp only [ownNameLines, List.mem_cons, List.not_mem_nil, or_false] at hx' hy'
  rcases hx' with rfl | rfl <;> rcases hy' with rfl | rfl <;> revert hlt hkey <;> decide

/-- The second of two distinct postings of one name is dropped, and its amount with it. -/
theorem not_moneyPreserved_sameNameLines :
    ¬ ∀ evidence : List (Evidence ℤ), DistinctOdoo evidence →
      (evidenceIds (odooEvidence evidence)).Nodup →
      (∀ ev ∈ odooEvidence evidence, ev.metaStr "f_name" = some ev.title) →
      MoneyPreserved evidence (normalizeEvidence evidence) := by
  intro h
  obtain ⟨-, htotals⟩ := h sameNameLines (by unfold DistinctOdoo; decide) (by decide) (by decide)
  have hactual := congrArg Totals.actualCost htotals
  exact absurd hactual (by decide)

end Whole

end DecisionCenter
