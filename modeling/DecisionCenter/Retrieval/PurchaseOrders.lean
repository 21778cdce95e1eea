import DecisionCenter.Graph.SnapshotSoundness
import DecisionCenter.Graph.Totals
import DecisionCenter.Retrieval.Odoo

/-!
# Purchase orders in the committed cost

Orders and order lines are registered sources of their own, and the committed cost adds up the
amounts of both. An order of which the pack holds the header and lines counts more than once.

An item is a header or a line by the category that it was tagged with, and it names its order by
its id, or by the field that links the line. `ordersTotal` takes an order once: by its header
where that has an amount, and by its lines where not, and an item that repeats another one
counts nothing. The amounts are added in the order of the pack, as they are for the figure.

`CommittedOnce` compares it with the figure that the categories pass writes into an empty
snapshot. The pass as a whole has to go through, total and variance included, which is proved
for whatever figures are placed (`completes_enforceCategoriesSnapshot_nil`), and the committed
cost it leaves is the sum of the amounts, cited from a record of the category.

`committedOnce_iff` is exact for all packs: no order with an amount is repeated, or leaving out
what repeats does not change the rounded sum, or no record can be cited, so that nothing is
written. That such packs are retrieved is shown by a run of node 8, with an order and its one
line.
-/

namespace DecisionCenter

open Async Py

section PurchaseOrders

variable {F : Type} [Floats F] [Text]

/-! ### What an order amounts to -/

/-- The record is the header of a purchase order. -/
def isOrderHeader (ev : Evidence F) : Prop := ev.metaStr "odoo_category" = some "purchase_orders"

/-- The record is a line of a purchase order. -/
def isOrderLine (ev : Evidence F) : Prop :=
  ev.metaStr "odoo_category" = some "purchase_order_lines"

/-- The id of the record itself. -/
def ownId? (ev : Evidence F) : Option (Scalar F) :=
  match ev.metaGet "record_id" with
  | some (.scalar .null) => none
  | some (.scalar v) => some v
  | _ => none

/-- The id of the order a line belongs to: `order_id` is read as id and name. -/
def orderId? (ev : Evidence F) : Option (Scalar F) :=
  match ev.metaGet "f_order_id" with
  | some (.list (v :: _)) => some v
  | _ => none

/-- The line's order has its header, with an amount, in the pack. -/
def HeaderCounts (pack : List (Evidence F)) (ev : Evidence F) : Prop :=
  isOrderLine ev ∧ ∃ header ∈ pack, isOrderHeader header ∧ (committedAmount header).isSome ∧
    ∃ id, ownId? header = some id ∧ orderId? ev = some id

/-- The record has been there before, with an amount. -/
def CountedBefore (before : List (Evidence F)) (ev : Evidence F) : Prop :=
  ∃ ev' ∈ before, ev'.metaStr "odoo_category" = ev.metaStr "odoo_category" ∧
    (committedAmount ev').isSome ∧ ∃ id, ownId? ev' = some id ∧ ownId? ev = some id

/-- The amount repeats one that counts already. -/
def Repeats (pack before : List (Evidence F)) (ev : Evidence F) : Prop :=
  HeaderCounts pack ev ∨ CountedBefore before ev

open Classical in
/-- The amounts of a pack with every order counted once: by its header, else by its lines. -/
noncomputable def amountsOnce (pack : List (Evidence F)) :
    List (Evidence F) → List (Evidence F) → List F
  | _, [] => []
  | before, ev :: evs =>
    (if Repeats pack before ev then [] else (committedAmount ev).toList) ++
      amountsOnce pack (before ++ [ev]) evs

/-- The sum of the orders, each counted once. -/
noncomputable def ordersTotal (pack : List (Evidence F)) : F :=
  Floats.round2 (Num.floatSum (amountsOnce pack [] pack))

/-- No order with an amount counts twice. -/
def NoneRepeated (pack : List (Evidence F)) : Prop :=
  ∀ before ev after, pack = before ++ ev :: after → (committedAmount ev).isSome →
    ¬ Repeats pack before ev

/-- Where no amount is repeated from here on, all of them count. -/
private theorem amountsOnce_append {pack : List (Evidence F)} (evs : List (Evidence F))
    {before : List (Evidence F)}
    (h : ∀ front ev after, evs = front ++ ev :: after → (committedAmount ev).isSome →
      ¬ Repeats pack (before ++ front) ev) :
    amountsOnce pack before evs = evs.filterMap committedAmount := by
  induction evs generalizing before with
  | nil => rfl
  | cons ev evs ih =>
    have htail : amountsOnce pack (before ++ [ev]) evs = evs.filterMap committedAmount := by
      refine ih fun front ev' after hsplit hsome => ?_
      have hlater := h (ev :: front) ev' after (by rw [hsplit]; rfl) hsome
      rwa [List.append_cons] at hlater
    rw [amountsOnce, htail, List.filterMap_cons]
    cases hamount : committedAmount ev with
    | none => split <;> rfl
    | some x =>
      have hfirst := h [] ev evs rfl (by rw [hamount]; rfl)
      rw [List.append_nil] at hfirst
      rw [if_neg hfirst]
      rfl

/-- Where nothing is repeated, every amount counts. -/
theorem amountsOnce_eq {pack : List (Evidence F)} (h : NoneRepeated pack) :
    amountsOnce pack [] pack = pack.filterMap committedAmount :=
  amountsOnce_append pack h

/-! ### The figure written -/

/-- Figures placed in an empty snapshot are shown as the extraction has them. -/
theorem shows_placeFigures_nil {ctx : OdooContext F} {odoo : List (Evidence F)}
    {ids : List String} {key : String} {p : Option (F × String)}
    (h : (backedFigures ctx odoo ids).lookup key = some p) :
    Shows (placeFigures ctx odoo ids []) key p := by
  unfold Shows availableFigure Dict.dict?
  rw [get?_placeFigures, h]
  rcases p with - | ⟨x, e⟩ <;> rfl

omit [Text] in
/-- The total over shown figures is taken without an error. -/
theorem completes_placeTotalIncurred {fs : Dict F} {b : BaseFigures F}
    (ha : Shows fs "actual_cost" b.actual) (hp : Shows fs "payroll_cost" b.payroll)
    (he : Shows fs "expense_cost" b.expense) : Completes (placeTotalIncurred fs) := by
  refine completes_bind.mpr ⟨_, incurredParts_eq ha hp he, ?_⟩
  split
  · exact completes_pure _
  · next first rest hparts =>
    have hne : b.incurred.map (fun p => Floats.abs p.2.1) ≠ [] := by
      intro hnil
      rw [List.map_eq_nil_iff.mp hnil] at hparts
      cases hparts
    have hsum := Num.sum_map_float hne
    rw [← hparts, List.map_map]
    rw [List.map_map] at hsum
    refine completes_bind.mpr ⟨_, hsum, ?_⟩
    split <;> exact completes_pure _

omit [Text] in
/-- The variance over shown figures is taken without an error. A shown figure is a float, so that
neither `abs` nor the difference can raise. -/
theorem completes_placeVariance {fs : Dict F} {b : BaseFigures F}
    (hest : Shows fs "estimate" b.estimate) (ha : Shows fs "actual_cost" b.actual)
    (hp : Shows fs "payroll_cost" b.payroll) (he : Shows fs "expense_cost" b.expense)
    (ht : Shows fs "total_incurred" b.total) : Completes (placeVariance fs) := by
  -- a shown figure is a float, so neither `abs` nor the difference can raise
  have hfloat : ∀ key p, Shows fs key p →
      (nodeOrEmpty fs key).get "status" = .str "available" →
      (nodeOrEmpty fs key).get "value" ≠ .null →
      ∃ x, (nodeOrEmpty fs key).get "value" = .float x := by
    intro key p hshow hstatus hvalue
    rw [Shows, availableFigure_of_node hstatus hvalue] at hshow
    rcases p with - | ⟨x, e⟩
    · cases hshow
    · exact ⟨x, (Prod.mk.inj (Option.some.inj hshow)).1⟩
  obtain ⟨key, hspent, hshow⟩ := spentNode_of_shows ha hp he fun _ => ht
  unfold placeVariance
  simp only
  split
  · next hcomp =>
    obtain ⟨hes, hss, hetruthy, hsvalue⟩ := varianceComputable_iff.mp hcomp
    rw [hspent] at hss hsvalue ⊢
    have hevalue : (nodeOrEmpty fs "estimate").get "value" ≠ .null := by
      intro hnull
      rw [hnull, Value.truthy_null] at hetruthy
      cases hetruthy
    obtain ⟨x, hx⟩ := hfloat _ _ hest hes hevalue
    obtain ⟨y, hy⟩ := hfloat _ _ hshow hss hsvalue
    rw [hx, hy]
    exact completes_pure _
  · exact completes_pure _

/-- The categories pass goes through on an empty snapshot. There all figures are those it has placed
itself. -/
theorem completes_enforceCategoriesSnapshot_nil (ctx : OdooContext F) (odoo : List (Evidence F))
    (ids : List String) : Completes (enforceCategoriesSnapshot ctx odoo ids []) := by
  set placed := placeFigures ctx odoo ids [] with hplaced
  let b : BaseFigures F := ⟨backedNonzero ids ctx.estimate, none, backed ids ctx.payrollCost,
    backed ids ctx.expenseCost⟩
  have ha : Shows placed "actual_cost" b.actual := by
    unfold Shows availableFigure Dict.dict?
    rw [hplaced, get?_placeFigures]
    rfl
  have hp : Shows placed "payroll_cost" b.payroll := shows_placeFigures_nil rfl
  have he : Shows placed "expense_cost" b.expense := shows_placeFigures_nil rfl
  have hest : Shows placed "estimate" b.estimate := shows_placeFigures_nil rfl
  obtain ⟨totalled, htotal⟩ := completes_placeTotalIncurred ha hp he
  have hnode := total_of_shows ha hp he htotal
  obtain ⟨-, -, hframe, -⟩ := placeTotalIncurred_cases htotal
  have hdraft : placed.dict? "total_incurred" = none := by
    rw [Dict.dict?, hplaced, get?_placeFigures]
    rfl
  have ht : Shows totalled "total_incurred" b.total := by
    unfold Shows availableFigure Dict.dict?
    rw [hnode, placedNode.eq_def, hdraft]
    rcases b.total with - | ⟨x, e⟩ <;> rfl
  exact completes_bind.mpr ⟨totalled, htotal, completes_placeVariance
    (hest.congr (hframe _ (by simp))) (ha.congr (hframe _ (by simp)))
    (hp.congr (hframe _ (by simp))) (he.congr (hframe _ (by simp))) ht⟩

/-- What the pass writes for the committed cost where a record can be cited for it. -/
theorem enforceCategoriesSnapshot_committed {pack : List (Evidence F)} {fs fs' : Dict F}
    (hcited : ∃ ev ∈ odooEvidence pack, (committedAmount ev).isSome ∧ ev.evidenceId ≠ "")
    (h : enforceCategoriesSnapshot (extractOdooContext (odooEvidence pack)) (odooEvidence pack)
      (evidenceIds pack) fs = .ok fs') :
    ∃ node, fs'.dict? "committed_cost" = some node ∧ node.get "value" =
      .float (Floats.round2 (Num.floatSum ((odooEvidence pack).filterMap committedAmount))) := by
  obtain ⟨-, -, -, hplaced, -⟩ := enforceCategoriesSnapshot_cases h
  have hsum : (committedCost (odooEvidence pack) (evidenceIds pack)).map Prod.fst =
      some (Floats.round2 (Num.floatSum ((odooEvidence pack).filterMap committedAmount))) := by
    rw [committedCost_odooEvidence, sumOdooCategory_value]
    exact if_pos hcited
  obtain ⟨⟨x, e⟩, hcost, rfl⟩ := Option.map_eq_some_iff.mp hsum
  have hnode := hplaced "committed_cost" (by decide)
  simp only [backedFigures, List.lookup_cons, String.reduceBEq, hcost] at hnode
  refine ⟨_, Dict.dict?_eq_some.mpr hnode, ?_⟩
  simp [placedNode, availableNode, Dict.get_set]

/-! ### Counting once -/

/-- A record that adds to the committed cost can be cited. -/
def Citable (pack : List (Evidence F)) : Prop :=
  ∃ ev ∈ odooEvidence pack, (committedAmount ev).isSome ∧ ev.evidenceId ≠ ""

/-- The committed cost written is the sum of the orders, each counted once. -/
def CommittedOnce (pack : List (Evidence F)) : Prop :=
  ∀ fs fs' : Dict F, enforceCategoriesSnapshot (extractOdooContext (odooEvidence pack))
      (odooEvidence pack) (evidenceIds pack) fs = .ok fs' → Citable pack →
    ∃ node, fs'.dict? "committed_cost" = some node ∧
      node.get "value" = .float (ordersTotal (odooEvidence pack))

/-- The orders are counted once exactly when no order with an amount is repeated, or leaving the
repetitions out does not change the rounded sum, or there is nothing to cite for it. The second case
is one of numbers that cancel, and the third leaves the figure as it is. -/
theorem committedOnce_iff (pack : List (Evidence F)) :
    CommittedOnce pack ↔
      (Citable pack → NoneRepeated (odooEvidence pack) ∨
        Floats.round2 (Num.floatSum ((odooEvidence pack).filterMap committedAmount)) =
          ordersTotal (odooEvidence pack)) := by
  constructor
  · intro h hcited
    obtain ⟨fs, hrun⟩ := completes_enforceCategoriesSnapshot_nil
      (extractOdooContext (odooEvidence pack)) (odooEvidence pack) (evidenceIds pack)
    obtain ⟨node, hnode, hvalue⟩ := h [] fs hrun hcited
    obtain ⟨node', hnode', hvalue'⟩ := enforceCategoriesSnapshot_committed hcited hrun
    rw [hnode] at hnode'
    cases hnode'
    rw [hvalue] at hvalue'
    exact .inr (Value.float.inj hvalue').symm
  · intro h fs fs' hrun hcited
    obtain ⟨node, hnode, hvalue⟩ := enforceCategoriesSnapshot_committed hcited hrun
    refine ⟨node, hnode, ?_⟩
    rw [hvalue]
    rcases h hcited with hnone | hsame
    · rw [ordersTotal, amountsOnce_eq hnone]
    · rw [hsame]

end PurchaseOrders

section Whole

open Py.Whole

/-- A record as the Odoo workflow emits it. -/
def odooRecord (model : String) (id : ℕ) (fields : List (String × MetaValue ℤ)) : Evidence ℤ :=
  { evidenceId := "odoo-" ++ model ++ "-" ++ toString id
    sourceType := .odoo
    sourceUri := "https://odoo/web#id=" ++ toString id ++ "&model=" ++ model
    title := model ++ " #" ++ toString id
    timestamp := none
    excerpt := ""
    hashSha256 := model ++ toString id
    confidence := .high
    tags := ["odoo", model]
    metadata := [("model", .scalar (.str model)), ("record_id", .scalar (.num id)),
      ("currency", .scalar (.str "AED"))] ++ fields }

/-- An order over 1050. -/
def steelOrder : Evidence ℤ :=
  odooRecord "purchase.order" 40181 [("f_name", .scalar (.str "PO40181")),
    ("f_amount_untaxed", .scalar (.num 1000)), ("f_amount_total", .scalar (.num 1050))]

/-- Its only line. -/
def steelLine : Evidence ℤ :=
  odooRecord "purchase.order.line" 112580 [("f_order_id", .list [.num 40181, .str "PO40181"]),
    ("f_price_subtotal", .scalar (.num 1000)), ("f_price_total", .scalar (.num 1050))]

/-- Connectors that find the order and its line. -/
def steelConnectors : Connectors ℤ Unit where
  answer c s := match c with
    | .read (.odoo q) _ =>
      (.ok (if q.model = "purchase.order" then [steelOrder]
        else if q.model = "purchase.order.line" then [steelLine] else []), s)
    | .read _ _ => (.ok [], s)
    | .remaining => ((50000 : ℤ), s)
    | .plan => (none, s)
  labelled c s := by
    cases c with
    | read r timeoutMs =>
      cases r with
      | odoo q =>
        rintro items ⟨⟩ e he
        split_ifs at he
        · rw [List.mem_singleton.mp he]
          rfl
        · rw [List.mem_singleton.mp he]
          rfl
        · cases he
      | _ =>
        rintro items ⟨⟩
        exact AllFrom.nil
    | remaining => trivial
    | plan => trivial

/-- A verified analytic account. -/
def steelMapping : OdooConfig :=
  { projectModel := none, costModel := none, projectExternalId := some "7", projectName := none
    analyticAccountId := some "3", extendedSources := true }

/-- The pack the extended sources deliver. -/
def steelPack : List (Evidence ℤ) :=
  ((readExtendedSources steelMapping "P1" ["7"] (activeSources true) []).run
    steelConnectors.answer ()).1

/-- The order counts twice: by its header, and by its line. The two are different records of Odoo,
which name the same order. -/
theorem not_committedOnce_steelPack :
    ¬ ∀ (S : Type) (world : Connectors ℤ S) (odoo : OdooConfig) (code : String)
      (allowedOdooIds : List String) (includeMedium : Bool) (s₀ : S),
      CommittedOnce ((readExtendedSources odoo code allowedOdooIds (activeSources includeMedium)
        []).run world.answer s₀).1 := by
  intro h
  have hsteel : CommittedOnce steelPack := h Unit steelConnectors steelMapping "P1" ["7"] true ()
  have hcited : Citable steelPack := by
    unfold Citable
    decide
  -- the pack counts 1050 and 1000; the line repeats its header, so 1050 is right
  have hcounted : (odooEvidence steelPack).filterMap committedAmount = [1050, 1000] := by decide
  obtain ⟨header, line, hpack, hheader, hamount, hid, hline, hsome, horder⟩ :
      ∃ header line : Evidence ℤ, odooEvidence steelPack = [header, line] ∧
        isOrderHeader header ∧ committedAmount header = some 1050 ∧
        ownId? header = some (.num 40181) ∧ isOrderLine line ∧
        (committedAmount line).isSome ∧ orderId? line = some (.num 40181) :=
    ⟨_, _, rfl, rfl, rfl, rfl, rfl, rfl, rfl⟩
  have hfirst : ¬ Repeats [header, line] [] header := by
    rintro (⟨hother, -⟩ | ⟨_, hmem, -⟩)
    · exact absurd (hother.symm.trans hheader) (by decide)
    · cases hmem
  have hsecond : Repeats [header, line] [header] line :=
    .inl ⟨hline, header, List.mem_cons_self, hheader, by rw [hamount]; rfl, _, hid, horder⟩
  have honce : ordersTotal (odooEvidence steelPack) = 1050 := by
    rw [hpack, ordersTotal, amountsOnce, amountsOnce, amountsOnce, if_neg hfirst,
      List.nil_append, if_pos hsecond, hamount]
    decide
  rcases (committedOnce_iff steelPack).mp hsteel hcited with hnone | hsame
  · rw [hpack] at hnone
    exact hnone [header] line [] rfl hsome hsecond
  · rw [hcounted, honce] at hsame
    exact absurd hsame (by decide)

end Whole

end DecisionCenter
