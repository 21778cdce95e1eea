import DecisionCenter.Graph.DraftFrame
import DecisionCenter.Py.Joined

/-!
# Missing data

What the pass over the missing data adds. It looks for the words of each gap in the lowered
texts of the entries, joined by blanks, and adds an entry of its own where it finds none; what
is added is searched for the next gap. So a single word is found in one of the entries, but two
words are also found where one entry ends and the next begins.

A `Gap` is an entry with its words, and `gapsOf` lists those that a report of a type has, from
the extraction and the type alone. `told` is the pass: gap by gap, the entries so far are
searched. `mem_told` says which gaps are added, and after the pass all gaps are mentioned
(`covers_foldl_tell`), so that a second pass adds nothing but where the report has become one
that needs a further gap (`told_again`).

Of `str.lower` only what is asked is used: it does not look past a blank, so that lowering
joined texts is joining lowered ones (`LowersWords`). The words and the added entries are
literals; their letters are compared once (`word_spec`, `TellsOnly`).

For the two gaps whose entries are compared with the snapshot later, the outcome is given in
terms of the entries of the draft: the variance is told just if no entry mentions it
(`told_variance`), the actual cost just if it is mentioned nowhere, not even across two entries
(`told_cost`).
-/

namespace DecisionCenter

open Py

/-! ### Gaps -/

/-- An entry of the pass, and the words by which the gap is found to be mentioned. -/
structure Gap where
  item : String
  words : List String
deriving DecidableEq

def budgetGap : Gap :=
  ⟨"Project budget (AED): not available in Odoo analytic line records", ["budget"]⟩

def varianceGap : Gap :=
  ⟨"Cost variance (budget vs actual): not calculable without a budget baseline", ["variance"]⟩

def costGap : Gap :=
  ⟨"Actual cost total: not available — no cost analytic lines in evidence",
    ["actual cost", "actual_cost"]⟩

def delayGap : Gap :=
  ⟨"Delay analysis: no specific delay events extracted from available documents", ["delay"]⟩

def actionsGap : Gap :=
  ⟨"Recommended actions: insufficient specific evidence basis in current evidence set",
    ["recommended"]⟩

/-- The gaps the pass knows. -/
def knownGaps : List Gap := [budgetGap, varianceGap, costGap, delayGap, actionsGap]

/-! ### Their letters -/

/-- The letters of a literal, as a list. -/
theorem of_letters {P : List Char → Prop} {s : String} (cs : List Char) (hs : s = String.ofList cs)
    (h : P cs) : P s.toList := by
  rw [hs, String.toList_ofList]
  exact h

/-- A letter that is its own, or an ASCII letter. -/
def Plain (c : Char) : Prop := c.toNat < 128 ∨ c = '—'

instance : DecidablePred Plain := fun c => inferInstanceAs (Decidable (c.toNat < 128 ∨ c = '—'))

/-- The test for plain texts, as a statement about their characters. -/
theorem plain_of_all {cs : List Char} (h : (cs.all fun c => decide (Plain c)) = true) :
    ∀ c ∈ cs, Plain c := fun c hc => of_decide_eq_true (List.all_eq_true.mp h c hc)

/-- The text of the entry for a gap: it has one of the gap's words, and no word of another gap, but
the entry on the variance has the budget. -/
structure TellsOnly (g : Gap) (cs : List Char) : Prop where
  plain : ∀ c ∈ cs, Plain c
  own : ∃ w ∈ g.words, w.toList <:+: cs.map Char.toLower
  others : ∀ g' ∈ knownGaps, g ≠ g' → g' ≠ budgetGap → ∀ w ∈ g'.words,
    ¬ w.toList <:+: cs.map Char.toLower

set_option maxRecDepth 2000 in
private theorem tellsOnly_item {g : Gap} (hg : g ∈ knownGaps) : TellsOnly g g.item.toList := by
  simp only [knownGaps, List.mem_cons, List.not_mem_nil, or_false] at hg
  rcases hg with rfl | rfl | rfl | rfl | rfl <;>
    refine of_letters (P := TellsOnly _) _ rfl ⟨plain_of_all ?_, ?_, ?_⟩ <;> decide

/-- A word that can be searched: in lower case, and a blank in front is no part of it. -/
structure Searchable (cs : List Char) : Prop where
  plain : ∀ c ∈ cs, Plain c
  low : cs.map Char.toLower = cs
  start : ∃ c ∈ cs.head?, c ≠ ' '

private theorem searchable_word {g : Gap} (hg : g ∈ knownGaps) {w : String} (hw : w ∈ g.words) :
    Searchable w.toList := by
  have hwords : w ∈ ["budget", "variance", "actual cost", "actual_cost", "delay",
      "recommended"] := by
    have hall : ∀ g ∈ knownGaps, g.words ⊆
        ["budget", "variance", "actual cost", "actual_cost", "delay", "recommended"] := by decide
    exact hall g hg hw
  simp only [List.mem_cons, List.not_mem_nil, or_false] at hwords
  rcases hwords with rfl | rfl | rfl | rfl | rfl | rfl <;>
    refine of_letters (P := Searchable) _ rfl ⟨plain_of_all ?_, ?_, ⟨_, rfl, ?_⟩⟩ <;> decide

/-! ### Telling gaps -/

section Told

variable [Text]

/-- What is known of `str.lower`: it does not look past a blank, and it takes plain text letter by
letter. -/
structure LowersWords : Prop where
  blank : ∀ a b, lower (a ++ " " ++ b) = lower a ++ " " ++ lower b
  plain : ∀ s, (∀ c ∈ s.toList, Plain c) → lower s = String.ofList (s.toList.map Char.toLower)

/-- One of the words of the gap is in the text. -/
def covers (text : String) (g : Gap) : Bool := g.words.any fun w => contains text (lower w)

/-- The text once the gap has been seen to. -/
def tell (text : String) (g : Gap) : String :=
  if covers text g then text else text ++ " " ++ lower g.item

/-- The gaps that are added. -/
def told (text : String) : List Gap → List Gap
  | [] => []
  | g :: gs => if covers text g then told text gs else g :: told (tell text g) gs

private theorem foldl_addMissing {F : Type} (gs : List Gap) (items : List (Value F))
    (text : String) : gs.foldl (fun s g => addMissing s g.item g.words) (items, text) =
      (items ++ (told text gs).map fun g => .str g.item, gs.foldl tell text) := by
  induction gs generalizing items text with
  | nil => simp [told]
  | cons g gs ih =>
    rw [List.foldl_cons, List.foldl_cons, addMissing, told, tell, covers]
    split
    · exact ih items text
    · rw [ih, List.map_cons, List.append_assoc]
      rfl

/-- Only gaps that there are get told. -/
theorem told_subset {gs : List Gap} {text : String} : told text gs ⊆ gs := by
  induction gs generalizing text with
  | nil => exact List.Subset.refl _
  | cons g gs ih =>
    rw [told]
    split
    · exact List.subset_cons_of_subset g ih
    · exact List.cons_subset_cons g ih

private theorem told_append (gs gs' : List Gap) (text : String) :
    told text (gs ++ gs') = told text gs ++ told (gs.foldl tell text) gs' := by
  induction gs generalizing text with
  | nil => rfl
  | cons g gs ih =>
    rw [List.cons_append, told, told, List.foldl_cons]
    split
    · next hcovers => rw [ih, tell, if_pos hcovers]
    · rw [ih, List.cons_append]

/-- A gap is added just if its words are not in the text when its turn comes. -/
theorem mem_told {gs gs' : List Gap} {g : Gap} {text : String} (hbefore : g ∉ gs)
    (hafter : g ∉ gs') :
    g ∈ told text (gs ++ g :: gs') ↔ covers (gs.foldl tell text) g = false := by
  rw [told_append, List.mem_append, told]
  have hbefore' : g ∉ told text gs := fun hmem => hbefore (told_subset hmem)
  split
  · next hcovers =>
    rw [hcovers]
    exact iff_of_false (not_or.mpr ⟨hbefore', fun hmem => hafter (told_subset hmem)⟩) nofun
  · next hcovers =>
    exact iff_of_true (.inr List.mem_cons_self) (Bool.not_eq_true _ ▸ hcovers)

/-- Nothing is added just if all the gaps are mentioned. -/
theorem told_eq_nil {gs : List Gap} {text : String} :
    told text gs = [] ↔ ∀ g ∈ gs, covers text g = true := by
  induction gs with
  | nil => simp [told]
  | cons g gs ih =>
    rw [told, List.forall_mem_cons]
    split
    · next hcovers => rw [ih, and_iff_right hcovers]
    · next hcovers => exact iff_of_false (List.cons_ne_nil _ _) fun h => hcovers h.1

end Told

section Pass

variable {F : Type} [Floats F] [Text]

/-- The entries of the report, before the pass. -/
def ownEntries (report : Dict F) : List (Value F) :=
  ((report.get? "missing_data").bind Value.asList?).getD []

/-- The text that is searched first. -/
def ownText (own : List (Value F)) : String := lower (join " " (own.map Value.toStr))

/-- The types of report without delay sections. -/
def listingTypes : List String := ["financial", "salary_payroll", "data_report", "document_search"]

/-- The report has delay sections, and they are empty. -/
def delayDue (report : Dict F) : Bool :=
  !(listingTypes.any fun t => (report.get "report_type").eqStr t) &&
    !(report.get "delay_analysis").truthy && !(report.get "root_causes").truthy

/-- The gaps the pass sees to, in order. -/
def gapsOf (report : Dict F) (ctx : OdooContext F) : List Gap :=
  [budgetGap, varianceGap] ++ ((if ctx.hasAmount then [] else [costGap]) ++
    ((if delayDue report then [delayGap] else []) ++
      (if (report.get "recommended_actions").truthy then [] else [actionsGap])))

/-- The pass keeps the entries of its own kind and appends the gaps that none of these mentions, one
after the other, each mentioned from then on. -/
theorem enforceMissingData_eq (report : Dict F) (ctx : OdooContext F) :
    enforceMissingData report ctx = report.set "missing_data" (.list (ownEntries report ++
      (told (ownText (ownEntries report)) (gapsOf report ctx)).map fun g => .str g.item)) := by
  have hfold := congrArg Prod.fst (foldl_addMissing (gapsOf report ctx) (ownEntries report)
    (ownText (ownEntries report)))
  dsimp only at hfold
  rw [← hfold]
  have hite (c : Prop) [Decidable c] (gs gs' : List Gap) (s : List (Value F) × String) :
      (if c then gs else gs').foldl (fun s g => addMissing s g.item g.words) s =
        if c then gs.foldl (fun s g => addMissing s g.item g.words) s
        else gs'.foldl (fun s g => addMissing s g.item g.words) s := by
    split <;> rfl
  simp only [gapsOf, List.foldl_append, List.foldl_cons, List.foldl_nil, hite]
  rfl

end Pass

/-! ### The search -/

section Search

variable [Text] {text : String} {texts : List (List Char)} {gs : List Gap} {g : Gap}

/-- The letters of a text in lower case. -/
def lowered (s : String) : List Char := (lower s).toList

/-- The text is made up of these, joined by blanks, a blank in front apart. -/
def Joins (text : String) (texts : List (List Char)) : Prop :=
  texts ≠ [] ∧ (text.toList = [' '].intercalate texts ∨
    ' ' :: text.toList = [' '].intercalate texts)

omit [Text] in
private theorem Joins.concat (h : Joins text texts) (s : String) :
    Joins (text ++ " " ++ s) (texts ++ [s.toList]) := by
  obtain ⟨hne, htext⟩ := h
  refine ⟨by simp, ?_⟩
  rw [intercalate_concat hne, String.toList_append, String.toList_append, List.append_assoc]
  rcases htext with htext | htext
  · exact .inl (by rw [htext]; rfl)
  · exact .inr (by rw [← htext]; rfl)

omit [Text] in
/-- The blank in front does not matter to a word that starts with a letter. -/
theorem Joins.contains_iff (h : Joins text texts) {w : String}
    (hw : ∃ c ∈ w.toList.head?, c ≠ ' ') :
    contains text w = true ↔ w.toList <:+: [' '].intercalate texts := by
  rw [Py.contains_iff]
  rcases h.2 with htext | htext
  · rw [htext]
  · rw [← htext, List.infix_cons_iff]
    refine ⟨.inr, fun hinfix => hinfix.resolve_left fun hprefix => ?_⟩
    obtain ⟨c, hc, hne⟩ := hw
    obtain ⟨cs, hcs⟩ : ∃ cs, w.toList = c :: cs := List.head?_eq_some_iff.mp hc
    rw [hcs, List.cons_prefix_cons] at hprefix
    exact hne hprefix.1

private theorem Joins.after_tell (h : Joins text texts) :
    Joins (tell text g) (texts ++ (told text [g]).map fun g => lowered g.item) := by
  rw [tell, told]
  split
  · rw [told, List.map_nil, List.append_nil]
    exact h
  · exact h.concat _

/-- After the pass the entries that were added are searched as well. -/
theorem Joins.foldl_tell (h : Joins text texts) :
    Joins (gs.foldl tell text)
      (texts ++ (told text gs).map fun g => lowered g.item) := by
  induction gs generalizing text texts with
  | nil => rwa [told, List.map_nil, List.append_nil]
  | cons g gs ih =>
    have hrest := ih (h.after_tell (g := g))
    have hcons : told text (g :: gs) = told text [g] ++ told (tell text g) gs :=
      told_append [g] gs text
    rw [hcons, List.map_append, ← List.append_assoc]
    exact hrest

/-! ### Words -/

variable (laws : LowersWords)

include laws

/-- The words that are searched are in lower case. -/
theorem word_spec (hg : g ∈ knownGaps) {w : String} (hw : w ∈ g.words) :
    lower w = w ∧ ∃ c ∈ w.toList.head?, c ≠ ' ' := by
  have hword := searchable_word hg hw
  refine ⟨?_, hword.start⟩
  rw [laws.plain w hword.plain, hword.low, String.ofList_toList]

private theorem lowered_item (hg : g ∈ knownGaps) :
    lowered g.item = g.item.toList.map Char.toLower := by
  rw [lowered, laws.plain _ (tellsOnly_item hg).plain, String.toList_ofList]

/-- A gap is mentioned if one of its words is in the joined texts. -/
theorem covers_iff (h : Joins text texts) (hg : g ∈ knownGaps) :
    covers text g = true ↔ ∃ w ∈ g.words, w.toList <:+: [' '].intercalate texts := by
  rw [covers, List.any_eq_true]
  refine exists_congr fun w => and_congr_right fun hw => ?_
  obtain ⟨hlower, hhead⟩ := word_spec laws hg hw
  rw [hlower]
  exact h.contains_iff hhead

/-- A gap with a single word is mentioned if the word is in one of the texts. -/
theorem covers_iff_of_word (h : Joins text texts) (hg : g ∈ knownGaps) {w : String}
    (hwords : g.words = [w]) (hblank : ' ' ∉ w.toList) :
    covers text g = true ↔ ∃ t ∈ texts, w.toList <:+: t := by
  have hne : w.toList ≠ [] := by
    obtain ⟨-, c, hc, -⟩ := word_spec laws hg (hwords ▸ List.mem_singleton_self w)
    intro hnil
    rw [hnil] at hc
    cases hc
  rw [covers_iff laws h hg, hwords]
  simp only [List.mem_singleton, exists_eq_left]
  exact infix_intercalate hblank hne

omit laws in
private theorem covers_of_append {post : String} (h : covers text g = true) :
    covers (text ++ post) g = true := by
  rw [covers, List.any_eq_true] at h ⊢
  obtain ⟨w, hw, hmem⟩ := h
  refine ⟨w, hw, ?_⟩
  rw [Py.contains_iff] at hmem ⊢
  rw [String.toList_append]
  exact hmem.trans (List.prefix_append _ _).isInfix

omit laws in
private theorem covers_tell {g' : Gap} (h : covers text g = true) :
    covers (tell text g') g = true := by
  rw [tell]
  split
  · exact h
  · rw [String.append_assoc]
    exact covers_of_append h

/-- The entry that is added for a gap mentions it. -/
theorem covers_tell_self (hg : g ∈ knownGaps) : covers (tell text g) g = true := by
  rw [tell]
  split
  · assumption
  · obtain ⟨w, hw, hmem⟩ := (tellsOnly_item hg).own
    rw [covers, List.any_eq_true]
    refine ⟨w, hw, contains_append ?_⟩
    rw [(word_spec laws hg hw).1]
    rw [← lowered_item laws hg] at hmem
    exact Py.contains_iff.mpr hmem

/-- After the pass all its gaps are mentioned. -/
theorem covers_foldl_tell (hg : g ∈ knownGaps) (hmem : g ∈ gs) :
    covers (gs.foldl tell text) g = true := by
  have hkept (gs : List Gap) {text : String} (h : covers text g = true) :
      covers (gs.foldl tell text) g = true := by
    induction gs generalizing text with
    | nil => exact h
    | cons g' gs ih => exact ih (covers_tell h)
  obtain ⟨gs₁, gs₂, rfl⟩ := List.append_of_mem hmem
  rw [List.foldl_append, List.foldl_cons]
  exact hkept gs₂ (covers_tell_self laws hg)

end Search

/-! ### The entries of the report -/

section Own

variable {F : Type} [Floats F] [Text] {own : List (Value F)} {gs : List Gap} {g : Gap}

/-- The entries as they are searched. -/
def entryTexts (own : List (Value F)) : List (List Char) := own.map fun m => lowered m.toStr

/-- One of the entries mentions one of the words. -/
def Mentions (own : List (Value F)) (words : List String) : Prop :=
  ∃ t ∈ entryTexts own, ∃ w ∈ words, w.toList <:+: t

/-- No entry mentions the actual cost, but it is found where one ends and the next begins: that may
be the entry on the variance that the pass has added. -/
def RunsTogether (own : List (Value F)) : Prop :=
  Bridges "actual".toList "cost".toList (entryTexts own) ∨
    (Mentions own budgetGap.words ∧ ¬ Mentions own varianceGap.words ∧
      ∃ t ∈ (entryTexts own).getLast?, "actual".toList <:+ t)

variable (laws : LowersWords)

include laws

/-- The text in which gaps are looked for is that of the entries, with blanks between them. -/
private theorem joins_ownText (own : List (Value F)) :
    Joins (ownText own) ([] :: entryTexts own) := by
  have hjoin (ss : List String) :
      (lower (join " " ss)).toList = [' '].intercalate (ss.map lowered) := by
    induction ss with
    | nil => rw [join, laws.plain "" (plain_of_all rfl)]; rfl
    | cons x ss ih =>
      cases ss with
      | nil => rw [join, List.map_singleton, List.intercalate_singleton]; rfl
      | cons y ss =>
        rw [join, laws.blank, String.toList_append, String.toList_append, ih, List.append_assoc]
        exact intercalate_cons_cons.symm
  refine ⟨List.cons_ne_nil _ _, ?_⟩
  rw [ownText, hjoin, List.map_map]
  cases own with
  | nil => exact .inl rfl
  | cons m own =>
    have hcons : [' '].intercalate ([] :: entryTexts (m :: own)) =
        [] ++ ' ' :: [' '].intercalate (entryTexts (m :: own)) := intercalate_cons_cons
    exact .inr hcons.symm

private theorem joins_foldl_tell (own : List (Value F)) (gs : List Gap) :
    Joins (gs.foldl tell (ownText own)) ([] :: entryTexts own ++
      (told (ownText own) gs).map fun g => lowered g.item) :=
  (joins_ownText laws own).foldl_tell

/-- The words are found in the entries of the report, whatever other entries have been added. No
word of a gap is in the text of another one, that of the budget apart. -/
theorem exists_infix_iff (hg : g ∈ knownGaps) (hbudget : g ≠ budgetGap) (hgs : gs ⊆ knownGaps)
    (hmem : g ∉ gs) {w : String} (hw : w ∈ g.words) :
    (∃ t ∈ [] :: entryTexts own ++ (told (ownText own) gs).map fun g => lowered g.item,
      w.toList <:+: t) ↔ ∃ t ∈ entryTexts own, w.toList <:+: t := by
  constructor
  · rintro ⟨t, ht, hinfix⟩
    rcases List.mem_append.mp ht with ht | ht
    · rcases List.mem_cons.mp ht with rfl | ht
      · obtain ⟨-, c, hc, -⟩ := word_spec laws hg hw
        rw [List.infix_nil.mp hinfix] at hc
        cases hc
      · exact ⟨t, ht, hinfix⟩
    · obtain ⟨g', hg', rfl⟩ := List.mem_map.mp ht
      have hg' := told_subset hg'
      rw [lowered_item laws (hgs hg')] at hinfix
      exact absurd hinfix ((tellsOnly_item (hgs hg')).others g hg (fun heq => hmem (heq ▸ hg'))
        hbudget w hw)
  · rintro ⟨t, ht, hinfix⟩
    exact ⟨t, List.mem_append_left _ (List.mem_cons_of_mem _ ht), hinfix⟩

private theorem covers_iff_mentions (hg : g ∈ knownGaps) (hbudget : g ≠ budgetGap) {w : String}
    (hwords : g.words = [w]) (hblank : ' ' ∉ w.toList) (hgs : gs ⊆ knownGaps) (hmem : g ∉ gs) :
    covers (gs.foldl tell (ownText own)) g = true ↔ Mentions own g.words := by
  have hw : w ∈ g.words := hwords ▸ List.mem_singleton_self w
  rw [covers_iff_of_word laws (joins_foldl_tell laws own gs) hg hwords hblank,
    exists_infix_iff laws hg hbudget hgs hmem hw, Mentions, hwords]
  simp only [List.mem_singleton, exists_eq_left]

private theorem covers_budget (own : List (Value F)) :
    covers (ownText own) budgetGap = true ↔ Mentions own budgetGap.words := by
  rw [covers_iff_of_word laws (joins_ownText laws own) (by decide) rfl (by decide), Mentions]
  simp [budgetGap]

/-- The entry on the variance is added just if no entry mentions a variance. -/
theorem told_variance (hmem : varianceGap ∉ gs) :
    varianceGap ∈ told (ownText own) ([budgetGap] ++ varianceGap :: gs) ↔
      ¬ Mentions own varianceGap.words := by
  rw [mem_told (by decide) hmem, ← Bool.not_eq_true]
  exact not_congr (covers_iff_mentions laws (by decide) (by decide) rfl (by decide) (by decide)
    (by decide))

/-- Where one text ends with "actual" and the next starts with "cost", behind the entries of the
report. -/
theorem bridges_told (own : List (Value F)) :
    Bridges "actual".toList "cost".toList ([] :: entryTexts own ++
        (told (ownText own) [budgetGap, varianceGap]).map fun g => lowered g.item) ↔
      RunsTogether own := by
  have hbudget : ¬ "cost".toList <+: lowered budgetGap.item := by
    rw [lowered_item laws (by decide)]
    exact of_letters (P := fun cs => ¬ "cost".toList <+: cs.map Char.toLower) _ rfl (by decide)
  have hend : ¬ "actual".toList <:+ lowered budgetGap.item := by
    rw [lowered_item laws (by decide)]
    exact of_letters (P := fun cs => ¬ "actual".toList <:+ cs.map Char.toLower) _ rfl (by decide)
  have hvariance : "cost".toList <+: lowered varianceGap.item := by
    rw [lowered_item laws (by decide)]
    exact of_letters (P := fun cs => "cost".toList <+: cs.map Char.toLower) _ rfl (by decide)
  have hown : Bridges "actual".toList "cost".toList ([] :: entryTexts own) ↔
      Bridges "actual".toList "cost".toList (entryTexts own) := by
    cases entryTexts own with
    | nil => simp
    | cons t texts =>
      rw [bridges_cons_cons]
      exact or_iff_right fun h => absurd h.1 (by decide)
  have hlast : (∃ t ∈ ([] :: entryTexts own).getLast?, "actual".toList <:+ t) ↔
      ∃ t ∈ (entryTexts own).getLast?, "actual".toList <:+ t := by
    cases entryTexts own with
    | nil => simp
    | cons t texts => rw [List.getLast?_cons_cons]
  have hmentions : covers ([budgetGap].foldl tell (ownText own)) varianceGap = true ↔
      Mentions own varianceGap.words :=
    covers_iff_mentions laws (by decide) (by decide) rfl (by decide) (by decide)
      (by decide)
  rw [List.foldl_cons, List.foldl_nil] at hmentions
  rw [RunsTogether, ← covers_budget laws own, ← hmentions, told]
  cases hcovers : covers (ownText own) budgetGap with
  | true =>
    -- the entry on the variance comes first, if it comes
    rw [tell, if_pos hcovers, if_pos rfl, told, told]
    cases hvarianceCovers : covers (ownText own) varianceGap with
    | true =>
      rw [if_pos rfl, List.map_nil, List.append_nil, hown]
      simp
    | false =>
      rw [if_neg nofun, told, List.map_singleton, bridges_concat, hown, ← hlast]
      exact or_congr_right ⟨fun ⟨t, ht, h, _⟩ => ⟨rfl, nofun, t, ht, h⟩,
        fun ⟨_, _, t, ht, h⟩ => ⟨t, ht, h, hvariance⟩⟩
  | false =>
    rw [if_neg nofun, List.map_cons, List.append_cons]
    have hfirst : Bridges "actual".toList "cost".toList
        ([] :: entryTexts own ++ [lowered budgetGap.item]) ↔
          Bridges "actual".toList "cost".toList (entryTexts own) := by
      rw [bridges_concat, hown]
      exact or_iff_left fun ⟨t, ht, h, h'⟩ => hbudget h'
    rw [told, told]
    cases hvarianceCovers : covers (tell (ownText own) budgetGap) varianceGap with
    | true =>
      rw [if_pos rfl, List.map_nil, List.append_nil, hfirst]
      simp
    | false =>
      rw [if_neg nofun, told, List.map_singleton, bridges_concat, hfirst]
      refine or_congr_right (iff_of_false ?_ fun h => Bool.false_ne_true h.1)
      rintro ⟨t, ht, h, -⟩
      rw [List.getLast?_concat] at ht
      cases ht
      exact hend h

/-- The entry on the actual cost is added just if the cost is mentioned nowhere, not even across
two entries. -/
theorem told_cost (hmem : costGap ∉ gs) :
    costGap ∈ told (ownText own) ([budgetGap, varianceGap] ++ costGap :: gs) ↔
      ¬ (Mentions own costGap.words ∨ RunsTogether own) := by
  rw [mem_told (by decide) hmem, ← Bool.not_eq_true]
  refine not_congr ?_
  rw [covers_iff laws (joins_foldl_tell laws own _) (by decide)]
  have hfound {w : String} (hw : w ∈ costGap.words) :
      (∃ t ∈ [] :: entryTexts own ++
          (told (ownText own) [budgetGap, varianceGap]).map fun g => lowered g.item,
        w.toList <:+: t) ↔ ∃ t ∈ entryTexts own, w.toList <:+: t :=
    exists_infix_iff laws (by decide) (by decide) (by decide) (by decide) hw
  have htwo : "actual cost".toList = "actual".toList ++ ' ' :: "cost".toList := rfl
  have hone : ' ' ∉ "actual_cost".toList ∧ "actual_cost".toList ≠ [] := by decide
  have hwords (P : String → Prop) :
      (∃ w ∈ costGap.words, P w) ↔ P "actual cost" ∨ P "actual_cost" := by simp [costGap]
  rw [hwords, infix_intercalate hone.1 hone.2, hfound (by decide), htwo,
    infix_intercalate_of_sep (by decide) (by decide), bridges_told laws, ← htwo,
    hfound (by decide), Mentions]
  simp only [hwords, and_or_left, exists_or]
  exact or_right_comm

/-! ### The pass over a report -/

variable {report report' : Dict F} {ctx : OdooContext F}

omit laws [Text] in
private theorem mem_gapsOf : g ∈ gapsOf report ctx ↔ g = budgetGap ∨ g = varianceGap ∨
    (g = costGap ∧ ctx.hasAmount = false) ∨ (g = delayGap ∧ delayDue report = true) ∨
      (g = actionsGap ∧ (report.get "recommended_actions").truthy = false) := by
  have hite {c : Bool} {g' : Gap} : (g ∈ if c = true then [] else [g']) ↔ g = g' ∧ c = false := by
    cases c <;> simp
  have hite' {c : Bool} {g' : Gap} : (g ∈ if c = true then [g'] else []) ↔ g = g' ∧ c = true := by
    cases c <;> simp
  rw [gapsOf, List.mem_append, List.mem_append, List.mem_append, hite, hite, hite']
  simp [or_assoc]

omit laws [Text] in
/-- The gaps of a report are among the known ones. -/
theorem gapsOf_subset : gapsOf report ctx ⊆ knownGaps := by
  intro g hg
  rcases mem_gapsOf.mp hg with rfl | rfl | ⟨rfl, -⟩ | ⟨rfl, -⟩ | ⟨rfl, -⟩ <;> decide

omit laws [Text] in
private theorem not_mem_ite {c : Prop} [Decidable c] {gs' : List Gap} (h : g ∉ gs) (h' : g ∉ gs') :
    g ∉ if c then gs else gs' := by
  split
  · exact h
  · exact h'

/-- The gap on the variance is told unless an entry of the report mentions it: whether a variance is
computed does not matter. -/
theorem varianceGap_mem_told :
    varianceGap ∈ told (ownText (ownEntries report)) (gapsOf report ctx) ↔
      ¬ Mentions (ownEntries report) varianceGap.words := by
  have hrest : varianceGap ∉ (if ctx.hasAmount then [] else [costGap]) ++
      ((if delayDue report then [delayGap] else []) ++
        (if (report.get "recommended_actions").truthy then [] else [actionsGap])) := by
    refine List.not_mem_append ?_ (List.not_mem_append ?_ ?_)
    all_goals exact not_mem_ite (by decide) (by decide)
  exact told_variance laws hrest

/-- The gap on the actual cost is told if the extraction has none and no entry mentions it, nor do
the entries, put together, by accident. -/
theorem costGap_mem_told : costGap ∈ told (ownText (ownEntries report)) (gapsOf report ctx) ↔
    ctx.hasAmount = false ∧
      ¬ (Mentions (ownEntries report) costGap.words ∨ RunsTogether (ownEntries report)) := by
  cases hamount : ctx.hasAmount with
  | true =>
    refine iff_of_false (fun hmem => ?_) nofun
    rcases mem_gapsOf.mp (told_subset hmem) with h | h | ⟨-, h⟩ | ⟨h, -⟩ | ⟨h, -⟩
    · exact absurd h (by decide)
    · exact absurd h (by decide)
    · rw [hamount] at h
      cases h
    · exact absurd h (by decide)
    · exact absurd h (by decide)
  | false =>
    rw [gapsOf, hamount, and_iff_right rfl]
    have hrest : costGap ∉ (if delayDue report then [delayGap] else []) ++
        (if (report.get "recommended_actions").truthy then [] else [actionsGap]) := by
      refine List.not_mem_append ?_ ?_
      all_goals exact not_mem_ite (by decide) (by decide)
    exact told_cost laws hrest

/-- A second pass adds nothing just if there is no delay entry to be added that the first pass did
not see to. -/
theorem told_again (hown : ownEntries report' = ownEntries report ++
      (told (ownText (ownEntries report)) (gapsOf report ctx)).map fun g => .str g.item)
    (hactions : (report'.get "recommended_actions").truthy =
      (report.get "recommended_actions").truthy) :
    told (ownText (ownEntries report')) (gapsOf report' ctx) = [] ↔
      (delayDue report' = true →
        delayDue report = true ∨ Mentions (ownEntries report) delayGap.words) := by
  -- the second pass searches what the first one leaves
  have htexts : entryTexts (ownEntries report') = entryTexts (ownEntries report) ++
      (told (ownText (ownEntries report)) (gapsOf report ctx)).map fun g => lowered g.item := by
    rw [hown, entryTexts, List.map_append, List.map_map]
    rfl
  have hjoins := joins_ownText laws (ownEntries report')
  rw [htexts, ← List.cons_append] at hjoins
  have hleft {g : Gap} (hg : g ∈ knownGaps) : covers (ownText (ownEntries report')) g = true ↔
      covers ((gapsOf report ctx).foldl tell (ownText (ownEntries report))) g = true := by
    rw [covers_iff laws hjoins hg, covers_iff laws (joins_foldl_tell laws _ _) hg]
  have hseen {g : Gap} (hg : g ∈ gapsOf report ctx) :
      covers (ownText (ownEntries report')) g = true :=
    (hleft (gapsOf_subset hg)).mpr (covers_foldl_tell laws (gapsOf_subset hg) hg)
  rw [told_eq_nil]
  constructor
  · intro hall hdue
    by_contra hnot
    obtain ⟨hskipped, hnone⟩ := not_or.mp hnot
    have hcovered := hall delayGap (mem_gapsOf.mpr (.inr (.inr (.inr (.inl ⟨rfl, hdue⟩)))))
    rw [hleft (by decide), covers_iff_mentions laws (by decide) (by decide) rfl (by decide)
      gapsOf_subset fun hmem => ?_] at hcovered
    · exact hnone hcovered
    · rcases mem_gapsOf.mp hmem with h | h | ⟨h, -⟩ | ⟨-, h⟩ | ⟨h, -⟩
      · exact absurd h (by decide)
      · exact absurd h (by decide)
      · exact absurd h (by decide)
      · exact hskipped h
      · exact absurd h (by decide)
  · intro hdelay g hg
    rcases mem_gapsOf.mp hg with rfl | rfl | ⟨rfl, h⟩ | ⟨rfl, h⟩ | ⟨rfl, h⟩
    · exact hseen (mem_gapsOf.mpr (.inl rfl))
    · exact hseen (mem_gapsOf.mpr (.inr (.inl rfl)))
    · exact hseen (mem_gapsOf.mpr (.inr (.inr (.inl ⟨rfl, h⟩))))
    · rcases hdelay h with hdue | ⟨t, ht, w, hw, hinfix⟩
      · exact hseen (mem_gapsOf.mpr (.inr (.inr (.inr (.inl ⟨rfl, hdue⟩)))))
      · rw [covers_iff_of_word laws hjoins (by decide) rfl (by decide)]
        refine ⟨t, List.mem_append_left _ (List.mem_cons_of_mem _ ht), ?_⟩
        rwa [← List.mem_singleton.mp hw]
    · rw [hactions] at h
      exact hseen (mem_gapsOf.mpr (.inr (.inr (.inr (.inr ⟨rfl, h⟩)))))

end Own

end DecisionCenter
