import Mathlib.Data.List.Count
import Mathlib.Data.List.Infix

/-!
# Words in joined texts

A search in texts that were joined by a separator, as `in` and patterns without the separator
make it. A word that does not hold the separator is in one of the texts (`infix_intercalate`). A
word that holds it once can also lie across the end of a text and the start of the next one:
then the one text ends with what is in front of the separator in the word, and the next begins
with what is behind it (`Bridges`, `infix_intercalate_of_sep`).

So whether a joined text holds a word can be told from the texts, one by one and in neighbouring
pairs, and a text that is joined behind the others adds only what lies in it or across the last
separator (`bridges_concat`). That is what an induction over texts that are appended one at a
time needs.

Texts can also be taken apart at a separator where it is known how many of them come before or
after it (`append_sep_inj`, `append_sep_inj_of_right`): two texts with equally many separators
in front of a cut agree on both sides of it.

Everything is stated of lists over any type with decidable equality of its separator; only the
users say that the elements are characters.
-/

namespace Py

variable {α : Type} {sep : α} {u v w xs ys : List α}

/-! ### One separator -/

/-- What is in front of a separator starts with the words without one that the whole starts
with. -/
theorem prefix_append_sep (hv : sep ∉ v) : v <+: xs ++ sep :: ys ↔ v <+: xs := by
  refine ⟨fun h => ?_, fun h => h.trans (List.prefix_append _ _)⟩
  rcases List.prefix_or_prefix_of_prefix h (List.prefix_append xs (sep :: ys)) with hle | ⟨t, rfl⟩
  · exact hle
  · rw [List.prefix_append_right_inj] at h
    cases t with
    | nil => simp
    | cons c t =>
      obtain ⟨rfl, -⟩ := List.cons_prefix_cons.mp h
      simp at hv

/-- A word without the separator lies on one side of it. Were it to reach across, the separator
would be one of its letters. -/
theorem infix_append_sep (hw : sep ∉ w) : w <:+: xs ++ sep :: ys ↔ w <:+: xs ∨ w <:+: ys := by
  rw [List.infix_append_iff, List.infix_cons_iff]
  constructor
  · rintro (h | (h | h) | ⟨l₁, l₂, rfl, h₁, h₂⟩)
    · exact .inl h
    · cases w with
      | nil => exact .inl (List.nil_infix)
      | cons c w =>
        obtain ⟨rfl, -⟩ := List.cons_prefix_cons.mp h
        simp at hw
    · exact .inr h
    · cases l₂ with
      | nil => exact .inl (by simpa using h₁.isInfix)
      | cons c l₂ =>
        obtain ⟨rfl, -⟩ := List.cons_prefix_cons.mp h₂
        simp at hw
  · rintro (h | h)
    · exact .inl h
    · exact .inr (.inl (.inr h))

/-- A word with one separator lies on one side of another, or across it. Across it, its own
separator is that one, so that the two halves end and begin there. -/
theorem infix_append_sep_of_sep (hu : sep ∉ u) (hv : sep ∉ v) :
    u ++ sep :: v <:+: xs ++ sep :: ys ↔
      u ++ sep :: v <:+: xs ∨ u ++ sep :: v <:+: ys ∨ u <:+ xs ∧ v <+: ys := by
  rw [List.infix_append_iff, List.infix_cons_iff]
  constructor
  · rintro (h | (h | h) | ⟨l₁, l₂, hsplit, h₁, h₂⟩)
    · exact .inl h
    · cases u with
      | nil =>
        obtain ⟨-, h⟩ := List.cons_prefix_cons.mp h
        exact .inr (.inr ⟨List.nil_suffix, h⟩)
      | cons c u =>
        obtain ⟨rfl, -⟩ := List.cons_prefix_cons.mp h
        simp at hu
    · exact .inr (.inl h)
    · cases l₂ with
      | nil =>
        rw [List.append_nil] at hsplit
        exact .inl (hsplit ▸ h₁.isInfix)
      | cons c l₂ =>
        obtain ⟨rfl, hrest⟩ := List.cons_prefix_cons.mp h₂
        -- the separator of the word is the one between the two sides
        rcases List.append_eq_append_iff.mp hsplit with ⟨as, rfl, has⟩ | ⟨bs, rfl, hbs⟩
        · cases as with
          | nil =>
            obtain ⟨-, rfl⟩ := List.cons.inj has
            exact .inr (.inr ⟨by simpa using h₁, hrest⟩)
          | cons d as =>
            obtain ⟨-, rfl⟩ := List.cons.inj has
            simp at hv
        · cases bs with
          | nil =>
            obtain ⟨-, rfl⟩ := List.cons.inj hbs
            exact .inr (.inr ⟨by simpa using h₁, hrest⟩)
          | cons d bs =>
            obtain ⟨rfl, -⟩ := List.cons.inj hbs
            simp at hu
  · rintro (h | h | ⟨h₁, h₂⟩)
    · exact .inl h
    · exact .inr (.inl (.inr h))
    · exact .inr (.inr ⟨u, sep :: v, rfl, h₁, List.cons_prefix_cons.mpr ⟨rfl, h₂⟩⟩)

/-! ### Cuts at a separator -/

section Cuts

variable [DecidableEq α] {xs' ys' : List α}

/-- The separator at which a text is cut is known by how many come before it. -/
theorem append_sep_inj (hcount : xs.count sep = xs'.count sep)
    (h : xs ++ sep :: ys = xs' ++ sep :: ys') : xs = xs' ∧ ys = ys' := by
  rcases List.append_eq_append_iff.mp h with ⟨as, rfl, has⟩ | ⟨bs, rfl, hbs⟩
  · cases as with
    | nil => exact ⟨(List.append_nil xs).symm, (List.cons.inj has).2⟩
    | cons c as =>
      obtain ⟨rfl, -⟩ := List.cons.inj has
      simp at hcount
  · cases bs with
    | nil => exact ⟨List.append_nil xs', (List.cons.inj hbs).2.symm⟩
    | cons c bs =>
      obtain ⟨rfl, -⟩ := List.cons.inj hbs
      simp at hcount

/-- And by how many come after it. -/
theorem append_sep_inj_of_right (hcount : ys.count sep = ys'.count sep)
    (h : xs ++ sep :: ys = xs' ++ sep :: ys') : xs = xs' ∧ ys = ys' := by
  have htotal := congrArg (List.count sep) h
  simp only [List.count_append, List.count_cons_self] at htotal
  exact append_sep_inj (by omega) h

end Cuts

/-! ### Joined texts -/

variable {texts : List (List α)}

/-- One text ends with `u` and the next starts with `v`. -/
def Bridges (u v : List α) (texts : List (List α)) : Prop :=
  ∃ p ∈ texts.zip texts.tail, u <:+ p.1 ∧ v <+: p.2

@[simp] theorem not_bridges_nil : ¬ Bridges u v [] := by simp [Bridges]

@[simp] theorem not_bridges_singleton : ¬ Bridges u v [xs] := by simp [Bridges]

@[simp] theorem bridges_cons_cons :
    Bridges u v (xs :: ys :: texts) ↔ (u <:+ xs ∧ v <+: ys) ∨ Bridges u v (ys :: texts) := by
  simp [Bridges]

/-- The first text of a joined list stands in front, with a separator behind it. -/
theorem intercalate_cons_cons :
    [sep].intercalate (xs :: ys :: texts) = xs ++ sep :: [sep].intercalate (ys :: texts) := by
  simp

/-- A text more is joined behind the others. -/
theorem intercalate_concat (hne : texts ≠ []) :
    [sep].intercalate (texts ++ [xs]) = [sep].intercalate texts ++ sep :: xs := by
  induction texts with
  | nil => exact absurd rfl hne
  | cons x texts ih =>
    cases texts with
    | nil => simp
    | cons y texts =>
      rw [List.cons_append, List.cons_append, intercalate_cons_cons, ← List.cons_append,
        ih (List.cons_ne_nil _ _), intercalate_cons_cons, List.append_assoc, List.cons_append]

/-- It goes on from the last of them. -/
theorem bridges_concat : Bridges u v (texts ++ [xs]) ↔
    Bridges u v texts ∨ ∃ t ∈ texts.getLast?, u <:+ t ∧ v <+: xs := by
  induction texts with
  | nil => simp
  | cons x texts ih =>
    cases texts with
    | nil => simp
    | cons y texts =>
      rw [List.cons_append, List.cons_append, bridges_cons_cons, ← List.cons_append, ih,
        bridges_cons_cons, List.getLast?_cons_cons, or_assoc]

/-- Joined texts start with the words without the separator that the first of them starts with. -/
theorem prefix_intercalate (hv : sep ∉ v) :
    v <+: [sep].intercalate (xs :: texts) ↔ v <+: xs := by
  cases texts with
  | nil => simp
  | cons y texts => rw [intercalate_cons_cons, prefix_append_sep hv]

/-- A word without the separator that is in joined texts is in one of them. -/
theorem infix_intercalate (hw : sep ∉ w) (hne : w ≠ []) :
    w <:+: [sep].intercalate texts ↔ ∃ t ∈ texts, w <:+: t := by
  induction texts with
  | nil => simpa using hne
  | cons x texts ih =>
    cases texts with
    | nil => simp
    | cons y texts =>
      rw [intercalate_cons_cons, infix_append_sep hw, ih, List.exists_mem_cons_iff _ x]

/-- A word with one separator that is in joined texts is in one of them or lies across two. The
texts may be empty, and hold separators of their own. -/
theorem infix_intercalate_of_sep (hu : sep ∉ u) (hv : sep ∉ v) :
    u ++ sep :: v <:+: [sep].intercalate texts ↔
      (∃ t ∈ texts, u ++ sep :: v <:+: t) ∨ Bridges u v texts := by
  induction texts with
  | nil => simp
  | cons x texts ih =>
    cases texts with
    | nil => simp
    | cons y texts =>
      rw [intercalate_cons_cons, infix_append_sep_of_sep hu hv, ih, prefix_intercalate hv,
        bridges_cons_cons, List.exists_mem_cons_iff _ x]
      constructor
      · rintro (h | (h | h) | h)
        · exact .inl (.inl h)
        · exact .inl (.inr h)
        · exact .inr (.inr h)
        · exact .inr (.inl h)
      · rintro ((h | h) | h | h)
        · exact .inl h
        · exact .inr (.inl (.inl h))
        · exact .inr (.inr h)
        · exact .inr (.inl (.inr h))

end Py
