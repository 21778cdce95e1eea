import Mathlib.Data.String.Basic

/-!
# Splitting text

`String.splitOn` on the characters of a string: the text is cut at every occurrence of the
separator, from the left, and occurrences do not overlap. `cutAt` is this cut on lists, by
recursion on the text, and `splitOn_eq` says that the library's loop computes it.

That loop works with byte positions in two strings and a partial match, which it gives up by
going back; so the induction behind `splitOn_eq` is on what is left of the text, with the
current piece and the matched part of the separator as lists (`splitOnAux_eq`), and
`unoffsetBy_append` does the arithmetic of going back.

With the cut on lists a piece of a text that was built by joining can be computed: a text
without the separator is one piece (`cutAt_of_absent`), and the separator itself ends one
(`cutAt_separator`). This is all that callers use, who never see positions.
-/

namespace Py

/-! ### Cutting a list -/

variable {α : Type} [DecidableEq α]

/-- Cut a list at the separator. `piece` is what has been read of the current piece, and so many
elements, the rest of a separator, are still to be passed over. -/
def cutAt (sep : List α) : ℕ → List α → List α → List (List α)
  | _, piece, [] => [piece]
  | skip + 1, piece, _ :: cs => cutAt sep skip piece cs
  | 0, piece, c :: cs =>
    if sep <+: c :: cs then piece :: cutAt sep (sep.length - 1) [] cs
    else cutAt sep 0 (piece ++ [c]) cs

/-- The characters that are to be skipped are skipped. -/
theorem cutAt_skip (sep piece xs ys : List α) :
    cutAt sep xs.length piece (xs ++ ys) = cutAt sep 0 piece ys := by
  induction xs with
  | nil => rfl
  | cons x xs ih => exact ih

/-- The separator itself ends a piece. -/
theorem cutAt_separator {sep : List α} (h : sep ≠ []) (piece ys : List α) :
    cutAt sep 0 piece (sep ++ ys) = piece :: cutAt sep 0 [] ys := by
  cases sep with
  | nil => exact absurd rfl h
  | cons c cs =>
    have hprefix : c :: cs <+: c :: (cs ++ ys) := List.prefix_append (c :: cs) ys
    rw [List.cons_append, cutAt, if_pos hprefix]
    exact congrArg _ (cutAt_skip (c :: cs) [] cs ys)

/-- Text without the separator is one piece. -/
theorem cutAt_of_absent {sep piece xs : List α} (h : ¬ sep <:+: xs) :
    cutAt sep 0 piece xs = [piece ++ xs] := by
  induction xs generalizing piece with
  | nil => simp [cutAt]
  | cons x xs ih =>
    have hrest : ¬ sep <:+: xs := fun hinfix => h (List.infix_cons hinfix)
    rw [cutAt, if_neg fun hprefix => h hprefix.isInfix, ih hrest, List.append_assoc]
    rfl

/-! ### `splitOn` -/

section SplitOn

open String

/-- The position so many characters back. -/
theorem unoffsetBy_append (l p : List Char) :
    Pos.Raw.unoffsetBy ⟨utf8Len (l ++ p)⟩ ⟨utf8Len p⟩ = ⟨utf8Len l⟩ := by
  simp [Pos.Raw.unoffsetBy]

/-- The loop of `splitOn`, where `piece` is the current piece and `p` the part of the separator that
has been matched since. -/
theorem splitOnAux_eq (l piece p q rest : List Char) (hq : q ≠ []) (r : List String) :
    String.splitOnAux (ofList (l ++ piece ++ p ++ rest)) (ofList (p ++ q)) ⟨utf8Len l⟩
        ⟨utf8Len (l ++ piece ++ p)⟩ ⟨utf8Len p⟩ r =
      r.reverse ++ (cutAt (p ++ q) 0 piece (p ++ rest)).map ofList := by
  unfold String.splitOnAux
  cases rest with
  | nil =>
    -- The text ends within the separator, if at all.
    rw [if_pos ((atEnd_of_valid _ []).mpr rfl)]
    have hshort : ¬ p ++ q <:+: p ++ [] := by
      intro hinfix
      have hle := hinfix.length_le
      have hpos := List.length_pos_iff.mpr hq
      simp only [List.length_append, List.append_nil] at hle
      omega
    have hextract : Pos.Raw.extract (ofList (l ++ piece ++ p ++ [])) ⟨utf8Len l⟩
        ⟨utf8Len (l ++ piece ++ p)⟩ = ofList (piece ++ p) := by
      have h := extract_of_valid l (piece ++ p) []
      simpa using h
    rw [cutAt_of_absent hshort, hextract]
    simp
  | cons c rest =>
    have hnot : ¬ Pos.Raw.atEnd (ofList (l ++ piece ++ p ++ c :: rest))
        ⟨utf8Len (l ++ piece ++ p)⟩ = true := by
      rw [atEnd_of_valid]
      exact List.cons_ne_nil _ _
    rw [if_neg hnot, get_of_valid, get_of_valid]
    cases q with
    | nil => exact absurd rfl hq
    | cons d q =>
      have hnext :
          Pos.Raw.next (ofList (l ++ piece ++ p ++ c :: rest)) ⟨utf8Len (l ++ piece ++ p)⟩ =
          ⟨utf8Len (l ++ piece ++ (p ++ [c]))⟩ := by
        rw [next_of_valid]
        simp [Nat.add_assoc]
      have htext : l ++ piece ++ p ++ c :: rest = l ++ piece ++ (p ++ [c]) ++ rest := by simp
      by_cases hc : c = d
      · subst hc
        have hsep : p ++ c :: q = (p ++ [c]) ++ q := by simp
        have hnext' : Pos.Raw.next (ofList (p ++ c :: q)) ⟨utf8Len p⟩ = ⟨utf8Len (p ++ [c])⟩ := by
          rw [next_of_valid]
          simp
        simp only [List.headD_cons, beq_self_eq_true, if_true, hnext, hnext']
        rw [htext, hsep, if_congr (atEnd_of_valid (p ++ [c]) q) rfl rfl]
        by_cases hlast : q = []
        · -- The separator is complete: a piece ends before it.
          subst hlast
          have ih := splitOnAux_eq (l ++ piece ++ (p ++ [c])) [] [] (p ++ [c]) rest (by simp)
            (ofList piece :: r)
          have hpiece : Pos.Raw.extract (ofList (l ++ piece ++ (p ++ [c]) ++ rest)) ⟨utf8Len l⟩
              (Pos.Raw.unoffsetBy ⟨utf8Len (l ++ piece ++ (p ++ [c]))⟩ ⟨utf8Len (p ++ [c])⟩) =
                ofList piece := by
            rw [unoffsetBy_append, utf8Len_append, List.append_assoc]
            exact extract_of_valid l piece ((p ++ [c]) ++ rest)
          rw [if_pos rfl, hpiece]
          have hcut : cutAt (p ++ [c]) 0 piece (p ++ [c] ++ rest) =
              piece :: cutAt (p ++ [c]) 0 [] rest := cutAt_separator (by simp) piece rest
          have hzero : (0 : Pos.Raw) = ⟨utf8Len []⟩ := rfl
          simp only [List.append_nil, List.nil_append] at ih
          have hrest : p ++ c :: rest = (p ++ [c]) ++ rest := by simp
          rw [List.append_nil, hzero, ih, hrest, hcut]
          simp
        · rw [if_neg hlast]
          have ih := splitOnAux_eq l piece (p ++ [c]) q rest hlast r
          rw [ih, ← hsep]
          simp
      · -- A mismatch: the current piece goes on for one more character.
        simp only [List.headD_cons, beq_iff_eq, hc, if_false]
        obtain ⟨e, tail, htail⟩ : ∃ e tail, p ++ c :: rest = e :: tail :=
          List.exists_cons_of_ne_nil (by simp)
        have ih := splitOnAux_eq l (piece ++ [e]) [] (p ++ d :: q) tail (by simp) r
        have htext' : l ++ piece ++ p ++ c :: rest = l ++ piece ++ e :: tail := by
          rw [← htail, List.append_assoc (l ++ piece)]
        have hback : Pos.Raw.next (ofList (l ++ piece ++ e :: tail))
            (Pos.Raw.unoffsetBy ⟨utf8Len (l ++ piece ++ p)⟩ ⟨utf8Len p⟩) =
              ⟨utf8Len (l ++ (piece ++ [e]))⟩ := by
          rw [unoffsetBy_append, next_of_valid]
          simp [Nat.add_assoc]
        have hprefix : ¬ p ++ d :: q <+: e :: tail := by
          rw [← htail, List.prefix_append_right_inj, List.cons_prefix_cons]
          exact fun h => hc h.1.symm
        have hzero : (0 : Pos.Raw) = ⟨utf8Len []⟩ := rfl
        simp only [List.append_nil, List.nil_append] at ih
        rw [htail, cutAt, if_neg hprefix, ← ih, htext', hback, hzero, List.append_assoc l piece,
          List.append_assoc l (piece ++ [e]), List.append_assoc piece]
        simp
termination_by ((p ++ rest).length, rest.length)
decreasing_by
  · simp only [Prod.lex_def, List.length_append, List.length_cons, List.length_nil]
    omega
  · simp only [Prod.lex_def, List.length_append, List.length_cons, List.length_nil]
    omega
  · have hlength := congrArg List.length htail
    simp only [List.length_append, List.length_cons] at hlength
    simp only [Prod.lex_def, List.length_append, List.length_cons, List.length_nil]
    omega

/-- `splitOn` cuts the characters at the separator. -/
theorem splitOn_eq {s sep : String} (h : sep ≠ "") :
    s.splitOn sep = (cutAt sep.toList 0 [] s.toList).map ofList := by
  have hsep : sep.toList ≠ [] := fun hnil => h (String.toList_eq_nil_iff.mp hnil)
  have hloop := splitOnAux_eq [] [] [] sep.toList s.toList hsep []
  simp only [List.nil_append, ofList_toList, List.reverse_nil] at hloop
  rw [String.splitOn, if_neg (by simpa using h)]
  exact hloop

end SplitOn

end Py
