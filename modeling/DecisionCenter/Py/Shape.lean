import DecisionCenter.Py.Regex

/-!
# The shapes of a pattern's words

The shape of a text has lower-case letters and one blank for every run of white space. Two words
of a pattern that ignores case and writes white space as `\s+` differ only in what their shapes
leave out, so that a pattern made of letters and of runs of white space (`plain`) has finitely
many shapes, which `Regex.shapes` lists (`shape_mem_shapes`).

How the words of such a pattern can overlap each other, or a given text, is then a question
about finitely many shapes, and can be decided. For this the shape has to go along with the ways
in which texts are cut and joined: the shape of a text that ends with a word ends with the shape
of the word (`suffix_shape_append`), shapes are parted cleanly in front of a character that is
no white space (`shape_append_of_not_space`), and a text whose first character is no white space
has a shape that begins with its letter.

A shape is built from the right by `put`, which drops a blank in front of a blank; to squeeze
twice is to squeeze once (`foldr_put_foldr_put`).
-/

namespace Py

def canon (c : Char) : Char := if isSpace c then ' ' else foldCase c

/-- Put a character in front; a blank in front of a blank is dropped. -/
def put (c : Char) (s : List Char) : List Char :=
  if c = ' ' ∧ s.head? = some ' ' then s else c :: s

/-- The text with lower-case letters and a single blank for every run of white space. -/
def shape (cs : List Char) : List Char := (cs.map canon).foldr put []

/-- White space has no case. The capitals are in a range of their own, and the letters that fold to
another one are no white space. -/
theorem foldCase_of_isSpace {c : Char} (h : isSpace c = true) : foldCase c = c := by
  have hn : c.toNat < 65 ∨ 90 < c.toNat := by
    simp only [isSpace, Bool.or_eq_true, Bool.and_eq_true, decide_eq_true_eq, beq_iff_eq] at h
    omega
  have hlower : c.toLower = c := by
    have hrange : ¬ (c.val ≥ 'A'.val ∧ c.val ≤ 'Z'.val) := by
      intro ⟨h₁, h₂⟩
      have h₁ : 65 ≤ c.toNat := h₁
      have h₂ : c.toNat ≤ 90 := h₂
      omega
    unfold Char.toLower
    rw [dif_neg hrange]
  have hother (d : Char) (hd : isSpace d = false) : (c == d) = false := by
    rw [beq_eq_false_iff_ne]
    rintro rfl
    rw [h] at hd
    exact Bool.noConfusion hd
  simp only [foldCase, hother '\u0130' (by decide), hother '\u0131' (by decide),
    hother '\u017f' (by decide), hother '\u212a' (by decide), Bool.or_self,
    Bool.false_eq_true, if_false, hlower]

/-- White space is what is represented by a blank. No letter is folded to one. -/
theorem canon_eq_blank {c : Char} : canon c = ' ' ↔ isSpace c = true := by
  constructor
  · intro h
    rw [canon] at h
    split_ifs at h with hspace
    · exact hspace
    · rw [foldCase] at h
      split_ifs at h
      · exact absurd h (by decide)
      · exact absurd h (by decide)
      · exact absurd h (by decide)
      · unfold Char.toLower at h
        split_ifs at h with hrange
        · have hval : c.val + 32 = 32 := congrArg Char.val h
          have h₁ : 65 ≤ c.val.toNat := hrange.1
          have h₂ : c.val.toNat ≤ 90 := hrange.2
          have hnat := congrArg UInt32.toNat hval
          rw [UInt32.toNat_add] at hnat
          simp only [UInt32.reduceToNat] at hnat
          omega
        · rw [h]
          decide
  · exact fun h => if_pos h

@[simp] theorem shape_nil : shape [] = [] := rfl

@[simp] theorem shape_cons (c : Char) (cs : List Char) :
    shape (c :: cs) = put (canon c) (shape cs) := by
  rw [shape, List.map_cons, List.foldr_cons, shape]

/-- The shape begins with the character that was put in front. -/
theorem head?_put (c : Char) (s : List Char) : (put c s).head? = some c := by
  rw [put]
  split_ifs with h
  · rw [h.2, h.1]
  · rfl

/-- A shape with a character in front is not empty. -/
theorem put_ne_nil (c : Char) (s : List Char) : put c s ≠ [] := by
  rw [put]
  split_ifs with h
  · rintro rfl
    exact absurd h.2 (by simp)
  · exact List.cons_ne_nil _ _

/-- What was there before stands at its end. -/
theorem suffix_put (c : Char) (s : List Char) : s <:+ put c s := by
  rw [put]
  split_ifs
  · exact List.suffix_refl s
  · exact List.suffix_cons c s

/-- The characters of the new shape. -/
theorem mem_put {c x : Char} {s : List Char} : x ∈ put c s ↔ x = c ∨ x ∈ s := by
  rw [put]
  split_ifs with h
  · refine ⟨.inr, ?_⟩
    rintro (rfl | hx)
    · rw [h.1]
      exact List.mem_of_mem_head? h.2
    · exact hx
  · exact List.mem_cons

/-- The characters of a shape represent those of the text. -/
theorem mem_shape {x : Char} {cs : List Char} : x ∈ shape cs ↔ ∃ c ∈ cs, canon c = x := by
  induction cs with
  | nil => simp
  | cons c cs ih => rw [shape_cons, mem_put, ih, List.exists_mem_cons_iff, eq_comm]

/-- Only the empty text has the empty shape. -/
theorem shape_eq_nil {cs : List Char} : shape cs = [] ↔ cs = [] := by
  cases cs with
  | nil => simp
  | cons c cs => exact iff_of_false (put_ne_nil _ _) (List.cons_ne_nil _ _)

/-- White space has the shape of one blank. -/
theorem shape_of_all_space {cs : List Char} (h : cs.all isSpace = true) (hne : cs ≠ []) :
    shape cs = [' '] := by
  induction cs with
  | nil => exact absurd rfl hne
  | cons c cs ih =>
    rw [List.all_cons, Bool.and_eq_true] at h
    rw [shape_cons, canon_eq_blank.mpr h.1]
    cases cs with
    | nil => rfl
    | cons d cs => rw [ih h.2 (List.cons_ne_nil _ _)]; rfl

/-- The first character is no white space where the shape begins with a letter. -/
theorem exists_cons_of_head?_shape {cs : List Char} {x : Char} (hx : x ≠ ' ')
    (h : (shape cs).head? = some x) : ∃ c t, cs = c :: t ∧ isSpace c = false := by
  cases cs with
  | nil => exact absurd h (Option.some_ne_none _).symm
  | cons c t =>
    refine ⟨c, t, rfl, ?_⟩
    rw [shape_cons, head?_put, Option.some.injEq] at h
    rw [Bool.eq_false_iff]
    intro hspace
    rw [canon_eq_blank.mpr hspace] at h
    exact hx h.symm

/-- To squeeze twice is to squeeze once. A blank that is dropped has another one behind it, also
after the first time. -/
theorem foldr_put_foldr_put (xs t : List Char) :
    (xs.foldr put []).foldr put t = xs.foldr put t := by
  induction xs with
  | nil => rfl
  | cons x xs ih =>
    rw [List.foldr_cons, List.foldr_cons, put]
    split_ifs with h
    · -- the blank that is dropped is still there as the head of the rest
      rw [ih]
      obtain ⟨s, hs⟩ : ∃ s, xs.foldr put [] = ' ' :: s := by
        cases hxs : xs.foldr put [] with
        | nil =>
          rw [hxs] at h
          exact absurd h.2 (by simp)
        | cons y s =>
          rw [hxs, List.head?_cons, Option.some.injEq] at h
          exact ⟨s, by rw [h.2]⟩
      have hhead : (xs.foldr put t).head? = some ' ' := by
        rw [← ih, hs, List.foldr_cons, put]
        split_ifs with h'
        · exact h'.2
        · rfl
      rw [put, if_pos ⟨h.1, hhead⟩]
    · rw [List.foldr_cons, ih]

/-- The shape of two texts, the one behind the other: where they meet, white space runs together. -/
theorem shape_append (a b : List Char) : shape (a ++ b) = (shape a).foldr put (shape b) := by
  rw [shape, List.map_append, List.foldr_append, shape, shape, foldr_put_foldr_put]

/-- The shape of two texts, the one behind the other, ends with that of the second. -/
theorem suffix_shape_append (a b : List Char) : shape b <:+ shape (a ++ b) := by
  induction a with
  | nil => exact List.suffix_refl _
  | cons c a ih => exact ih.trans (suffix_put _ _)

/-- A character put in front respects prefixes. A blank is dropped in front of a blank, which both
texts begin with or neither. -/
theorem put_mono {c : Char} {s t : List Char} (h : s <+: t) : put c s <+: put c t := by
  cases s with
  | nil =>
    have hnil : put c [] = [c] := by rw [put, if_neg (by simp)]
    rw [hnil, put]
    split_ifs with ht
    · obtain ⟨t', rfl⟩ : ∃ t', t = ' ' :: t' := by
        cases t with
        | nil => exact absurd ht.2 (by simp)
        | cons d t => exact ⟨t, by rw [(Option.some.inj ht.2 : d = ' ')]⟩
      rw [ht.1]
      exact ⟨t', rfl⟩
    · exact ⟨t, rfl⟩
  | cons d s =>
    obtain ⟨t', rfl⟩ := h
    rw [put, put, List.cons_append, List.head?_cons, List.head?_cons]
    split_ifs
    · exact ⟨t', rfl⟩
    · exact ⟨t', rfl⟩

/-- The shape of two texts, the one behind the other, begins with that of the first. -/
theorem prefix_shape_append (a b : List Char) : shape a <+: shape (a ++ b) := by
  induction a with
  | nil => exact List.nil_prefix
  | cons c a ih => exact put_mono ih

/-- Two texts are parted cleanly in front of a character that is no white space. -/
theorem shape_append_of_not_space {c : Char} (hc : isSpace c = false) (a b : List Char) :
    shape (a ++ c :: b) = shape a ++ shape (c :: b) := by
  have hne : canon c ≠ ' ' := fun h => by
    rw [canon_eq_blank.mp h] at hc
    exact Bool.noConfusion hc
  induction a with
  | nil => rfl
  | cons d a ih =>
    rw [List.cons_append, shape_cons, ih, shape_cons d a]
    cases shape a with
    | nil => simp [put, hne]
    | cons x s =>
      rw [put, put, List.cons_append, List.head?_cons, List.head?_cons]
      split_ifs <;> rfl

namespace Regex

/-- Whether the pattern is made of letters and runs of white space. -/
def plain : Regex → Bool
  | never | empty | start => true
  | one (.letter l) => !isSpace l
  | one .space | atLeast _ .space => true
  | one (.set _) | atLeast _ _ => false
  | seq r s | alt r s => r.plain && s.plain

/-- The shapes of the words of a plain pattern. -/
def shapes : Regex → Bool → List (List Char)
  | never, _ => []
  | empty, _ => [[]]
  | start, atStart => if atStart then [[]] else []
  | one (.letter l), _ => [[l]]
  | one .space, _ => [[' ']]
  | atLeast 0 .space, _ => [[], [' ']]
  | atLeast (_ + 1) .space, _ => [[' ']]
  | one (.set _), _ | atLeast _ _, _ => []
  | seq r s, atStart =>
    (r.shapes atStart).flatMap fun x =>
      (s.shapes (atStart && x.isEmpty)).map fun y => x.foldr put y
  | alt r s, atStart => r.shapes atStart ++ s.shapes atStart

/-- What a pattern accepts has one of its shapes. The induction is on the pattern; a repetition adds
to a shape at most once. -/
theorem shape_mem_shapes {r : Regex} {atStart : Bool} {w : List Char} (hr : r.plain = true)
    (h : r.Accepts atStart w) : shape w ∈ r.shapes atStart := by
  induction r generalizing atStart w with
  | never => exact absurd h id
  | empty =>
    obtain rfl : w = [] := h
    exact List.mem_singleton.mpr rfl
  | start =>
    obtain ⟨rfl, rfl⟩ := h
    exact List.mem_singleton.mpr rfl
  | one k =>
    obtain ⟨c, hc, rfl⟩ := h
    cases k with
    | letter l =>
      have hfold : foldCase c = l := eq_of_beq hc
      have hspace : isSpace c = false := by
        rw [Bool.eq_false_iff]
        intro hspace
        rw [plain, ← hfold, foldCase_of_isSpace hspace, hspace] at hr
        exact Bool.noConfusion hr
      have hcanon : canon c = l := by rw [canon, hspace, ← hfold]; rfl
      rw [shape_cons, hcanon, shape_nil, shapes, put, if_neg (by simp)]
      exact List.mem_singleton.mpr rfl
    | space =>
      have hall : [c].all isSpace = true := by
        rw [List.all_cons, List.all_nil, Bool.and_true]
        exact hc
      rw [shape_of_all_space hall (List.cons_ne_nil _ _)]
      exact List.mem_singleton.mpr rfl
    | set p => exact absurd hr Bool.noConfusion
  -- a run of blanks has the shape of one blank, or of none when it is empty
  | atLeast n k =>
    cases k with
    | space =>
      obtain ⟨hn, hw⟩ := h
      by_cases hnil : w = []
      · obtain rfl : n = 0 := by
          rw [hnil] at hn
          exact Nat.le_zero.mp hn
        rw [hnil]
        exact List.mem_cons_self
      · rw [shape_of_all_space hw hnil]
        cases n with
        | zero => exact List.mem_cons_of_mem _ (List.mem_singleton.mpr rfl)
        | succ n => exact List.mem_singleton.mpr rfl
    | letter l => exact absurd hr Bool.noConfusion
    | set p => exact absurd hr Bool.noConfusion
  -- the second half stands at the start just if the first matched nothing
  | seq r s ihr ihs =>
    rw [plain, Bool.and_eq_true] at hr
    obtain ⟨w₁, w₂, rfl, h₁, h₂⟩ := h
    have hflag : (shape w₁).isEmpty = w₁.isEmpty := by
      rw [Bool.eq_iff_iff, List.isEmpty_iff, List.isEmpty_iff, shape_eq_nil]
    rw [shapes, List.mem_flatMap]
    refine ⟨shape w₁, ihr hr.1 h₁, List.mem_map.mpr ⟨shape w₂, ?_, (shape_append w₁ w₂).symm⟩⟩
    rw [hflag]
    exact ihs hr.2 h₂
  | alt r s ihr ihs =>
    rw [plain, Bool.and_eq_true] at hr
    rw [shapes, List.mem_append]
    exact h.imp (ihr hr.1) (ihs hr.2)

end Regex

end Py
