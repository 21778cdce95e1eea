import Mathlib.Data.List.Infix

/-!
# Regular expressions and substitution

Patterns with the start anchor, character classes, greedy repetition of a class, sequence and
alternative, as the patterns of the program have them. `rests` is the backtracking matcher: what
a pattern can leave of a text, the preferred match first. `Accepts` says which words a pattern
matches, and the two agree (`mem_rests`); a pattern without the anchor matches the same words
everywhere.

`sub` replaces the matches from left to right, each by a function of the match. Its run cuts the
text into pieces, each of them a character that is kept or a match that is replaced, and
everything that is known of a result is read off the pieces. `Scan` says that the pieces are the
matcher's from left to right, and `exists_cut` finds the piece at a position of the text.

Three facts come of that. A text in which no match begins is left as it is (`sub_eq_self`). A
stretch of the result that is no part of a replacement was kept, and so stands in the text
(`exists_kept`). And if the replacement stands in delimiters, which no word of the pattern
holds, and holds no such word itself, then there is no match left in the result
(`not_accepts_sub`): a match would have to be a stretch that was kept, and where one is possible
one is replaced.

Patterns that match the empty word are left out: the run does not look for empty matches, and
the lemmas about it ask that the pattern has none.
-/

namespace Py

/-- `str.isspace` of one character, which is what `\s` matches. -/
def isSpace (c : Char) : Bool :=
  let n := c.toNat
  (9 ≤ n && n ≤ 13) || (28 ≤ n && n ≤ 32) || n == 133 || n == 160 || n == 5760 ||
    (8192 ≤ n && n ≤ 8202) || n == 8232 || n == 8233 || n == 8239 || n == 8287 || n == 12288

/-- The lower-case ASCII letter that a pattern ignoring case takes a character for. Besides the
capitals these are the dotted and the dotless i, the long s and the sign for kelvin. -/
def foldCase (c : Char) : Char :=
  if c == '\u0130' || c == '\u0131' then 'i'
  else if c == '\u017f' then 's'
  else if c == '\u212a' then 'k'
  else c.toLower

/-- What one character is matched by. -/
inductive CharClass where
  /-- The character, in any case. -/
  | letter (c : Char)
  /-- `\s` -/
  | space
  | set (p : Char → Bool)

def CharClass.holds : CharClass → Char → Bool
  | letter l, c => foldCase c == l
  | space, c => isSpace c
  | set p, c => p c

inductive Regex where
  /-- No match anywhere. -/
  | never
  | empty
  /-- `^`, the start of the text. -/
  | start
  | one (k : CharClass)
  /-- `k*`, `k+`, `k{n,}`: as many as there are. -/
  | atLeast (n : ℕ) (k : CharClass)
  | seq (r s : Regex)
  | alt (r s : Regex)

namespace Regex

/-- The letters of a word, in any case. -/
def word (s : String) : Regex := s.toList.foldr (fun c r => seq (one (.letter c)) r) empty

/-- `r?` -/
def opt (r : Regex) : Regex := alt r empty

def sequence (rs : List Regex) : Regex := rs.foldr seq empty

/-- `r|s|…` -/
def anyOf (rs : List Regex) : Regex := rs.foldr alt never

/-! ### What a pattern matches -/

/-- The words a pattern matches, at the start of the text or elsewhere. -/
def Accepts : Regex → Bool → List Char → Prop
  | never, _, _ => False
  | empty, _, w => w = []
  | start, atStart, w => atStart = true ∧ w = []
  | one k, _, w => ∃ c, k.holds c = true ∧ w = [c]
  | atLeast n k, _, w => n ≤ w.length ∧ w.all k.holds = true
  | seq r s, atStart, w =>
    ∃ w₁ w₂, w = w₁ ++ w₂ ∧ r.Accepts atStart w₁ ∧ s.Accepts (atStart && w₁.isEmpty) w₂
  | alt r s, atStart, w => r.Accepts atStart w ∨ s.Accepts atStart w

/-- What a repetition can leave, the longest match first. -/
def greedyRests (p : Char → Bool) : List Char → List (List Char)
  | [] => [[]]
  | c :: cs => if p c then greedyRests p cs ++ [c :: cs] else [c :: cs]

def atLeastRests (p : Char → Bool) : ℕ → List Char → List (List Char)
  | 0, cs => greedyRests p cs
  | _ + 1, [] => []
  | n + 1, c :: cs => if p c then atLeastRests p n cs else []

/-- What the matches at a position leave of the text from there on, in the order in which the
engine tries them. -/
def rests : Regex → Bool → List Char → List (List Char)
  | never, _, _ => []
  | empty, _, cs => [cs]
  | start, atStart, cs => if atStart then [cs] else []
  | one k, _, cs =>
    match cs with
    | [] => []
    | c :: cs => if k.holds c then [cs] else []
  | atLeast n k, _, cs => atLeastRests k.holds n cs
  | seq r s, atStart, cs =>
    (r.rests atStart cs).flatMap fun rest =>
      s.rests (atStart && rest.length == cs.length) rest
  | alt r s, atStart, cs => r.rests atStart cs ++ s.rests atStart cs

/-- What a greedy repetition may leave: the rest behind any run of its characters, the longest run
first. -/
theorem mem_greedyRests {p : Char → Bool} {cs rest : List Char} :
    rest ∈ greedyRests p cs ↔ ∃ w, w.all p = true ∧ w ++ rest = cs := by
  induction cs with
  | nil =>
    rw [greedyRests, List.mem_singleton]
    constructor
    · rintro rfl
      exact ⟨[], rfl, rfl⟩
    · rintro ⟨w, -, h⟩
      exact (List.append_eq_nil_iff.mp h).2
  | cons c cs ih =>
    have hskip : rest = c :: cs → ∃ w, w.all p = true ∧ w ++ rest = c :: cs :=
      fun h => ⟨[], rfl, h⟩
    -- a first part is empty or takes the next letter
    have hsplit {w : List Char} (hw : w.all p = true) (h : w ++ rest = c :: cs) :
        rest = c :: cs ∨ p c = true ∧ ∃ w', w'.all p = true ∧ w' ++ rest = cs := by
      cases w with
      | nil => exact .inl h
      | cons d w =>
        rw [List.cons_append, List.cons.injEq] at h
        obtain ⟨rfl, hcs⟩ := h
        rw [List.all_cons, Bool.and_eq_true] at hw
        exact .inr ⟨hw.1, w, hw.2, hcs⟩
    rw [greedyRests]
    split_ifs with hc
    · rw [List.mem_append, ih, List.mem_singleton]
      constructor
      · rintro (⟨w, hw, rfl⟩ | h)
        · exact ⟨c :: w, by rw [List.all_cons, hc, hw]; rfl, rfl⟩
        · exact hskip h
      · rintro ⟨w, hw, h⟩
        rcases hsplit hw h with h | ⟨-, h⟩
        · exact .inr h
        · exact .inl h
    · rw [List.mem_singleton]
      constructor
      · exact hskip
      · rintro ⟨w, hw, h⟩
        exact (hsplit hw h).resolve_right fun h => hc h.1

/-- With a lower bound, the run has to be as long. The first characters are taken one by one, and
then it is a greedy repetition. -/
theorem mem_atLeastRests {p : Char → Bool} {n : ℕ} {cs rest : List Char} :
    rest ∈ atLeastRests p n cs ↔ ∃ w, (n ≤ w.length ∧ w.all p = true) ∧ w ++ rest = cs := by
  induction n generalizing cs with
  | zero => simp only [atLeastRests, mem_greedyRests, Nat.zero_le, true_and]
  | succ n ih =>
    cases cs with
    | nil =>
      rw [atLeastRests]
      refine iff_of_false List.not_mem_nil ?_
      rintro ⟨w, ⟨hn, -⟩, h⟩
      rw [(List.append_eq_nil_iff.mp h).1] at hn
      exact absurd hn (Nat.not_succ_le_zero n)
    | cons c cs =>
      rw [atLeastRests]
      constructor
      · split_ifs with hc
        · intro h
          obtain ⟨w, ⟨hn, hw⟩, rfl⟩ := ih.mp h
          exact ⟨c :: w, ⟨Nat.succ_le_succ hn, by rw [List.all_cons, hc, hw]; rfl⟩, rfl⟩
        · exact fun h => absurd h List.not_mem_nil
      · rintro ⟨w, ⟨hn, hw⟩, h⟩
        cases w with
        | nil => exact absurd hn (Nat.not_succ_le_zero n)
        | cons d w =>
          rw [List.cons_append, List.cons.injEq] at h
          obtain ⟨rfl, hcs⟩ := h
          rw [List.all_cons, Bool.and_eq_true] at hw
          rw [if_pos hw.1]
          exact ih.mpr ⟨w, ⟨Nat.le_of_succ_le_succ hn, hw.2⟩, hcs⟩

/-- The matcher finds the words that the pattern matches. By the pattern: each constructor leaves
the rests behind its own words. -/
theorem mem_rests {r : Regex} {atStart : Bool} {cs rest : List Char} :
    rest ∈ r.rests atStart cs ↔ ∃ w, r.Accepts atStart w ∧ w ++ rest = cs := by
  induction r generalizing atStart cs rest with
  | never => simp [rests, Accepts]
  | empty => simp [rests, Accepts, eq_comm]
  | start => cases atStart <;> simp [rests, Accepts, eq_comm]
  | one k =>
    cases cs with
    | nil =>
      refine iff_of_false (by simp [rests]) ?_
      rintro ⟨-, ⟨c, -, rfl⟩, h⟩
      exact List.cons_ne_nil _ _ h
    | cons c cs =>
      rw [rests]
      constructor
      · split_ifs with hc
        · intro h
          rw [List.mem_singleton] at h
          exact ⟨[c], ⟨c, hc, rfl⟩, by rw [h]; rfl⟩
        · exact fun h => absurd h List.not_mem_nil
      · rintro ⟨-, ⟨d, hd, rfl⟩, h⟩
        obtain ⟨rfl, rfl⟩ := List.cons.inj h
        rw [if_pos hd]
        exact List.mem_singleton.mpr rfl
  | atLeast n k => rw [rests, mem_atLeastRests]; rfl
  | seq r s ihr ihs =>
    -- the second pattern is at the start where the first has matched nothing
    have hempty (w mid : List Char) : (mid.length == (w ++ mid).length) = w.isEmpty := by
      cases w with
      | nil => simp
      | cons c w =>
        rw [List.length_append, List.length_cons, beq_eq_decide]
        exact decide_eq_false (by omega)
    rw [rests, List.mem_flatMap]
    constructor
    · rintro ⟨mid, hmid, hrest⟩
      obtain ⟨w₁, hw₁, rfl⟩ := ihr.mp hmid
      obtain ⟨w₂, hw₂, rfl⟩ := ihs.mp hrest
      rw [hempty] at hw₂
      exact ⟨w₁ ++ w₂, ⟨w₁, w₂, rfl, hw₁, hw₂⟩, List.append_assoc _ _ _⟩
    · rintro ⟨-, ⟨w₁, w₂, rfl, hw₁, hw₂⟩, rfl⟩
      rw [List.append_assoc]
      refine ⟨w₂ ++ rest, ihr.mpr ⟨w₁, hw₁, rfl⟩, ihs.mpr ⟨w₂, ?_, rfl⟩⟩
      rwa [hempty]
  | alt r s ihr ihs =>
    rw [rests, List.mem_append, ihr, ihs]
    simp only [Accepts, or_and_right, exists_or]

/-- Where nothing can be left, no word in front is accepted. -/
theorem not_accepts_of_rests_eq_nil {r : Regex} {atStart : Bool} {w rest : List Char}
    (h : r.rests atStart (w ++ rest) = []) : ¬ r.Accepts atStart w := by
  intro hw
  have hmem : rest ∈ r.rests atStart (w ++ rest) := mem_rests.mpr ⟨w, hw, rfl⟩
  rw [h] at hmem
  exact List.not_mem_nil hmem

/-- A choice accepts what one of its patterns does. -/
theorem accepts_anyOf {rs : List Regex} {atStart : Bool} {w : List Char} :
    (anyOf rs).Accepts atStart w ↔ ∃ r ∈ rs, r.Accepts atStart w := by
  induction rs with
  | nil => simp [anyOf, Accepts]
  | cons r rs ih =>
    rw [List.exists_mem_cons_iff, ← ih]
    rfl

/-- Whether the start anchor occurs. -/
def anchored : Regex → Bool
  | never | empty | one _ | atLeast _ _ => false
  | start => true
  | seq r s | alt r s => r.anchored || s.anchored

/-- A pattern without the anchor matches the same words everywhere. -/
theorem accepts_of_not_anchored {r : Regex} {a b : Bool} {w : List Char}
    (hr : r.anchored = false) (h : r.Accepts a w) : r.Accepts b w := by
  induction r generalizing a b w with
  | never | empty | one _ | atLeast _ _ => exact h
  | start => exact absurd hr Bool.noConfusion
  | seq r s ihr ihs =>
    rw [anchored, Bool.or_eq_false_iff] at hr
    obtain ⟨w₁, w₂, hw, h₁, h₂⟩ := h
    exact ⟨w₁, w₂, hw, ihr hr.1 h₁, ihs hr.2 h₂⟩
  | alt r s ihr ihs =>
    rw [anchored, Bool.or_eq_false_iff] at hr
    exact h.imp (ihr hr.1) (ihs hr.2)

/-- What matches elsewhere matches at the start of the text. -/
theorem accepts_true {r : Regex} {b : Bool} {w : List Char} (h : r.Accepts b w) :
    r.Accepts true w := by
  induction r generalizing b w with
  | never | empty | one _ | atLeast _ _ => exact h
  | start => exact ⟨rfl, h.2⟩
  | seq r s ihr ihs =>
    obtain ⟨w₁, w₂, hw, h₁, h₂⟩ := h
    refine ⟨w₁, w₂, hw, ihr h₁, ?_⟩
    rw [Bool.true_and]
    cases hempty : w₁.isEmpty with
    | true => exact ihs h₂
    | false => rwa [hempty, Bool.and_false] at h₂
  | alt r s ihr ihs => exact h.imp ihr ihs

@[simp] theorem anchored_word (s : String) : (word s).anchored = false := by
  rw [word]
  induction s.toList with
  | nil => rfl
  | cons c cs ih => rw [List.foldr_cons, anchored, ih]; rfl

/-! ### The preferred match -/

/-- The first choice of a greedy repetition is the longest run. -/
theorem head?_greedyRests (p : Char → Bool) (cs : List Char) :
    (greedyRests p cs).head? = some (cs.dropWhile p) := by
  induction cs with
  | nil => rfl
  | cons c cs ih =>
    rw [greedyRests, List.dropWhile_cons]
    split_ifs with hc
    · rw [List.head?_append, ih]
      rfl
    · rfl

/-- After a repetition the text does not go on with a character of its class. -/
theorem not_holds_of_head?_atLeastRests {p : Char → Bool} {n : ℕ} {cs rest : List Char}
    (h : (atLeastRests p n cs).head? = some rest) : ∀ c ∈ rest.head?, p c = false := by
  induction n generalizing cs with
  | zero =>
    rw [atLeastRests, head?_greedyRests, Option.some.injEq] at h
    intro c hc
    have hnot := List.head?_dropWhile_not p cs
    rwa [h, Option.mem_def.mp hc] at hnot
  | succ n ih =>
    cases cs with
    | nil => exact absurd h (Option.some_ne_none _).symm
    | cons c cs =>
      rw [atLeastRests] at h
      split_ifs at h
      · exact ih h
      · exact absurd h (Option.some_ne_none _).symm

/-- Behind a match that ends with a greedy repetition there is no character of its class. -/
theorem not_holds_of_head?_rests {r : Regex} {n : ℕ} {k : CharClass} {atStart : Bool}
    {cs rest : List Char} (h : ((seq r (atLeast n k)).rests atStart cs).head? = some rest) :
    ∀ c ∈ rest.head?, k.holds c = false := by
  rw [rests, List.head?_flatMap, List.findSome?_eq_some_iff] at h
  obtain ⟨-, mid, -, -, hmid, -⟩ := h
  exact not_holds_of_head?_atLeastRests hmid

/-- The preferred match of an alternative is the preferred match of one of its patterns. -/
theorem head?_rests_anyOf {rs : List Regex} {atStart : Bool} {cs rest : List Char}
    (h : ((anyOf rs).rests atStart cs).head? = some rest) :
    ∃ r ∈ rs, (r.rests atStart cs).head? = some rest := by
  induction rs with
  | nil => exact absurd h (Option.some_ne_none _).symm
  | cons r rs ih =>
    have hcons : (anyOf (r :: rs)).rests atStart cs =
        r.rests atStart cs ++ (anyOf rs).rests atStart cs := rfl
    rw [hcons, List.head?_append, Option.or_eq_some_iff] at h
    rcases h with h | ⟨-, h⟩
    · exact ⟨r, List.mem_cons_self, h⟩
    · obtain ⟨s, hs, h⟩ := ih h
      exact ⟨s, List.mem_cons_of_mem _ hs, h⟩

/-! ### Substitution -/

/-- What the run of a substitution does with a stretch of the text. -/
inductive Piece where
  | keep (c : Char)
  | swap (w : List Char)

/-- The text that was cut into the pieces. -/
def text : List Piece → List Char
  | [] => []
  | .keep c :: ps => c :: text ps
  | .swap w :: ps => w ++ text ps

/-- What they are replaced by. -/
def output (f : List Char → List Char) : List Piece → List Char
  | [] => []
  | .keep c :: ps => c :: output f ps
  | .swap w :: ps => f w ++ output f ps

/-- The pieces of a text after `skip` characters of a match, for a pattern that does not match the
empty word. -/
def pieces (r : Regex) : Bool → ℕ → List Char → List Piece
  | _, _, [] => []
  | _, skip + 1, _ :: cs => pieces r false skip cs
  | atStart, 0, c :: cs =>
    match (r.rests atStart (c :: cs)).head? with
    | none => .keep c :: pieces r false 0 cs
    | some rest =>
      .swap ((c :: cs).take (cs.length + 1 - rest.length)) ::
        pieces r false (cs.length - rest.length) cs

/-- `re.sub(r, f, text)` -/
def sub (r : Regex) (f : List Char → List Char) (cs : List Char) : List Char :=
  output f (pieces r true 0 cs)

/-- The pieces are those that the matcher finds from left to right. -/
inductive Scan (r : Regex) : Bool → List Piece → Prop where
  | nil (atStart : Bool) : Scan r atStart []
  | keep {atStart : Bool} {c : Char} {ps : List Piece} :
    r.rests atStart (c :: text ps) = [] → Scan r false ps → Scan r atStart (.keep c :: ps)
  | swap {atStart : Bool} {w : List Char} {ps : List Piece} :
    w ≠ [] → (r.rests atStart (w ++ text ps)).head? = some (text ps) → Scan r false ps →
      Scan r atStart (.swap w :: ps)

/-- The text of two lists of pieces. -/
theorem text_append (ps ps' : List Piece) : text (ps ++ ps') = text ps ++ text ps' := by
  induction ps with
  | nil => rfl
  | cons p ps ih => cases p <;> simp [text, ih]

/-- Pieces are replaced one by one. -/
theorem output_append (f : List Char → List Char) (ps ps' : List Piece) :
    output f (ps ++ ps') = output f ps ++ output f ps' := by
  induction ps with
  | nil => rfl
  | cons p ps ih => cases p <;> simp [output, ih]

@[simp] theorem text_map_keep (cs : List Char) : text (cs.map .keep) = cs := by
  induction cs with
  | nil => rfl
  | cons c cs ih => rw [List.map_cons, text, ih]

@[simp] theorem output_map_keep (f : List Char → List Char) (cs : List Char) :
    output f (cs.map .keep) = cs := by
  induction cs with
  | nil => rfl
  | cons c cs ih => rw [List.map_cons, output, ih]

/-- The replaced stretch is a word of the pattern. -/
theorem accepts_of_head?_rests {r : Regex} {atStart : Bool} {w rest : List Char}
    (h : (r.rests atStart (w ++ rest)).head? = some rest) : r.Accepts atStart w := by
  obtain ⟨w', hw', heq⟩ := mem_rests.mp (List.mem_of_mem_head? h)
  rwa [List.append_cancel_right heq] at hw'

section Run

variable {r : Regex} (hr : ∀ atStart, ¬ r.Accepts atStart [])

include hr

/-- The run cuts up the text, and its pieces are those of the matcher. What is still to be skipped
belongs to the match that has been replaced. -/
theorem scan_pieces_drop (atStart : Bool) (skip : ℕ) (cs : List Char) :
    text (pieces r atStart skip cs) = cs.drop skip ∧
      Scan r (atStart && skip == 0) (pieces r atStart skip cs) := by
  induction cs generalizing atStart skip with
  | nil =>
    rw [pieces, List.drop_nil]
    exact ⟨rfl, .nil _⟩
  | cons c cs ih =>
    cases skip with
    -- letters of a match that is already a piece are skipped
    | succ skip =>
      rw [pieces, List.drop_succ_cons]
      have hflag : (atStart && skip + 1 == 0) = false := by simp
      rw [hflag]
      exact ih false skip
    | zero =>
      rw [pieces]
      cases hmatch : (r.rests atStart (c :: cs)).head? with
      | none =>
        obtain ⟨htext, hscan⟩ := ih false 0
        rw [List.drop_zero] at htext
        refine ⟨by simp only [text, htext, List.drop_zero], ?_⟩
        simp only [beq_self_eq_true, Bool.and_true]
        refine .keep ?_ hscan
        rw [htext]
        exact List.head?_eq_none_iff.mp hmatch
      -- a match is not empty, so it takes this letter and skips the rest of itself
      | some rest =>
        obtain ⟨w, hw, heq⟩ := mem_rests.mp (List.mem_of_mem_head? hmatch)
        cases w with
        | nil => exact absurd hw (hr atStart)
        | cons d w =>
          rw [List.cons_append, List.cons.injEq] at heq
          obtain ⟨rfl, rfl⟩ := heq
          have hlength : (w ++ rest).length - rest.length = w.length := by simp
          have htake : (w ++ rest).length + 1 - rest.length = w.length + 1 := by
            rw [List.length_append]
            omega
          obtain ⟨htext, hscan⟩ := ih false w.length
          rw [List.drop_left] at htext
          simp only [hlength, htake, List.take_succ_cons, List.take_left, beq_self_eq_true,
            Bool.and_true, List.drop_zero, text, htext]
          refine ⟨rfl, .swap (List.cons_ne_nil _ _) ?_ hscan⟩
          rw [htext]
          exact hmatch

/-- The pieces are the text, cut up. -/
theorem text_pieces (cs : List Char) : text (pieces r true 0 cs) = cs :=
  (scan_pieces_drop hr true 0 cs).1

/-- The pieces of a text are cut where the scan finds matches. -/
theorem scan_pieces (cs : List Char) : Scan r true (pieces r true 0 cs) :=
  (scan_pieces_drop hr true 0 cs).2

end Run

/-! ### Reading the pieces -/

/-- A position of the text is between two pieces, or inside a match. Only a match is longer than one
character. -/
theorem exists_cut {ps : List Piece} {x z : List Char} (h : text ps = x ++ z) :
    (∃ ps₁ ps₂, ps = ps₁ ++ ps₂ ∧ text ps₁ = x ∧ text ps₂ = z) ∨
      ∃ ps₁ w₁ w₂ ps₂, ps = ps₁ ++ .swap (w₁ ++ w₂) :: ps₂ ∧ w₁ ≠ [] ∧ w₂ ≠ [] ∧
        text ps₁ ++ w₁ = x ∧ w₂ ++ text ps₂ = z := by
  induction ps generalizing x with
  | nil =>
    obtain ⟨rfl, rfl⟩ := List.append_eq_nil_iff.mp h.symm
    exact .inl ⟨[], [], rfl, rfl, rfl⟩
  | cons p ps ih =>
    -- a piece that lies before the position goes to the first part
    have hpush (y : List Char) (hcons : ∀ ps', text (p :: ps') = y ++ text ps')
        {x' : List Char} (hx : x = y ++ x') (hz : text ps = x' ++ z) :
        (∃ ps₁ ps₂, p :: ps = ps₁ ++ ps₂ ∧ text ps₁ = x ∧ text ps₂ = z) ∨
          ∃ ps₁ w₁ w₂ ps₂, p :: ps = ps₁ ++ .swap (w₁ ++ w₂) :: ps₂ ∧ w₁ ≠ [] ∧ w₂ ≠ [] ∧
            text ps₁ ++ w₁ = x ∧ w₂ ++ text ps₂ = z := by
      rcases ih hz with ⟨ps₁, ps₂, rfl, h₁, h₂⟩ | ⟨ps₁, w₁, w₂, ps₂, rfl, hw₁, hw₂, h₁, h₂⟩
      · exact .inl ⟨p :: ps₁, ps₂, rfl, by rw [hcons, h₁, hx], h₂⟩
      · exact .inr ⟨p :: ps₁, w₁, w₂, ps₂, rfl, hw₁, hw₂,
          by rw [hcons, List.append_assoc, h₁, hx], h₂⟩
    cases x with
    | nil => exact .inl ⟨[], p :: ps, rfl, rfl, h⟩
    | cons d x =>
      cases p with
      | keep c =>
        obtain ⟨rfl, hz⟩ := List.cons.inj h
        exact hpush [c] (fun _ => rfl) rfl hz
      | swap w =>
        rcases List.append_eq_append_iff.mp (h : w ++ text ps = d :: x ++ z) with
          ⟨x', hx, hz⟩ | ⟨w₂, hw, hz⟩
        · exact hpush w (fun _ => rfl) hx hz
        · cases w₂ with
          | nil =>
            have hx : d :: x = w ++ [] := by rw [hw, List.append_nil, List.append_nil]
            exact hpush w (fun _ => rfl) hx hz.symm
          | cons e w₂ =>
            exact .inr ⟨[], d :: x, e :: w₂, ps, by rw [hw]; rfl, List.cons_ne_nil _ _,
              List.cons_ne_nil _ _, rfl, hz.symm⟩

/-- What is scanned from within a text is scanned as a text of its own, though no longer from its
start. -/
theorem Scan.right {r : Regex} {atStart : Bool} {ps₁ ps₂ : List Piece}
    (h : Scan r atStart (ps₁ ++ ps₂)) : Scan r (atStart && ps₁.isEmpty) ps₂ := by
  induction ps₁ generalizing atStart with
  | nil => simpa using h
  | cons p ps₁ ih =>
    rw [List.isEmpty_cons, Bool.and_false]
    cases h with
    | keep _ h => exact ih h
    | swap _ _ h => exact ih h

/-- Only the empty text has no pieces. -/
theorem Scan.text_isEmpty {r : Regex} {atStart : Bool} {ps : List Piece}
    (h : Scan r atStart ps) : (text ps).isEmpty = ps.isEmpty := by
  cases h with
  | nil => rfl
  | keep => rfl
  | @swap _ w _ hw =>
    cases w with
    | nil => exact absurd rfl hw
    | cons c w => rfl

/-- Where a match is possible, one is replaced. -/
theorem Scan.exists_swap {r : Regex} {atStart : Bool} {ps : List Piece} {w rest : List Char}
    (hscan : Scan r atStart ps) (htext : text ps = w ++ rest) (hw : r.Accepts atStart w)
    (hne : w ≠ []) : ∃ x ps', ps = .swap x :: ps' ∧
      (r.rests atStart (x ++ text ps')).head? = some (text ps') := by
  cases hscan with
  | nil => exact absurd (List.append_eq_nil_iff.mp htext.symm).1 hne
  | keep hnone _ =>
    rw [text] at htext
    rw [htext] at hnone
    exact absurd hw (not_accepts_of_rests_eq_nil hnone)
  | swap _ hmatch _ => exact ⟨_, _, rfl, hmatch⟩

/-- Where no match begins in a stretch, its characters are kept. A match is taken where it begins,
so that none reaches into the stretch from within. -/
theorem Scan.exists_keeps {r : Regex} {atStart : Bool} {ps : List Piece} {m rest : List Char}
    (hscan : Scan r atStart ps) (htext : text ps = m ++ rest)
    (hm : ∀ m₁ m₂, m = m₁ ++ m₂ → m₂ ≠ [] →
      ∀ w v, w ++ v = m₂ ++ rest → ¬ r.Accepts (atStart && m₁.isEmpty) w) :
    ∃ ps', ps = m.map .keep ++ ps' ∧ text ps' = rest := by
  induction m generalizing atStart ps with
  | nil => exact ⟨ps, rfl, htext⟩
  | cons c m ih =>
    cases hscan with
    | nil => exact absurd htext.symm (List.cons_ne_nil _ _)
    | @keep _ d ps _ hscan =>
      rw [text, List.cons_append, List.cons.injEq] at htext
      obtain ⟨rfl, htext⟩ := htext
      obtain ⟨ps', rfl, hrest⟩ := ih hscan htext fun m₁ m₂ hcut hm₂ w v hw => by
        have hno := hm (d :: m₁) m₂ (by rw [hcut]; rfl) hm₂ w v hw
        rwa [List.isEmpty_cons, Bool.and_false] at hno
      exact ⟨ps', rfl, hrest⟩
    | @swap _ w ps _ hmatch _ =>
      have hw : r.Accepts (atStart && ([] : List Char).isEmpty) w := by
        rw [List.isEmpty_nil, Bool.and_true]
        exact accepts_of_head?_rests hmatch
      exact absurd hw (hm [] (c :: m) rfl (List.cons_ne_nil _ _) w _ htext)

/-- A text in which no match begins is left as it is. -/
theorem sub_eq_self {r : Regex} (hr : ∀ atStart, ¬ r.Accepts atStart [])
    {f : List Char → List Char} {cs : List Char}
    (hcs : ∀ u w v, cs = u ++ w ++ v → ¬ r.Accepts u.isEmpty w) : sub r f cs = cs := by
  have htext : text (pieces r true 0 cs) = cs ++ [] := by rw [text_pieces hr, List.append_nil]
  obtain ⟨ps', hpieces, hnil⟩ := (scan_pieces hr cs).exists_keeps htext
    fun m₁ m₂ hcut _ w v hw => by
      rw [Bool.true_and]
      refine hcs m₁ w v ?_
      rw [List.append_assoc, hw, hcut, List.append_nil]
  have hscan := scan_pieces hr cs
  rw [hpieces] at hscan
  have hps' : ps' = [] := by
    rw [← List.isEmpty_iff, ← hscan.right.text_isEmpty, hnil]
    rfl
  rw [sub, hpieces, hps', List.append_nil, output_map_keep]

section Delimited

/-! A replacement in delimiters, and words that contain neither of them. -/

variable {l d : Char} {mid : List Char}

/-- A stretch of the result that does not begin a replacement was kept. -/
theorem exists_keeps_of_output {tail : List Char} {ps : List Piece} {m v : List Char}
    (hl : l ∉ m) (h : output (fun _ => l :: tail) ps = m ++ v) :
    ∃ ps', ps = m.map .keep ++ ps' ∧ output (fun _ => l :: tail) ps' = v := by
  induction m generalizing ps with
  | nil => exact ⟨ps, rfl, h⟩
  | cons c m ih =>
    cases ps with
    | nil => exact absurd h.symm (List.cons_ne_nil _ _)
    | cons p ps =>
      cases p with
      | keep e =>
        rw [output, List.cons_append, List.cons.injEq] at h
        obtain ⟨rfl, h⟩ := h
        obtain ⟨ps', rfl, hv⟩ := ih (fun hmem => hl (List.mem_cons_of_mem _ hmem)) h
        exact ⟨ps', rfl, hv⟩
      | swap w =>
        rw [output, List.cons_append, List.cons_append, List.cons.injEq] at h
        exact absurd (h.1 ▸ List.mem_cons_self) hl

/-- A stretch of the result without the delimiters, which is no part of the replacement, was
kept. -/
theorem exists_kept {ps : List Piece} {u m v : List Char} (hl : l ∉ m) (hd : d ∉ m)
    (hm : ∃ c ∈ m, c ∉ l :: (mid ++ [d]))
    (h : output (fun _ => l :: (mid ++ [d])) ps = u ++ m ++ v) :
    ∃ ps₁ ps₂, ps = ps₁ ++ m.map .keep ++ ps₂ ∧ output (fun _ => l :: (mid ++ [d])) ps₁ = u ∧
      output (fun _ => l :: (mid ++ [d])) ps₂ = v := by
  rw [List.append_assoc] at h
  induction ps generalizing u with
  | nil =>
    obtain ⟨c, hc, -⟩ := hm
    have hnil := List.append_eq_nil_iff.mp (List.append_eq_nil_iff.mp h.symm).2
    rw [hnil.1] at hc
    exact absurd hc List.not_mem_nil
  | cons p ps ih =>
    cases u with
    | nil =>
      obtain ⟨ps₂, hps, hv⟩ := exists_keeps_of_output hl h
      exact ⟨[], ps₂, hps, rfl, hv⟩
    | cons c u =>
      cases p with
      | keep e =>
        rw [output, List.cons_append, List.cons.injEq] at h
        obtain ⟨rfl, h⟩ := h
        obtain ⟨ps₁, ps₂, rfl, hu, hv⟩ := ih h
        exact ⟨.keep e :: ps₁, ps₂, rfl, by rw [output, hu], hv⟩
      | swap w =>
        rw [output] at h
        rcases List.append_eq_append_iff.mp h with ⟨u', hu, hps⟩ | ⟨t, hblock, ht⟩
        · obtain ⟨ps₁, ps₂, rfl, hu', hv⟩ := ih hps
          exact ⟨.swap w :: ps₁, ps₂, rfl, by rw [output, hu', hu], hv⟩
        · -- the stretch would begin inside the replacement
          rcases List.append_eq_append_iff.mp ht with ⟨t', ht', -⟩ | ⟨t', ht', hps⟩
          · obtain ⟨e, he, hout⟩ := hm
            refine absurd ?_ hout
            rw [hblock, ht']
            exact List.mem_append_right _ (List.mem_append_left _ he)
          · cases t with
            | nil =>
              rw [List.append_nil] at hblock
              obtain ⟨ps₁, ps₂, rfl, hu', hv⟩ := ih (u := []) ht.symm
              exact ⟨.swap w :: ps₁, ps₂, rfl, by rw [output, hu', hblock, List.append_nil], hv⟩
            | cons e t =>
              refine absurd ?_ hd
              have hlast := congrArg List.getLast? hblock
              rw [← List.cons_append, List.getLast?_append, List.getLast?_append] at hlast
              have hmem : d ∈ e :: t := by
                refine List.mem_of_mem_getLast? ?_
                simpa using hlast.symm
              rw [ht']
              exact List.mem_append_left _ hmem

/-- If no match is replaced by nothing, only the empty text comes out empty. -/
theorem output_isEmpty (tail : List Char) (ps : List Piece) :
    (output (fun _ => l :: tail) ps).isEmpty = ps.isEmpty := by
  rcases ps with - | ⟨_ | _, ps⟩ <;> rfl

/-- If every word of the pattern is free of the delimiters and no part of the replacement, the
result of the substitution has no match. -/
theorem not_accepts_sub {r : Regex}
    (hword : ∀ atStart w, r.Accepts atStart w → l ∉ w ∧ d ∉ w ∧ ∃ c ∈ w, c ∉ l :: (mid ++ [d]))
    {cs u w v : List Char} (h : sub r (fun _ => l :: (mid ++ [d])) cs = u ++ w ++ v) :
    ¬ r.Accepts u.isEmpty w := by
  intro hw
  have hr (atStart : Bool) : ¬ r.Accepts atStart [] := fun hnil => by
    obtain ⟨c, hc, -⟩ := (hword atStart [] hnil).2.2
    exact List.not_mem_nil hc
  obtain ⟨hl, hd, hout⟩ := hword _ w hw
  obtain ⟨ps₁, ps₂, hps, hu, -⟩ := exists_kept hl hd hout h
  have hscan := scan_pieces hr cs
  rw [hps, List.append_assoc] at hscan
  have hscan := hscan.right
  rw [Bool.true_and, ← output_isEmpty (l := l) (mid ++ [d]), hu] at hscan
  have htext : text (w.map .keep ++ ps₂) = w ++ text ps₂ := by rw [text_append, text_map_keep]
  have hne : w ≠ [] := fun hnil => hr _ (hnil ▸ hw)
  obtain ⟨x, ps', hswap, -⟩ := hscan.exists_swap htext hw hne
  cases w with
  | nil => exact hne rfl
  | cons c w => exact absurd (List.cons.inj hswap).1 Piece.noConfusion

end Delimited

end Regex

end Py
