import Mathlib.Data.List.Chain

/-!
# Overlapping windows

A loop cuts a sequence into windows of a fixed size, each of which begins `overlap` elements
before the end of the one before, and ends with the window that reaches the end of the sequence.
With an overlap below the size it comes to that end: every round but the last begins at least
one element further on.

`Windowing` collects what is asked of the windows: each fits the size, each shares its last
`overlap` elements with the next one, which goes on after them (`Overlaps`), and put together
without what they share they are the sequence. That the next window goes on after what it shares
excludes a last window that lies within the one before it.

`loop_spec` is proved by induction on the rounds, for the windows from any start on, with the
first of them written out, since the window before has to be compared with it.
`exists_windowing` is the case that begins at the front. Rounds are counted because the loop has
no structural argument; as many as there are elements suffice, and more change nothing
(`loop_of_le`).
-/

namespace DecisionCenter.Windows

variable {α : Type}

/-- `while start < len(xs)`: the windows from `start` on; `none` if the rounds do not suffice. -/
def loop (xs : List α) (size overlap : ℕ) : ℕ → ℕ → Option (List (List α))
  | 0, start => if start < xs.length then none else some []
  | rounds + 1, start =>
    if start < xs.length then
      let stop := min (start + size) xs.length
      let window := (xs.take stop).drop start
      if stop = xs.length then some [window]
      else (loop xs size overlap rounds (stop - overlap)).map (window :: ·)
    else some []

/-- The windows put together: of each but the first, the part that it shares is left out. -/
def join (overlap : ℕ) : List (List α) → List α
  | [] => []
  | w :: ws => w ++ ws.flatMap (·.drop overlap)

/-- The last `overlap` elements of a window are the first of the next, which goes on after them. -/
structure Overlaps (overlap : ℕ) (w w' : List α) : Prop where
  overlap_le : overlap ≤ w.length
  shared : w.drop (w.length - overlap) = w'.take overlap
  fresh : overlap < w'.length

/-- The windows of a sequence. -/
structure Windowing (size overlap : ℕ) (xs : List α) (ws : List (List α)) : Prop where
  fits : ∀ w ∈ ws, w.length ≤ size
  overlaps : ws.IsChain (Overlaps overlap)
  joins : join overlap ws = xs

/-- The first window is left as it is. -/
theorem drop_join {overlap : ℕ} {w : List α} (ws : List (List α)) (h : overlap ≤ w.length) :
    (join overlap (w :: ws)).drop overlap = (w :: ws).flatMap (·.drop overlap) := by
  rw [join, List.drop_append_of_le_length h, List.flatMap_cons]

section Loop

variable {xs : List α} {size overlap : ℕ}

/-- A window within the list is as long as its bounds say. -/
theorem length_window {start stop : ℕ} (hstop : stop ≤ xs.length) :
    ((xs.take stop).drop start).length = stop - start := by
  rw [List.length_drop, List.length_take, min_eq_left hstop]

/-- A window and what lies behind it are all that lies behind its start. -/
theorem window_append_drop {start stop : ℕ} (h : start ≤ stop) (hstop : stop ≤ xs.length) :
    (xs.take stop).drop start ++ xs.drop stop = xs.drop start := by
  have hlength : start ≤ (xs.take stop).length := by
    rw [List.length_take, min_eq_left hstop]
    exact h
  rw [← List.drop_append_of_le_length hlength, List.take_append_drop]

/-- Two windows of which the second begins `overlap` elements before the end of the first. -/
theorem overlaps_window {start stop stop' : ℕ} (hoverlap : start + overlap ≤ stop)
    (hmore : stop < stop') (hstop' : stop' ≤ xs.length) :
    Overlaps overlap ((xs.take stop).drop start) ((xs.take stop').drop (stop - overlap)) where
  overlap_le := by
    rw [length_window (by omega)]
    omega
  shared := by
    have hback : start + (stop - start - overlap) = stop - overlap := by omega
    have hupTo : stop - overlap + overlap = stop := by omega
    rw [length_window (by omega), List.drop_drop, hback, List.take_drop, List.take_take, hupTo,
      min_eq_left hmore.le]
  fresh := by
    rw [length_window hstop']
    omega

/-- The windows from `start` on, for as many rounds as elements are left: the loop ends, its first
window is the one at `start`, and together they cover the rest. -/
theorem loop_spec (hoverlap : overlap < size) {rounds start : ℕ} (hstart : start < xs.length)
    (hrounds : xs.length - start ≤ rounds) :
    ∃ ws, loop xs size overlap rounds start =
        some ((xs.take (min (start + size) xs.length)).drop start :: ws) ∧
      Windowing size overlap (xs.drop start)
        ((xs.take (min (start + size) xs.length)).drop start :: ws) := by
  induction rounds generalizing start with
  | zero => omega
  | succ rounds ih =>
    have hfits : ((xs.take (min (start + size) xs.length)).drop start).length ≤ size := by
      rw [length_window (Nat.min_le_right _ _)]
      omega
    rw [loop, if_pos hstart]
    dsimp only
    by_cases hlast : min (start + size) xs.length = xs.length
    · -- the last window goes to the end
      rw [if_pos hlast]
      refine ⟨[], rfl, ⟨by simpa using hfits, List.isChain_singleton _, ?_⟩⟩
      rw [join, List.flatMap_nil, List.append_nil, hlast, List.take_length]
    · rw [if_neg hlast]
      have hstop : min (start + size) xs.length = start + size := by omega
      rw [hstop] at hlast hfits ⊢
      have hstart' : start + size - overlap < xs.length := by omega
      obtain ⟨ws, hloop, hws⟩ := ih hstart' (by omega)
      rw [hloop]
      have hnext : Overlaps overlap ((xs.take (start + size)).drop start)
          ((xs.take (min (start + size - overlap + size) xs.length)).drop
            (start + size - overlap)) :=
        overlaps_window (by omega) (by omega) (Nat.min_le_right _ _)
      refine ⟨_, rfl, ⟨List.forall_mem_cons.mpr ⟨hfits, hws.fits⟩,
        List.isChain_cons_cons.mpr ⟨hnext, hws.overlaps⟩, ?_⟩⟩
      -- what the next windows add is what comes after this one
      have hupTo : start + size - overlap + overlap = start + size := by omega
      rw [join, ← drop_join ws hnext.fresh.le, hws.joins, List.drop_drop, hupTo]
      exact window_append_drop (by omega) (by omega)

/-- More rounds than suffice change nothing. So it does not matter how many rounds a caller allows.
-/
theorem loop_of_le {rounds rounds' start : ℕ} {ws : List (List α)} (hle : rounds ≤ rounds')
    (h : loop xs size overlap rounds start = some ws) :
    loop xs size overlap rounds' start = some ws := by
  induction rounds generalizing rounds' start ws with
  | zero =>
    rw [loop] at h
    split at h
    · cases h
    · next hend => cases rounds' <;> rw [loop, if_neg hend, h]
  | succ rounds ih =>
    cases rounds' with
    | zero => omega
    | succ rounds' =>
      rw [loop] at h ⊢
      dsimp only at h ⊢
      split at h
      · next hmore =>
        rw [if_pos hmore]
        split at h
        · next hlast => rw [if_pos hlast, h]
        · next hlast =>
          obtain ⟨rest, hrest, rfl⟩ := Option.map_eq_some_iff.mp h
          rw [if_neg hlast, ih (by omega) hrest]
          rfl
      · next hend => rw [if_neg hend, h]

/-- The loop ends, and covers the sequence with windows. -/
theorem exists_windowing (xs : List α) (hoverlap : overlap < size) :
    ∃ ws, Windowing size overlap xs ws ∧
      ∀ rounds, xs.length ≤ rounds → loop xs size overlap rounds 0 = some ws := by
  obtain rfl | hne := eq_or_ne xs []
  · refine ⟨[], ⟨by simp, List.isChain_nil, rfl⟩, fun rounds _ => ?_⟩
    cases rounds <;> rfl
  · obtain ⟨ws, hloop, hws⟩ := loop_spec hoverlap (List.length_pos_iff.mpr hne) (Nat.sub_le _ 0)
    exact ⟨_, hws, fun rounds hrounds => loop_of_le hrounds hloop⟩

end Loop

end DecisionCenter.Windows
