import DecisionCenter.Data.Table
import Mathlib.Data.List.Infix

/-!
# Files below a directory

A directory as the files below it, each with the names on its path. A directory is there as long
as a file is below it, and empty directories do not count.

A file is written with the directories on its path, as `mkdir(parents=True)` followed by a write
would do. This fails where one of the names on the way is a file, or where the file itself is a
directory; both come down to one relation between two paths, that the one is a proper beginning
of the other (`OnPath`).

Files none of which is on the path of another (`Apart`) can be written in any order, and the
directory then has what it had before and these (`writeAll_of_apart`). Being apart passes on to
sublists, which is what an induction over a list of writes needs.

Names are whatever the user takes for names; that a text splits into such names, and that a file
system accepts them, is for the user to say.
-/

namespace FileTree

open Table

variable {α β : Type}

/-- The first path leads through a directory of the second one, or below a file. -/
def OnPath (p q : List α) : Prop := p <+: q ∧ p ≠ q

instance [DecidableEq α] (p q : List α) : Decidable (OnPath p q) :=
  inferInstanceAs (Decidable (_ ∧ _))

/-- The files below a directory. -/
abbrev Files (α β : Type) := List (List α × β)

/-- The files can be below one directory. -/
structure Apart (files : Files α β) : Prop where
  nodup : (files.map Prod.fst).Nodup
  named : ∀ f ∈ files, f.1 ≠ []
  apart : ∀ f ∈ files, ∀ g ∈ files, ¬ OnPath f.1 g.1

/-- Files that can be there together can be so without some of them. -/
theorem Apart.sublist {files files' : Files α β} (h : Apart files) (hsub : files'.Sublist files) :
    Apart files' :=
  ⟨(hsub.map Prod.fst).nodup h.nodup, fun f hf => h.named f (hsub.subset hf),
    fun f hf g hg => h.apart f (hsub.subset hf) g (hsub.subset hg)⟩

variable [DecidableEq α]

/-- Write a file, with the directories on its path. -/
def write (files : Files α β) (path : List α) (data : β) : Option (Files α β) :=
  if path = [] ∨ ∃ f ∈ files, OnPath f.1 path ∨ OnPath path f.1 then none
  else some (upsert Prod.fst (path, data) files)

/-- Write files, one after the other. -/
def writeAll (files entries : Files α β) : Option (Files α β) :=
  entries.foldlM (fun files f => write files f.1 f.2) files

/-- A file that can be there with the others can be written next to them. -/
theorem write_of_apart {files : Files α β} {f : List α × β} (h : Apart (files ++ [f])) :
    write files f.1 f.2 = some (files ++ [f]) := by
  have hlast : f ∈ files ++ [f] := by simp
  have hfree : ¬ (f.1 = [] ∨ ∃ g ∈ files, OnPath g.1 f.1 ∨ OnPath f.1 g.1) := by
    rintro (hempty | ⟨g, hg, hon | hon⟩)
    · exact h.named f hlast hempty
    · exact h.apart g (List.mem_append_left _ hg) f hlast hon
    · exact h.apart f hlast g (List.mem_append_left _ hg) hon
  have hnew : f.1 ∉ files.map Prod.fst := by
    have hnodup := h.nodup
    rw [List.map_append, List.map_singleton, List.nodup_append] at hnodup
    exact fun hmem => hnodup.2.2 f.1 hmem f.1 (by simp) rfl
  rw [write, if_neg hfree, upsert_of_notMem hnew]

/-- Files that can be there with the others can be written next to them, one after the other. -/
theorem writeAll_of_apart {files entries : Files α β} (h : Apart (files ++ entries)) :
    writeAll files entries = some (files ++ entries) := by
  induction entries generalizing files with
  | nil => simp [writeAll]
  | cons f entries ih =>
    have hsplit : files ++ f :: entries = files ++ [f] ++ entries := by simp
    rw [hsplit] at h ⊢
    rw [writeAll, List.foldlM_cons, write_of_apart (h.sublist (List.sublist_append_left _ _))]
    exact ih h

end FileTree
