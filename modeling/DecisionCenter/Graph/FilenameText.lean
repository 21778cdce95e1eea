import DecisionCenter.Graph.QualityGate
import DecisionCenter.Graph.Synthesis
import DecisionCenter.Py.FirstMatch
import Mathlib.Data.List.Chain

/-!
# File names in text

The patterns by which node 12 keeps file names out of its findings and node 13 looks for them
(`_FILENAME_LIKE`, `_FILENAME_EMBEDDED_RE` and `_FILENAME_RE`). The first two find the same
names; the third takes in more characters, but has to match the whole text. A text that is cut
may end in a file name that it did not hold before.

The patterns are matchers on lists of characters, with a parameter for which two letters are the
same without regard to case, and `FilenameSearch` says that the engine of the interpreter does
as they do. Of the parameter only little is asked: neither a blank nor a full stop is matched by
a letter.

Dots behind a text, as a cut leaves them, make no difference to the names in it
(`hasFilename_append_dots`), and with dots behind it no text is a file name as a whole. The
start of a text without a file name holds one just if it ends in one (`hasFilename_cut`), which
is where a cut can do harm.

Most texts are cleared without a search. A text in which no full stop meets a letter that starts
an extension has no name in it (`NoExtension`); texts without a full stop are such, they can be
put in front of any other, and a text that begins with a blank can go behind any other.
-/

namespace DecisionCenter

open Py

/-! ### The patterns -/

/-- The extensions of all three patterns. -/
def fileExtensions : List (List Char) :=
  ["pdf", "xlsx", "xls", "docx", "doc", "pptx", "ppt", "dwg", "dxf", "jpg", "jpeg", "png", "csv",
    "zip", "rar", "txt"].map String.toList

section Patterns

variable (isWord : Char → Bool) (same : Char → Char → Bool)

/-- `[\w\-]` -/
def inName (c : Char) : Bool := isWord c || decide (c = '-')

/-- `[\w\-.()' &]` -/
def inFullName (c : Char) : Bool := inName isWord c || ".()' &".toList.contains c

/-- What is left after the letters, in any case. -/
def afterLetters : List Char → List Char → Option (List Char)
  | [], cs => some cs
  | _ :: _, [] => none
  | w :: ws, c :: cs => if same w c then afterLetters ws cs else none

/-- An extension whose rest is accepted. -/
def extensionThen (accept : List Char → Bool) (cs : List Char) : Bool :=
  fileExtensions.any fun ext => (afterLetters same ext cs).any accept

/-- A full stop and such an extension. -/
def dotExtension (accept : List Char → Bool) : List Char → Bool
  | [] => false
  | c :: cs => decide (c = '.') && extensionThen same accept cs

/-- `\b` between two characters. -/
def boundary (a b : Option Char) : Bool := a.any isWord != b.any isWord

/-- `\b[\w\-]+\.(pdf|…)` with an accepted rest, behind a character. -/
def nameAt (accept : List Char → Bool) (prev : Option Char) (cs : List Char) : Bool :=
  boundary isWord prev cs.head? && !(cs.takeWhile (inName isWord)).isEmpty &&
    dotExtension same accept (cs.dropWhile (inName isWord))

/-- The text has such a name somewhere. -/
def nameIn (accept : List Char → Bool) (prev : Option Char) : List Char → Bool
  | [] => false
  | c :: cs => nameAt isWord same accept prev (c :: cs) || nameIn accept (some c) cs

/-- `\b` behind a letter. -/
def wordEnd (post : List Char) : Bool := !post.head?.any isWord

/-- `\b[\w\-]+\.(pdf|…)\b` somewhere in the text. -/
def hasFilename (cs : List Char) : Bool := nameIn isWord same (wordEnd isWord) none cs

/-- `\b[\w\-]+\.(pdf|…)` at the end of the text. -/
def endsInFilename (cs : List Char) : Bool := nameIn isWord same List.isEmpty none cs

/-- `$` -/
def textEnd (post : List Char) : Bool := decide (post = [] ∨ post = ['\n'])

/-- `[\w\-.()' &]*\.(pdf|…)$`, where the star is a plus unless a character was seen. -/
def fullNameAt : Bool → List Char → Bool
  | _, [] => false
  | seen, c :: cs => seen && decide (c = '.') && extensionThen same textEnd cs ||
      inFullName isWord c && fullNameAt true cs

/-- `^[\w\-.()' &]+\.(pdf|…)$` -/
def isFullName (cs : List Char) : Bool := fullNameAt isWord same false cs

/-- The engine on the three patterns. Neither a blank nor a full stop is a word character, and the
letters of an extension match word characters only. -/
structure FilenameSearch [Text] : Prop where
  like : ∀ s, searches filenameLikeRe s = hasFilename isWord same s.toList
  embedded : ∀ s, searches filenameEmbeddedRe s = hasFilename isWord same s.toList
  full : ∀ s, searches filenameRe s = isFullName isWord same s.toList
  letter : ∀ ext ∈ fileExtensions, ∀ w ∈ ext, ∀ c, same w c = true → isWord c = true
  dot : isWord '.' = false
  blank : isWord ' ' = false
  space : Text.isSpace '.' = false

end Patterns

/-! ### Cutting a text -/

section Cut

variable {isWord : Char → Bool} {same : Char → Char → Bool}

private theorem afterLetters_append {ws cs q : List Char} (h : afterLetters same ws cs = some q)
    (r : List Char) : afterLetters same ws (cs ++ r) = some (q ++ r) := by
  induction ws generalizing cs with
  | nil => cases h; rfl
  | cons w ws ih =>
    cases cs with
    | nil => cases h
    | cons c cs =>
      rw [afterLetters] at h
      rw [List.cons_append, afterLetters]
      split at h
      · next hsame => rw [if_pos hsame]; exact ih h
      · cases h

/-- No letters reach past a character that none of them matches. -/
theorem afterLetters_append_sep {ws : List Char} {sep : Char} (hsep : ∀ w ∈ ws, same w sep = false)
    (cs ds : List Char) :
    afterLetters same ws (cs ++ sep :: ds) = (afterLetters same ws cs).map (· ++ sep :: ds) := by
  induction ws generalizing cs with
  | nil => rfl
  | cons w ws ih =>
    cases cs with
    | nil => exact if_neg (by simp [hsep w List.mem_cons_self])
    | cons c cs =>
      rw [List.cons_append, afterLetters, afterLetters]
      split
      · exact ih (fun v hv => hsep v (List.mem_cons_of_mem w hv)) cs
      · rfl

/-- The full stop is matched by no letter of an extension. -/
def NoDot (same : Char → Char → Bool) : Prop :=
  ∀ ext ∈ fileExtensions, ∀ w ∈ ext, same w '.' = false

/-- The engine takes no dot for a letter of an extension. -/
theorem FilenameSearch.noDot [Text] (h : FilenameSearch isWord same) : NoDot same := by
  intro ext hext w hw
  by_contra hsame
  have hword := h.letter ext hext w hw '.' (by simpa using hsame)
  rw [h.dot] at hword
  cases hword

private theorem extensionThen_congr {accept accept' : List Char → Bool} {cs cs' : List Char}
    (h : ∀ ext ∈ fileExtensions,
      (afterLetters same ext cs).any accept = (afterLetters same ext cs').any accept') :
    extensionThen same accept cs = extensionThen same accept' cs' := by
  rw [Bool.eq_iff_iff, extensionThen, extensionThen, List.any_eq_true, List.any_eq_true]
  exact exists_congr fun ext => and_congr_right fun hext => by rw [h ext hext]

/-- The dots are left behind every extension. -/
theorem extensionThen_append_dots (hdot : NoDot same) (accept : List Char → Bool)
    (cs ds : List Char) : extensionThen same accept (cs ++ '.' :: ds) =
      extensionThen same (fun post => accept (post ++ '.' :: ds)) cs := by
  refine extensionThen_congr fun ext hext => ?_
  rw [afterLetters_append_sep (hdot ext hext)]
  cases afterLetters same ext cs <;> rfl

/-- No extension begins with a full stop. -/
theorem not_extensionThen_dot (hdot : NoDot same) (accept : List Char → Bool) (ds : List Char) :
    extensionThen same accept ('.' :: ds) = false := by
  rw [← List.nil_append ('.' :: ds), extensionThen_append_dots hdot]
  rfl

private theorem extensionThen_nil (accept : List Char → Bool) :
    extensionThen same accept [] = false := rfl

/-- The dots that are put behind a text that was cut. -/
def dots : List Char := ['.', '.', '.']

private theorem inName_dot (hword : isWord '.' = false) : inName isWord '.' = false := by
  rw [inName, hword]
  rfl

/-- In front of the dots, the names of a text are those whose rest is accepted with the dots. -/
theorem nameAt_append_dots (hdot : NoDot same) (hword : isWord '.' = false)
    (accept : List Char → Bool) (prev : Option Char) (c : Char) (cs : List Char) :
    nameAt isWord same accept prev (c :: cs ++ dots) =
      nameAt isWord same (fun post => accept (post ++ dots)) prev (c :: cs) := by
  rw [nameAt, nameAt, dots, takeWhile_append_sep (inName_dot hword),
    dropWhile_append_sep (inName_dot hword)]
  refine congrArg _ ?_
  cases (c :: cs).dropWhile (inName isWord) with
  | nil =>
    change (true && extensionThen same accept ['.', '.']) = false
    rw [not_extensionThen_dot hdot]
    rfl
  | cons d rest =>
    exact congrArg (decide (d = '.') && ·) (extensionThen_append_dots hdot accept rest _)

private theorem nameIn_append_dots (hdot : NoDot same) (hword : isWord '.' = false)
    (accept : List Char → Bool) (prev : Option Char) (cs : List Char) :
    nameIn isWord same accept prev (cs ++ dots) =
      nameIn isWord same (fun post => accept (post ++ dots)) prev cs := by
  induction cs generalizing prev with
  | nil =>
    have hnone (prev : Option Char) (ds : List Char) :
        nameAt isWord same accept prev ('.' :: ds) = false := by
      rw [nameAt, List.takeWhile_cons_of_neg (by simp [inName_dot hword])]
      simp
    simp [nameIn, dots, hnone]
  | cons c cs ih =>
    rw [List.cons_append, nameIn, ← List.cons_append, nameAt_append_dots hdot hword, ih, nameIn]

/-- Dots behind a text make no difference to the names in it. -/
theorem hasFilename_append_dots (hdot : NoDot same) (hword : isWord '.' = false) (cs : List Char) :
    hasFilename isWord same (cs ++ dots) = hasFilename isWord same cs := by
  have haccept : (fun post => wordEnd isWord (post ++ dots)) = wordEnd isWord := by
    funext post
    cases post with
    | nil => simp [wordEnd, dots, hword]
    | cons c post => rfl
  rw [hasFilename, nameIn_append_dots hdot hword, haccept, hasFilename]

/-- With dots behind it no text is a file name as a whole. -/
theorem not_fullNameAt_dots (hdot : NoDot same) (seen : Bool) (cs : List Char) :
    fullNameAt isWord same seen (cs ++ dots) = false := by
  have hend (post : List Char) : textEnd (post ++ dots) = false := by
    simp only [textEnd, decide_eq_false_iff_not, not_or]
    exact ⟨by simp [dots], fun h => by simpa [dots] using congrArg List.length h⟩
  have hnone (ds : List Char) : extensionThen same textEnd (ds ++ dots) = false := by
    rw [dots, extensionThen_append_dots hdot, ← dots]
    simp only [hend, extensionThen, Option.any_false, List.any_eq_false]
    exact fun _ _ => Bool.false_ne_true
  induction cs generalizing seen with
  | nil =>
    simp [fullNameAt, dots, not_extensionThen_dot hdot, extensionThen_nil]
  | cons c cs ih =>
    rw [List.cons_append, fullNameAt, ih, hnone]
    simp

private theorem nameAt_iff {accept : List Char → Bool} {prev : Option Char} {cs : List Char} :
    nameAt isWord same accept prev cs = true ↔ boundary isWord prev cs.head? = true ∧
      cs.takeWhile (inName isWord) ≠ [] ∧ ∃ rest, cs.dropWhile (inName isWord) = '.' :: rest ∧
        ∃ ext ∈ fileExtensions, ∃ q, afterLetters same ext rest = some q ∧ accept q = true := by
  rw [nameAt, Bool.and_eq_true, Bool.and_eq_true, and_assoc]
  refine and_congr_right fun _ => and_congr (by simp) ?_
  cases cs.dropWhile (inName isWord) with
  | nil => simp [dotExtension]
  | cons c rest =>
    simp only [dotExtension, extensionThen, Bool.and_eq_true, decide_eq_true_eq, List.any_eq_true,
      Option.any_eq_true, List.cons.injEq]
    constructor
    · rintro ⟨rfl, h⟩
      exact ⟨rest, ⟨rfl, rfl⟩, h⟩
    · rintro ⟨_, ⟨rfl, rfl⟩, h⟩
      exact ⟨rfl, h⟩

/-- A name in a part of a text stands in the text, unless it is where the part ends. There what
follows may go on with its extension. -/
theorem nameAt_append {prev : Option Char} {c : Char} {cs : List Char}
    (h : nameAt isWord same (wordEnd isWord) prev (c :: cs) = true) (r : List Char) :
    nameAt isWord same List.isEmpty prev (c :: cs) = true ∨
      nameAt isWord same (wordEnd isWord) prev (c :: cs ++ r) = true := by
  obtain ⟨hboundary, hname, rest, hrest, ext, hext, q, hq, haccept⟩ := nameAt_iff.mp h
  cases q with
  | nil => exact .inl (nameAt_iff.mpr ⟨hboundary, hname, rest, hrest, ext, hext, [], hq, rfl⟩)
  | cons d q =>
    have hlen : ((c :: cs).takeWhile (inName isWord)).length ≠ (c :: cs).length := by
      intro heq
      have hall := List.takeWhile_append_dropWhile (p := inName isWord) (l := c :: cs)
      have hsum := congrArg List.length hall
      rw [List.length_append, hrest, heq] at hsum
      simp at hsum
    refine .inr (nameAt_iff.mpr ⟨hboundary, ?_, rest ++ r, ?_, ext, hext, d :: q ++ r, ?_, haccept⟩)
    · rwa [List.takeWhile_append, if_neg hlen]
    · rw [List.dropWhile_append, hrest]
      rfl
    · exact afterLetters_append hq r

private theorem nameIn_append {prev : Option Char} {cs : List Char}
    (h : nameIn isWord same (wordEnd isWord) prev cs = true) (r : List Char) :
    nameIn isWord same List.isEmpty prev cs = true ∨
      nameIn isWord same (wordEnd isWord) prev (cs ++ r) = true := by
  induction cs generalizing prev with
  | nil => cases h
  | cons c cs ih =>
    rw [List.cons_append]
    simp only [nameIn, Bool.or_eq_true] at h ⊢
    rcases h with h | h
    · exact (nameAt_append h r).imp .inl .inl
    · exact (ih h).imp .inr .inr

private theorem nameIn_mono {accept accept' : List Char → Bool}
    (h : ∀ q, accept q = true → accept' q = true)
    {prev : Option Char} {cs : List Char} (hcs : nameIn isWord same accept prev cs = true) :
    nameIn isWord same accept' prev cs = true := by
  induction cs generalizing prev with
  | nil => cases hcs
  | cons c cs ih =>
    simp only [nameIn, Bool.or_eq_true] at hcs ⊢
    rcases hcs with hcs | hcs
    · obtain ⟨hboundary, hname, rest, hrest, ext, hext, q, hq, haccept⟩ := nameAt_iff.mp hcs
      exact .inl (nameAt_iff.mpr ⟨hboundary, hname, rest, hrest, ext, hext, q, hq, h q haccept⟩)
    · exact .inr (ih hcs)

/-- The start of a text without a file name holds one just if it ends in one. -/
theorem hasFilename_cut {cs r : List Char} (h : hasFilename isWord same (cs ++ r) = false) :
    hasFilename isWord same cs = endsInFilename isWord same cs := by
  rw [Bool.eq_iff_iff]
  constructor
  · intro hcs
    refine (nameIn_append hcs r).resolve_right fun hmore => ?_
    rw [hasFilename, hmore] at h
    cases h
  · refine nameIn_mono fun q hq => ?_
    rw [List.isEmpty_iff.mp hq]
    rfl

/-! ### Texts without a name -/

/-- No full stop stands in front of a letter that starts an extension. -/
def NoExtension (same : Char → Char → Bool) (cs : List Char) : Prop :=
  cs.IsChain fun a b => a = '.' → ∀ ext ∈ fileExtensions, ∀ w ∈ ext.head?, same w b = false

private theorem exists_of_nameIn {accept : List Char → Bool} {prev : Option Char} {cs : List Char}
    (h : nameIn isWord same accept prev cs = true) :
    ∃ rest, '.' :: rest <:+ cs ∧ extensionThen same accept rest = true := by
  induction cs generalizing prev with
  | nil => cases h
  | cons c cs ih =>
    simp only [nameIn, Bool.or_eq_true] at h
    rcases h with h | h
    · obtain ⟨-, -, rest, hrest, ext, hext, q, hq, haccept⟩ := nameAt_iff.mp h
      refine ⟨rest, hrest ▸ List.dropWhile_suffix _, List.any_eq_true.mpr ⟨ext, hext, ?_⟩⟩
      rw [hq]
      exact haccept
    · obtain ⟨rest, hrest, hext⟩ := ih h
      exact ⟨rest, hrest.trans (List.suffix_cons c cs), hext⟩

private theorem exists_of_fullNameAt {seen : Bool} {cs : List Char}
    (h : fullNameAt isWord same seen cs = true) :
    ∃ rest, '.' :: rest <:+ cs ∧ extensionThen same textEnd rest = true := by
  induction cs generalizing seen with
  | nil => cases h
  | cons c cs ih =>
    simp only [fullNameAt, Bool.or_eq_true, Bool.and_eq_true, decide_eq_true_eq] at h
    rcases h with ⟨⟨-, rfl⟩, hext⟩ | ⟨-, h⟩
    · exact ⟨cs, List.suffix_rfl, hext⟩
    · obtain ⟨rest, hrest, hext⟩ := ih h
      exact ⟨rest, hrest.trans (List.suffix_cons c cs), hext⟩

private theorem NoExtension.not_extensionThen {accept : List Char → Bool} {cs rest : List Char}
    (h : NoExtension same cs) (hrest : '.' :: rest <:+ cs) :
    extensionThen same accept rest = false := by
  by_contra hext
  rw [Bool.not_eq_false, extensionThen, List.any_eq_true] at hext
  obtain ⟨ext, hext, hmatch⟩ := hext
  have hchain := h.infix hrest.isInfix
  cases ext with
  | nil => exact absurd hext (by decide)
  | cons w ws =>
    cases rest with
    | nil => cases hmatch
    | cons b rest =>
      have hfirst := (List.isChain_cons_cons.mp hchain).1 rfl _ hext w rfl
      rw [afterLetters, if_neg (by simp [hfirst])] at hmatch
      cases hmatch

/-- Without an extension a text has no filename in it. -/
theorem NoExtension.not_hasFilename {cs : List Char} (h : NoExtension same cs) :
    hasFilename isWord same cs = false := by
  by_contra hname
  obtain ⟨rest, hrest, hext⟩ := exists_of_nameIn (Bool.not_eq_false _ ▸ hname)
  rw [h.not_extensionThen hrest] at hext
  cases hext

/-- Without an extension a text is no filename. -/
theorem NoExtension.not_isFullName {cs : List Char} (h : NoExtension same cs) :
    isFullName isWord same cs = false := by
  by_contra hname
  obtain ⟨rest, hrest, hext⟩ := exists_of_fullNameAt (Bool.not_eq_false _ ▸ hname)
  rw [h.not_extensionThen hrest] at hext
  cases hext

/-- A text without a full stop has no extension. -/
theorem noExtension_of_not_mem {cs : List Char} (h : '.' ∉ cs) : NoExtension same cs := by
  induction cs with
  | nil => exact .nil
  | cons a cs ih =>
    simp only [List.mem_cons, not_or] at h
    obtain ⟨ha, hcs⟩ := h
    cases cs with
    | nil => exact .singleton a
    | cons b cs => exact List.isChain_cons_cons.mpr ⟨fun hdot => absurd hdot.symm ha, ih hcs⟩

/-- Texts are put together where no full stop meets a letter that starts an extension. -/
theorem NoExtension.append {cs ds : List Char} (h : NoExtension same cs)
    (h' : NoExtension same ds)
    (hjoint : '.' ∈ cs.getLast? → ∀ b ∈ ds.head?, ∀ ext ∈ fileExtensions, ∀ w ∈ ext.head?,
      same w b = false) :
    NoExtension same (cs ++ ds) :=
  List.isChain_append.mpr ⟨h, h', fun _ ha b hb hdot => hjoint (hdot ▸ ha) b hb⟩

/-- A text without a full stop goes in front of any text. -/
theorem NoExtension.prepend {cs ds : List Char} (h : NoExtension same ds) (hcs : '.' ∉ cs) :
    NoExtension same (cs ++ ds) :=
  (noExtension_of_not_mem hcs).append h fun hdot =>
    absurd (List.mem_of_getLast? (Option.mem_def.mp hdot)) hcs

/-- A text that begins with a blank goes behind any text. -/
theorem FilenameSearch.append_blank [Text] (hsearch : FilenameSearch isWord same)
    {cs ds : List Char} (h : NoExtension same cs) (h' : NoExtension same (' ' :: ds)) :
    NoExtension same (cs ++ ' ' :: ds) := by
  refine h.append h' fun _ b hb ext hext w hw => ?_
  by_contra hsame
  have hword := hsearch.letter ext hext w (List.mem_of_mem_head? hw) b (by simpa using hsame)
  rw [← Option.mem_some_iff.mp hb, hsearch.blank] at hword
  cases hword

/-- A full stop at the end starts no extension. -/
theorem noExtension_concat_dot {cs : List Char} (hcs : '.' ∉ cs) :
    NoExtension same (cs ++ ['.']) :=
  NoExtension.prepend (.singleton '.') hcs

/-- What is cut off at both ends adds no extension. -/
theorem NoExtension.strip [Text] {s : String} (h : NoExtension same s.toList) :
    NoExtension same (strip s).toList := by
  refine List.IsChain.infix h ?_
  rw [Py.strip, String.toList_ofList]
  have hright := List.dropWhile_suffix (l := (s.toList.dropWhile Text.isSpace).reverse) Text.isSpace
  have hleft := List.dropWhile_suffix (l := s.toList) Text.isSpace
  refine List.IsInfix.trans ?_ hleft.isInfix
  rw [← List.reverse_prefix, List.reverse_reverse] at hright
  exact hright.isInfix

end Cut

end DecisionCenter
