import DecisionCenter.Py.JsonText
import DecisionCenter.Py.Regex

/-!
# Fenced replies

`strip_code_fences` of `apps/edr/llm.py`, which `call_llm` runs over a reply that the nodes then
read with `json.loads`. A document that stands in a markdown fence is read as the document
alone, whatever it holds, fences of its own included; a document without a fence is left as it
is.

The regular expression of the source is written out as functions on characters: the opening
marks with the characters of a tag, the rest of the line, and the text up to a line that closes.
A text that does not match is returned as it came. The text in the fence is the shortest one
that nothing but a closing line follows; as the pattern is anchored at its end, a fence within
the document does not end it.

`Fence` is what may stand around a document: white space, a tag, and the line breaks. The tags
are those that the pattern knows, of letters, digits, underscores and hyphens, and a document is
indented by blanks of JSON; both are conditions of the property. `stripCodeFences_wrap` computes
the result for every text that begins and ends with something to read.

A document of JSON is such a text, and does not begin with a mark. So `parsedReply_of_loads`
gives the document back in a fence and without one. `Loader` has what `json.loads` makes of
numbers and of its own three words, which are parameters.
-/

namespace DecisionCenter.Llm

open Py

/-! ### Stripping -/

/-- `[a-zA-Z0-9_-]` -/
def isTagChar (c : Char) : Bool := c.isAlphanum || c = '_' || c = '-'

def ticks : List Char := ['\x60', '\x60', '\x60']

/-- What follows the three backticks. -/
def afterTicks (cs : List Char) : Option (List Char) :=
  if ticks.isPrefixOf cs then some (cs.drop 3) else none

/-- `^\s*` + "```" + `[a-zA-Z0-9_-]*\s*\n`: what follows the opening line. The blanks may run over
several lines, and the last line break of the run is the one that ends them. -/
def afterOpening (cs : List Char) : Option (List Char) := do
  let line ← afterTicks (cs.dropWhile isSpace)
  let line := line.dropWhile isTagChar
  let blanks := line.takeWhile isSpace
  if '\n' ∈ blanks then
    some ((blanks.reverse.takeWhile (· ≠ '\n')).reverse ++ line.dropWhile isSpace)
  else none

/-- `\n?\s*` + "```" + `\s*$`: nothing but the closing line follows. -/
def closes (cs : List Char) : Bool :=
  (afterTicks (cs.dropWhile isSpace)).any fun rest => rest.all isSpace

/-- `(.*?)`: the shortest text that the closing line follows. -/
def fencedText : List Char → Option (List Char)
  | [] => none
  | c :: cs => if closes (c :: cs) then some [] else (fencedText cs).map (c :: ·)

/-- `strip_code_fences` -/
def stripCodeFences (text : String) : String :=
  (((afterOpening text.toList).bind fencedText).map String.ofList).getD text

/-! ### Fences -/

/-- A fence, around a text: the blanks before it, its language, the blanks of its first line, the
indentation of the text and the blanks after the text and after the fence. -/
structure Fence where
  lead : List Char
  language : List Char
  gap : List Char
  indent : List Char
  tail : List Char
  trail : List Char
  lead_blank : ∀ c ∈ lead, isSpace c = true
  language_tag : ∀ c ∈ language, isTagChar c = true
  gap_blank : ∀ c ∈ gap, isSpace c = true
  indent_blank : ∀ c ∈ indent, JsonText.isBlank c = true ∧ c ≠ '\n'
  tail_blank : ∀ c ∈ tail, isSpace c = true
  trail_blank : ∀ c ∈ trail, isSpace c = true

/-- The text in the fence. -/
def Fence.wrap (f : Fence) (doc : String) : String :=
  String.ofList (f.lead ++ (ticks ++ (f.language ++ (f.gap ++ '\n' :: (f.indent ++ (doc.toList ++
    (f.tail ++ (ticks ++ f.trail))))))))

/-- The text begins and ends with something to read. -/
structure Trimmed (doc : String) : Prop where
  head : ∃ c cs, doc.toList = c :: cs ∧ isSpace c = false
  last : ∃ cs c, doc.toList = cs ++ [c] ∧ isSpace c = false

section Strip

private theorem isSpace_of_isBlank {c : Char} (h : JsonText.isBlank c = true) :
    isSpace c = true := by
  simp only [JsonText.isBlank, Bool.or_eq_true, decide_eq_true_eq] at h
  rcases h with ((rfl | rfl) | rfl) | rfl <;> rfl

/-- The characters that are no blanks. -/
def marks (cs : List Char) : List Char := cs.filter fun c => !isSpace c

private theorem marks_append (cs cs' : List Char) : marks (cs ++ cs') = marks cs ++ marks cs' :=
  List.filter_append ..

private theorem marks_eq_nil {cs : List Char} (h : ∀ c ∈ cs, isSpace c = true) : marks cs = [] :=
  List.filter_eq_nil_iff.mpr fun c hc => by simp [h c hc]

private theorem marks_dropWhile (cs : List Char) : marks (cs.dropWhile isSpace) = marks cs := by
  induction cs with
  | nil => rfl
  | cons c cs ih =>
    by_cases hc : isSpace c = true
    · rw [List.dropWhile_cons_of_pos hc, ih, marks, marks, List.filter_cons_of_neg (by simp [hc])]
    · rw [List.dropWhile_cons_of_neg hc]

private theorem afterTicks_eq_some_iff {cs rest : List Char} :
    afterTicks cs = some rest ↔ cs = ticks ++ rest := by
  rw [afterTicks]
  constructor
  · intro h
    split at h
    · next hpre =>
      obtain ⟨rest', rfl⟩ := List.isPrefixOf_iff_prefix.mp hpre
      cases h
      rfl
    · cases h
  · rintro rfl
    exact if_pos (List.isPrefixOf_iff_prefix.mpr (List.prefix_append _ _))

/-- A closing line has three marks. -/
theorem marks_of_closes {cs : List Char} (h : closes cs = true) : marks cs = ticks := by
  obtain ⟨rest, hrest, hall⟩ := (Option.any_eq_true _ _).mp h
  have hticks : cs.dropWhile isSpace = ticks ++ rest := afterTicks_eq_some_iff.mp hrest
  rw [← marks_dropWhile, hticks, marks_append,
    marks_eq_nil fun c hc => List.all_eq_true.mp hall c hc]
  rfl

private theorem dropWhile_blanks {p : Char → Bool} {bs : List Char} (h : ∀ c ∈ bs, p c = true)
    {c : Char} (hc : p c = false) (cs : List Char) : (bs ++ c :: cs).dropWhile p = c :: cs := by
  rw [List.dropWhile_append_of_pos h, List.dropWhile_cons_of_neg (by simp [hc])]

private theorem takeWhile_blanks {p : Char → Bool} {bs : List Char} (h : ∀ c ∈ bs, p c = true)
    {c : Char} (hc : p c = false) (cs : List Char) : (bs ++ c :: cs).takeWhile p = bs := by
  rw [List.takeWhile_append_of_pos h, List.takeWhile_cons_of_neg (by simp [hc]), List.append_nil]

private theorem closes_line {tail trail : List Char} (htail : ∀ c ∈ tail, isSpace c = true)
    (htrail : ∀ c ∈ trail, isSpace c = true) : closes (tail ++ (ticks ++ trail)) = true := by
  have hdrop : (tail ++ (ticks ++ trail)).dropWhile isSpace = ticks ++ trail :=
    dropWhile_blanks htail (by rfl) _
  rw [closes, hdrop, afterTicks_eq_some_iff.mpr rfl]
  exact List.all_eq_true.mpr htrail

/-- The text before the closing line, if it ends with a mark. The search is not greedy, so no
shorter text is closed by what follows it: behind each, there is a mark besides the three. -/
theorem fencedText_append {tail trail : List Char} (htail : ∀ c ∈ tail, isSpace c = true)
    (htrail : ∀ c ∈ trail, isSpace c = true) {last : Char} (hlast : isSpace last = false)
    (cs : List Char) : fencedText (cs ++ [last] ++ (tail ++ (ticks ++ trail))) =
      some (cs ++ [last]) := by
  have hend : fencedText (tail ++ (ticks ++ trail)) = some [] := by
    have hcloses := closes_line htail htrail
    cases htext : tail ++ (ticks ++ trail) with
    | nil => simp [ticks] at htext
    | cons c cs =>
      rw [htext] at hcloses
      rw [fencedText, if_pos hcloses]
  -- what is left of the text holds a mark besides the three of the closing line
  have hopen (cs : List Char) : closes (cs ++ [last] ++ (tail ++ (ticks ++ trail))) = false := by
    refine Bool.eq_false_iff.mpr fun hcloses => ?_
    have hmarks := congrArg List.length (marks_of_closes hcloses)
    have hmark : marks [last] = [last] := List.filter_cons_of_pos (by simp [hlast])
    have hticks : (marks ticks).length = 3 := rfl
    simp only [marks_append, List.length_append, hmark, List.length_singleton, hticks] at hmarks
    have hthree : ticks.length = 3 := rfl
    omega
  induction cs with
  | nil =>
    have hnil := hopen []
    rw [List.nil_append, List.singleton_append] at hnil ⊢
    rw [fencedText, if_neg (Bool.eq_false_iff.mp hnil), hend]
    rfl
  | cons c cs ih =>
    have hcons := hopen (c :: cs)
    rw [List.cons_append, List.cons_append] at hcons ⊢
    rw [fencedText, if_neg (Bool.eq_false_iff.mp hcons), ih]
    rfl

private theorem not_isTagChar {c : Char} (h : isSpace c = true) : isTagChar c = false := by
  refine Bool.eq_false_iff.mpr fun htag => ?_
  have halnum : c.isAlphanum = (decide ('A'.val ≤ c.val ∧ c.val ≤ 'Z'.val) ||
      (decide ('a'.val ≤ c.val) && decide (c.val ≤ 'z'.val)) ||
      (decide ('0'.val ≤ c.val) && decide (c.val ≤ '9'.val))) := rfl
  have hval : c.val.toNat = c.toNat := rfl
  have hA : 'A'.val.toNat = 0x41 ∧ 'Z'.val.toNat = 0x5a := ⟨rfl, rfl⟩
  have ha : 'a'.val.toNat = 0x61 ∧ 'z'.val.toNat = 0x7a := ⟨rfl, rfl⟩
  have h0 : '0'.val.toNat = 0x30 ∧ '9'.val.toNat = 0x39 := ⟨rfl, rfl⟩
  simp only [isTagChar, halnum, Bool.or_eq_true, Bool.and_eq_true, decide_eq_true_eq,
    UInt32.le_iff_toNat_le, hval, hA, ha, h0] at htag
  simp only [isSpace, Bool.or_eq_true, Bool.and_eq_true, decide_eq_true_eq, beq_iff_eq] at h
  rcases htag with (htag | rfl) | rfl
  · omega
  · exact absurd h (by decide)
  · exact absurd h (by decide)

/-- The opening line of a fence is recognised, and what follows it begins with the indentation of
the text. -/
private theorem afterOpening_wrap (f : Fence) {c : Char} (hc : isSpace c = false) (cs : List Char) :
    afterOpening (f.lead ++ (ticks ++ (f.language ++ (f.gap ++ '\n' :: (f.indent ++ c :: cs))))) =
      some (f.indent ++ c :: cs) := by
  have hlead (rest : List Char) :
      (f.lead ++ (ticks ++ rest)).dropWhile isSpace = ticks ++ rest :=
    dropWhile_blanks f.lead_blank (by rfl) _
  have hindent : ∀ c ∈ f.indent, isSpace c = true :=
    fun c hc => isSpace_of_isBlank (f.indent_blank c hc).1
  have hblank : ∀ c ∈ f.gap ++ '\n' :: f.indent, isSpace c = true := by
    intro c hc
    obtain hc | hc := List.mem_append.mp hc
    · exact f.gap_blank c hc
    · obtain rfl | hc := List.mem_cons.mp hc
      · rfl
      · exact hindent c hc
  have hassoc : f.gap ++ '\n' :: (f.indent ++ c :: cs) =
      f.gap ++ '\n' :: f.indent ++ c :: cs := by
    rw [List.append_assoc, List.cons_append]
  -- the language ends where a blank comes, as no blank is a letter of a language
  have hlanguage : (f.language ++ (f.gap ++ '\n' :: f.indent ++ c :: cs)).dropWhile isTagChar =
      f.gap ++ '\n' :: f.indent ++ c :: cs := by
    rw [List.dropWhile_append_of_pos f.language_tag]
    cases hgap : f.gap ++ '\n' :: f.indent with
    | nil => simp at hgap
    | cons b bs =>
      have hb : isSpace b = true := hblank b (by rw [hgap]; exact List.mem_cons_self)
      rw [List.cons_append, List.dropWhile_cons_of_neg (by simp [not_isTagChar hb])]
  -- the blanks behind the last line break belong to the document
  have hlast : ((f.gap ++ '\n' :: f.indent).reverse.takeWhile (· ≠ '\n')).reverse = f.indent := by
    rw [List.reverse_append, List.reverse_cons, List.append_assoc, List.singleton_append,
      takeWhile_blanks (fun c hc => ?_) (by rfl), List.reverse_reverse]
    simpa using (f.indent_blank c (List.mem_reverse.mp hc)).2
  rw [hassoc, afterOpening, hlead, afterTicks_eq_some_iff.mpr rfl, Option.bind_eq_bind,
    Option.bind_some]
  dsimp only
  rw [hlanguage, takeWhile_blanks hblank hc, dropWhile_blanks hblank hc, hlast,
    if_pos (by simp)]

/-- The text in a fence, with its indentation. -/
theorem stripCodeFences_wrap (f : Fence) {doc : String} (h : Trimmed doc) :
    stripCodeFences (f.wrap doc) = String.ofList (f.indent ++ doc.toList) := by
  obtain ⟨c, cs, hhead, hc⟩ := h.head
  obtain ⟨init, last, hlast, hend⟩ := h.last
  have hopen : afterOpening (f.wrap doc).toList =
      some (f.indent ++ (doc.toList ++ (f.tail ++ (ticks ++ f.trail)))) := by
    rw [Fence.wrap, String.toList_ofList, hhead, List.cons_append]
    exact afterOpening_wrap f hc _
  have htext : fencedText (f.indent ++ (doc.toList ++ (f.tail ++ (ticks ++ f.trail)))) =
      some (f.indent ++ doc.toList) := by
    rw [hlast, ← List.append_assoc, ← List.append_assoc f.indent init]
    exact fencedText_append f.tail_blank f.trail_blank hend _
  rw [stripCodeFences, hopen, Option.bind_some, htext]
  rfl

end Strip

/-! ### Reading -/

section Read

variable {F : Type}

/-- What `json.loads` makes of numbers and of its three own words. -/
structure Loader (F : Type) where
  number : List Char → Option (Value F)
  nan : Value F
  infinity : Value F
  negInfinity : Value F

/-- The language that `json.loads` reads. -/
def Loader.dialect (p : Loader F) : JsonText.Dialect F where
  integer := .int
  number := p.number
  words := [(['N', 'a', 'N'], p.nan), (['I', 'n', 'f', 'i', 'n', 'i', 't', 'y'], p.infinity),
    (['-', 'I', 'n', 'f', 'i', 'n', 'i', 't', 'y'], p.negInfinity)]

/-- `json.loads(result.content)`, where `call_llm` was called with `expect_json`. -/
def parsedReply (p : Loader F) (reply : String) : Option (Value F) :=
  JsonText.loads p.dialect (stripCodeFences reply)

/-- A document that does not begin with a blank is no fence. -/
theorem stripCodeFences_of_loads {p : Loader F} {doc : String} {v : Value F}
    (h : JsonText.loads p.dialect doc = some v) {c : Char} {cs : List Char}
    (hdoc : doc.toList = c :: cs) (hc : isSpace c = false) : stripCodeFences doc = doc := by
  have hticks : afterTicks (c :: cs) = none := by
    refine Option.eq_none_iff_forall_ne_some.mpr fun rest hrest => ?_
    rw [afterTicks_eq_some_iff.mp hrest] at hdoc
    rw [JsonText.loads, hdoc] at h
    cases h
  have hopen : afterOpening doc.toList = none := by
    rw [afterOpening, hdoc, List.dropWhile_cons_of_neg (by simp [hc]), hticks]
    rfl
  rw [stripCodeFences, hopen]
  rfl

/-- A document is read in a fence as it is without one. What stands in front of it and behind it is
stripped, and a document never begins with what a fence begins with. -/
theorem parsedReply_of_loads {p : Loader F} {doc : String} {v : Value F} (hdoc : Trimmed doc)
    (h : JsonText.loads p.dialect doc = some v) (f : Fence) :
    parsedReply p doc = some v ∧ parsedReply p (f.wrap doc) = some v := by
  obtain ⟨c, cs, hhead, hc⟩ := hdoc.head
  constructor
  · rw [parsedReply, stripCodeFences_of_loads h hhead hc, h]
  · rw [parsedReply, stripCodeFences_wrap f hdoc]
    exact JsonText.loads_blanks (fun c hc => (f.indent_blank c hc).1) h

end Read

section Example

/-- A reader without floats. -/
def wholeLoader : Loader ℤ := ⟨fun _ => none, .null, .null, .null⟩

/-- The fence that providers put around an answer. -/
def jsonFence : Fence where
  lead := []
  language := ['j', 's', 'o', 'n']
  gap := []
  indent := []
  tail := ['\n']
  trail := ['\n']
  lead_blank := by simp
  language_tag := List.all_eq_true.mp rfl
  gap_blank := by simp
  indent_blank := by simp
  tail_blank := by simp [isSpace]
  trail_blank := by simp [isSpace]

/-- A text that is a fence itself. -/
def ticksDocument : String := JsonText.dumps (.plain fun _ : ℤ => []) (.str "```")

private theorem trimmed_ticksDocument : Trimmed ticksDocument where
  head := ⟨'"', _, String.toList_ofList, rfl⟩
  last := ⟨'"' :: "```".toList.flatMap (JsonText.escapeChar true), '"', String.toList_ofList, rfl⟩

/-- A document that is a fence itself is read the same within one. -/
theorem parsedReply_ticks :
    parsedReply wholeLoader ticksDocument = some (.str "```") ∧
      parsedReply wholeLoader (jsonFence.wrap ticksDocument) = some (.str "```") :=
  parsedReply_of_loads trimmed_ticksDocument (JsonText.loads_dumps (.str "```")) jsonFence

end Example

end DecisionCenter.Llm
