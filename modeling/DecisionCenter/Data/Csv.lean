import Mathlib.Data.List.Basic
import Mathlib.Data.String.Basic

/-!
# Comma-separated values

A reader of comma-separated text, character by character: fields may stand in double quotes,
where a doubled quote is one quote, and outside quotes a line feed, a carriage return or the two
together end a record. The reader is a fold over the text (`read`), its state the records that
have ended, the current record, the current field and a `Mode`; `parse` closes what is open at
the end.

The writer is left to its user. `write` takes any function that writes a field, and
`ReadsAs written field` is what it has to meet: put between two separators, the written text is
read as the field. `readsAs_of_plain` and `readsAs_quote` are the two ways to meet it, bare and
in quotes.

`parse_write_iff` is the main result: records come back, all of them, exactly if every field is
read as itself. One direction is an induction on the records. For the other one it is assumed
that a field that is not read as itself is cut short by a carriage return (`CutShort`), and the
first such field leaves a record that no later text can repair, since what has ended stays ended
(`records_prefix_foldl`).
-/

namespace DecisionCenter.Csv

/-- Where the reader is: outside quotes, inside them, after the quote that may close them, or after
a carriage return that has ended a record. -/
inductive Mode where
  | bare
  | quoted
  | closed
  | afterCr
  deriving DecidableEq, Repr

/-- The records read, and the current record and field. -/
structure Reader where
  records : List (List (List Char))
  record : List (List Char)
  field : List Char
  mode : Mode

namespace Reader

/-- At the beginning of a field. -/
def atField (records : List (List (List Char))) (record : List (List Char)) : Reader :=
  ⟨records, record, [], .bare⟩

/-- The current field ends, and the record with it. -/
def endRecord (r : Reader) : Reader := atField (r.records ++ [r.record ++ [r.field]]) []

/-- A character outside quotes. -/
def readOpen (r : Reader) (c : Char) : Reader :=
  if c = ',' then atField r.records (r.record ++ [r.field])
  else if c = '\n' then r.endRecord
  else if c = '\r' then { r.endRecord with mode := .afterCr }
  else { r with field := r.field ++ [c], mode := .bare }

def read (r : Reader) (c : Char) : Reader :=
  match r.mode with
  | .bare => if c = '"' ∧ r.field = [] then { r with mode := .quoted } else r.readOpen c
  | .quoted =>
    if c = '"' then { r with mode := .closed } else { r with field := r.field ++ [c] }
  | .closed =>
    if c = '"' then { r with field := r.field ++ [c], mode := .quoted } else r.readOpen c
  | .afterCr =>
    if c = '\n' then { r with mode := .bare }
    else if c = '"' then { r with mode := .quoted } else r.readOpen c

/-- The records at the end of the text: a line break at the end begins no record. -/
def finish (r : Reader) : List (List (List Char)) :=
  if r.record = [] ∧ r.field = [] ∧ (r.mode = .bare ∨ r.mode = .afterCr) then r.records
  else r.endRecord.records

end Reader

open Reader

/-- The records of a text. -/
def parse (text : List Char) : List (List (List Char)) := (text.foldl read (atField [] [])).finish

/-! ### Writing -/

/-- A field in quotes. -/
def quote (field : List Char) : List Char :=
  '"' :: (field.flatMap fun c => if c = '"' then ['"', '"'] else [c]) ++ ['"']

/-- Records of which each field is written by `e`. -/
def write (e : List Char → List Char) (records : List (List (List Char))) : List Char :=
  records.flatMap fun fields => [','].intercalate (fields.map e) ++ ['\n']

/-- A character that is the same outside quotes as inside. -/
def Plain (c : Char) : Prop := c ≠ ',' ∧ c ≠ '"' ∧ c ≠ '\n' ∧ c ≠ '\r'

/-- The written field is read as the field. -/
def ReadsAs (written field : List Char) : Prop :=
  ∀ records record, ∃ mode, (mode = .bare ∨ mode = .closed) ∧
    written.foldl read (atField records record) = ⟨records, record, field, mode⟩

/-- A carriage return ends the written field, and its record, too early. -/
def CutShort (written field : List Char) : Prop :=
  ∃ before after, written = before ++ '\r' :: after ∧ (∀ c ∈ before, Plain c) ∧ before ≠ field

/-! ### Fields -/

section Fields

variable {records : List (List (List Char))} {record : List (List Char)} {field : List Char}

/-- Plain characters are appended to the field that is being read. -/
theorem foldl_read_plain {cs : List Char} (h : ∀ c ∈ cs, Plain c) :
    cs.foldl read ⟨records, record, field, .bare⟩ = ⟨records, record, field ++ cs, .bare⟩ := by
  induction cs generalizing field with
  | nil => simp
  | cons c cs ih =>
    obtain ⟨⟨hcomma, hquote, hlf, hcr⟩, hcs⟩ := List.forall_mem_cons.mp h
    have hread : read ⟨records, record, field, .bare⟩ c =
        ⟨records, record, field ++ [c], .bare⟩ := by
      rw [Reader.read]
      simp only [hquote, false_and, if_false, readOpen, hcomma, hlf, hcr]
    rw [List.foldl_cons, hread, ih hcs, List.append_assoc, List.singleton_append]

/-- A field of plain characters is read as it is written. -/
theorem readsAs_of_plain (h : ∀ c ∈ field, Plain c) : ReadsAs field field := fun _ _ =>
  ⟨.bare, .inl rfl, foldl_read_plain h⟩

/-- Inside quotes, doubled quotes are quotes and everything else is itself. -/
theorem foldl_read_doubled (cs : List Char) :
    (cs.flatMap fun c => if c = '"' then ['"', '"'] else [c]).foldl read
        ⟨records, record, field, .quoted⟩ = ⟨records, record, field ++ cs, .quoted⟩ := by
  induction cs generalizing field with
  | nil => simp
  | cons c cs ih =>
    have hread : (if c = '"' then ['"', '"'] else [c]).foldl read
        ⟨records, record, field, .quoted⟩ = ⟨records, record, field ++ [c], .quoted⟩ := by
      by_cases hquote : c = '"'
      · subst hquote
        rfl
      · rw [if_neg hquote, List.foldl_cons, Reader.read]
        simp only [if_neg hquote, List.foldl_nil]
    rw [List.flatMap_cons, List.foldl_append, hread, ih, List.append_assoc, List.singleton_append]

/-- A quoted field is read as the field, quotes within it being doubled. -/
theorem readsAs_quote (field : List Char) : ReadsAs (quote field) field := by
  refine fun records record => ⟨.closed, .inr rfl, ?_⟩
  have hopen : read (atField records record) '"' = ⟨records, record, [], .quoted⟩ := rfl
  rw [quote, List.cons_append, List.foldl_cons, hopen, List.foldl_append, foldl_read_doubled]
  rfl

/-- A comma behind a field ends the field. -/
theorem read_comma {mode : Mode} (h : mode = .bare ∨ mode = .closed) :
    read ⟨records, record, field, mode⟩ ',' = atField records (record ++ [field]) := by
  obtain rfl | rfl := h <;> rfl

/-- A line feed behind a field ends the field and its record. -/
theorem read_lineFeed {mode : Mode} (h : mode = .bare ∨ mode = .closed) :
    read ⟨records, record, field, mode⟩ '\n' = atField (records ++ [record ++ [field]]) [] := by
  obtain rfl | rfl := h <;> rfl

end Fields

/-! ### Records -/

/-- Whatever is read, the records that have ended stay. A character can at most add the record that
is open. -/
theorem records_prefix_read (r : Reader) (c : Char) : r.records <+: (r.read c).records := by
  have hopen : r.records <+: (r.readOpen c).records := by
    rw [readOpen]
    split
    · exact List.prefix_rfl
    split
    · exact List.prefix_append _ _
    split
    · exact List.prefix_append _ _
    · exact List.prefix_rfl
  rw [Reader.read]
  split
  · split
    · exact List.prefix_rfl
    · exact hopen
  · split <;> exact List.prefix_rfl
  · split
    · exact List.prefix_rfl
    · exact hopen
  · split
    · exact List.prefix_rfl
    split
    · exact List.prefix_rfl
    · exact hopen

/-- The records that have been read stay, whatever comes next. -/
theorem records_prefix_foldl (text : List Char) (r : Reader) :
    r.records <+: (text.foldl read r).records := by
  induction text generalizing r with
  | nil => exact List.prefix_rfl
  | cons c text ih => exact (records_prefix_read r c).trans (ih (r.read c))

/-- They stay at the end of the text as well. -/
theorem records_prefix_finish (text : List Char) (r : Reader) :
    r.records <+: (text.foldl read r).finish := by
  refine (records_prefix_foldl text r).trans ?_
  rw [finish]
  split
  · exact List.prefix_rfl
  · exact List.prefix_append _ _

/-- What is read up to the carriage return that cuts a field short, and after it. -/
theorem foldl_read_cut {before : List Char} (hplain : ∀ c ∈ before, Plain c) (after : List Char)
    (records : List (List (List Char))) (record : List (List Char)) :
    (before ++ '\r' :: after).foldl read (atField records record) =
      after.foldl read ⟨records ++ [record ++ [before]], [], [], .afterCr⟩ := by
  rw [List.foldl_append, atField, foldl_read_plain hplain, List.nil_append, List.foldl_cons]
  rfl

/-- A field whose text ends the record early is not read as itself. -/
theorem CutShort.not_readsAs {written field : List Char} (h : CutShort written field) :
    ¬ ReadsAs written field := by
  intro hreads
  obtain ⟨before, after, rfl, hplain, -⟩ := h
  obtain ⟨mode, -, hread⟩ := hreads [] []
  rw [foldl_read_cut hplain] at hread
  have hprefix := records_prefix_foldl after ⟨[[before]], [], [], .afterCr⟩
  rw [List.nil_append, List.nil_append] at hread
  rw [hread] at hprefix
  exact List.cons_ne_nil _ _ (List.prefix_nil.mp hprefix)

section Records

variable {e : List Char → List Char}

/-- A line is read as its fields, if each of them is read as itself: a separator opens the next
field, and the line feed ends the record. -/
theorem foldl_read_line {fields : List (List Char)} (hne : fields ≠ [])
    (h : ∀ f ∈ fields, ReadsAs (e f) f) (records : List (List (List Char)))
    (record : List (List Char)) :
    ([','].intercalate (fields.map e) ++ ['\n']).foldl read (atField records record) =
      atField (records ++ [record ++ fields]) [] := by
  induction fields generalizing record with
  | nil => exact absurd rfl hne
  | cons f fields ih =>
    obtain ⟨hf, hfields⟩ := List.forall_mem_cons.mp h
    obtain ⟨mode, hmode, hread⟩ := hf records record
    cases fields with
    | nil =>
      rw [List.map_singleton, List.intercalate_singleton, List.foldl_append, hread]
      exact read_lineFeed hmode
    | cons g fields =>
      rw [List.map_cons, List.map_cons, List.intercalate_cons_cons, List.append_assoc,
        List.append_assoc, List.foldl_append, hread, List.singleton_append, List.foldl_cons,
        read_comma hmode, ← List.map_cons, ih (List.cons_ne_nil _ _) hfields, List.append_assoc,
        List.singleton_append]

/-- The first field that is cut short leaves a record that is not the one written. The fields before
it are read as themselves, and what comes later cannot mend the record, as the ones that have ended
stay. -/
theorem exists_cut {fields : List (List Char)}
    (hcases : ∀ f ∈ fields, ReadsAs (e f) f ∨ CutShort (e f) f)
    (h : ¬ ∀ f ∈ fields, ReadsAs (e f) f) :
    ∃ fields', fields' ≠ fields ∧ ∀ records record rest,
      records ++ [record ++ fields'] <+:
        (([','].intercalate (fields.map e) ++ rest).foldl read
          (atField records record)).finish := by
  induction fields with
  | nil => simp at h
  | cons f fields ih =>
    obtain ⟨hf, hfields⟩ := List.forall_mem_cons.mp hcases
    rw [List.forall_mem_cons] at h
    obtain hreads | ⟨before, after, hwritten, hplain, hbefore⟩ := hf
    · -- the field is read, and a later one is cut short
      have hlater : ¬ ∀ f ∈ fields, ReadsAs (e f) f := fun hall => h ⟨hreads, hall⟩
      obtain ⟨fields', hne, hprefix⟩ := ih hfields hlater
      refine ⟨f :: fields', fun heq => hne (List.cons.inj heq).2, fun records record rest => ?_⟩
      obtain ⟨mode, hmode, hread⟩ := hreads records record
      cases fields with
      | nil => simp at hlater
      | cons g fields =>
        have hrest := hprefix records (record ++ [f]) rest
        rw [List.append_assoc, List.singleton_append] at hrest
        rw [List.map_cons, List.map_cons, List.intercalate_cons_cons, List.append_assoc,
          List.append_assoc, List.foldl_append, hread, List.singleton_append, List.foldl_cons,
          read_comma hmode, ← List.map_cons]
        exact hrest
    · -- the carriage return ends the record here
      refine ⟨[before], fun heq => hbefore (List.cons.inj heq).1, fun records record rest => ?_⟩
      obtain ⟨tail, htail⟩ : ∃ tail, [','].intercalate ((f :: fields).map e) ++ rest =
          before ++ '\r' :: tail := by
        cases fields with
        | nil => exact ⟨after ++ rest, by simp [hwritten]⟩
        | cons g fields =>
          refine ⟨after ++ (',' :: [','].intercalate ((g :: fields).map e) ++ rest), ?_⟩
          rw [List.map_cons, List.map_cons, List.intercalate_cons_cons, hwritten]
          simp
      rw [htail, foldl_read_cut hplain]
      exact records_prefix_finish tail ⟨records ++ [record ++ [before]], [], [], .afterCr⟩

/-- What is written comes back exactly if every field is read as itself. One direction reads line by
line; in the other the first field that is cut short gives a record which is not there. -/
theorem parse_write_iff {records : List (List (List Char))} (hne : ∀ fields ∈ records, fields ≠ [])
    (hcases : ∀ fields ∈ records, ∀ f ∈ fields, ReadsAs (e f) f ∨ CutShort (e f) f) :
    parse (write e records) = records ↔
      ∀ fields ∈ records, ∀ f ∈ fields, ReadsAs (e f) f := by
  suffices hfrom : ∀ done : List (List (List Char)),
      ((write e records).foldl read (atField done [])).finish = done ++ records ↔
        ∀ fields ∈ records, ∀ f ∈ fields, ReadsAs (e f) f from hfrom []
  induction records with
  | nil =>
    refine fun done => iff_of_true ?_ (by simp)
    rw [List.append_nil]
    exact if_pos ⟨rfl, rfl, .inl rfl⟩
  | cons fields records ih =>
    intro done
    obtain ⟨hfields, hrecords⟩ := List.forall_mem_cons.mp hne
    obtain ⟨hhead, htail⟩ := List.forall_mem_cons.mp hcases
    rw [write, List.flatMap_cons, ← write, List.forall_mem_cons]
    by_cases hreads : ∀ f ∈ fields, ReadsAs (e f) f
    · have hrest := ih hrecords htail (done ++ [fields])
      rw [List.append_assoc, List.singleton_append] at hrest
      rw [List.foldl_append, foldl_read_line hfields hreads, List.nil_append, hrest]
      exact (and_iff_right hreads).symm
    · refine iff_of_false (fun heq => ?_) fun h => hreads h.1
      obtain ⟨fields', hcut, hprefix⟩ := exists_cut hhead hreads
      have hread := hprefix done [] (['\n'] ++ write e records)
      rw [← List.append_assoc, heq, List.nil_append, ← List.singleton_append (l := records),
        List.prefix_append_right_inj] at hread
      exact hcut (List.cons_prefix_cons.mp hread).1

end Records

end DecisionCenter.Csv
