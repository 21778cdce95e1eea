import DecisionCenter.Data.Csv
import DecisionCenter.Py.Runtime

/-!
# The export of the audit events

`export_admin_audit_csv` and `_csv_escape` (`apps/edr/app.py`). A field with a comma, a quote or
a line feed is put in quotes; one whose only special character is a carriage return is not,
although it would be read as the end of the record.

The export is a text, and `LosslessExport` says what it is worth to a program that reads it:
parsed as comma-separated values it gives the header and one record for each event, with the
fields that were exported. `losslessExport_iff` is exact for every list of events: the export is
lossless if and only if no exported value has a carriage return without one of the characters
for which a field is put in quotes.

The text is brought into the form that `Data.Csv` speaks of (`exportCsv_eq`), so that what is
left is a question about one field at a time. A field that is written without quotes is read as
itself or cut short by a carriage return, and nothing else can happen to it
(`escapeChars_cases`).

A missing detail is exported as the text `None` and the other missing values as nothing; both
are what the source writes, and the export of either is read back as what was written. How a
time is written is a parameter.
-/

namespace DecisionCenter.Audits

open Py Csv

/-- The time of an event: a `datetime`, or what the row has instead, as text. -/
inductive EventTime (D : Type) where
  | datetime (t : D)
  | text (s : String)

/-- A row of `list_audit_events`. -/
structure AuditEvent (D : Type) where
  eventId : String
  eventType : String
  ts : EventTime D
  userIdHash : Option String
  projectCode : Option String
  service : Option String
  detail : Option String

/-- `_csv_escape` -/
def csvEscape (value : String) : String :=
  if contains value "," || contains value "\"" || contains value "\n" then
    "\"" ++ String.ofList (value.toList.flatMap fun c => if c = '"' then ['"', '"'] else [c]) ++
      "\""
  else value

/-- The columns of the export. -/
def exportHeader : List String :=
  ["event_id", "event_type", "ts", "user_id_hash", "project_code", "service", "detail"]

section Export

variable {D : Type} (isoformat : D → String)

/-- The values that are exported of an event: no hash, project or service is the empty string, and
no detail is `str(None)`. -/
def exportedFields (r : AuditEvent D) : List String :=
  [r.eventId, r.eventType,
    match r.ts with
    | .datetime t => isoformat t
    | .text s => s,
    r.userIdHash.getD "", r.projectCode.getD "", r.service.getD "", r.detail.getD "None"]

/-- The text that `export_admin_audit_csv` makes of the events. -/
def exportCsv (rows : List (AuditEvent D)) : String :=
  let lines := "event_id,event_type,ts,user_id_hash,project_code,service,detail" ::
    rows.map fun r => join "," ((exportedFields isoformat r).map csvEscape)
  join "\n" lines ++ "\n"

/-- The field is not what a carriage return alone makes special. -/
def KeepsReturns (field : String) : Prop :=
  '\r' ∈ field.toList → ',' ∈ field.toList ∨ '"' ∈ field.toList ∨ '\n' ∈ field.toList

/-- The export, read again, is the header and one record for each event. -/
def LosslessExport (rows : List (AuditEvent D)) : Prop :=
  (parse (exportCsv isoformat rows).toList).map (·.map String.ofList) =
    exportHeader :: rows.map (exportedFields isoformat)

/-! ### The text as records -/

private theorem contains_char {s sub : String} {c : Char} (h : sub.toList = [c]) :
    contains s sub = true ↔ c ∈ s.toList := by
  rw [contains_iff, h, List.singleton_infix_iff]

/-- A field is written in quotes if one of three characters occurs in it. -/
theorem toList_csvEscape (value : String) :
    (csvEscape value).toList =
      if ',' ∈ value.toList ∨ '"' ∈ value.toList ∨ '\n' ∈ value.toList then quote value.toList
      else value.toList := by
  have hcond : (contains value "," || contains value "\"" || contains value "\n") = true ↔
      ',' ∈ value.toList ∨ '"' ∈ value.toList ∨ '\n' ∈ value.toList := by
    rw [Bool.or_eq_true, Bool.or_eq_true, or_assoc]
    exact or_congr (contains_char rfl) (or_congr (contains_char rfl) (contains_char rfl))
  rw [csvEscape, if_congr hcond rfl rfl]
  split
  · rw [String.toList_append, String.toList_append]
    simp only [String.toList_ofList, quote]
    rfl
  · rfl

/-- `_csv_escape` on the characters of a field. -/
def escapeChars (field : List Char) : List Char := (csvEscape (String.ofList field)).toList

private theorem toList_join (sep : String) (xs : List String) :
    (join sep xs).toList = sep.toList.intercalate (xs.map String.toList) := by
  induction xs with
  | nil => rfl
  | cons x xs ih =>
    cases xs with
    | nil => rw [join, List.map_singleton, List.intercalate_singleton]
    | cons y xs =>
      rw [join, String.toList_append, String.toList_append, ih, List.map_cons, List.map_cons,
        List.map_cons, List.intercalate_cons_cons]

private theorem toList_lines {lines : List String} (h : lines ≠ []) :
    (join "\n" lines ++ "\n").toList = lines.flatMap fun line => line.toList ++ ['\n'] := by
  have hbreak : "\n".toList = ['\n'] := rfl
  induction lines with
  | nil => exact absurd rfl h
  | cons x xs ih =>
    cases xs with
    | nil => rw [join, String.toList_append, List.flatMap_singleton, hbreak]
    | cons y xs =>
      have hrest := ih (List.cons_ne_nil _ _)
      rw [String.toList_append] at hrest
      rw [join, String.toList_append, String.toList_append, String.toList_append, List.append_assoc,
        hrest, hbreak, List.flatMap_cons (x := x), List.append_assoc]

private theorem toList_record (fields : List String) :
    (join "," (fields.map csvEscape)).toList =
      [','].intercalate ((fields.map String.toList).map escapeChars) := by
  have hcomma : ",".toList = [','] := rfl
  have hfields : (fields.map csvEscape).map String.toList =
      (fields.map String.toList).map escapeChars := by
    rw [List.map_map, List.map_map]
    refine List.map_congr_left fun field _ => ?_
    rw [Function.comp_apply, Function.comp_apply, escapeChars, String.ofList_toList]
  rw [toList_join, hcomma, hfields]

private theorem exportCsv_eq (rows : List (AuditEvent D)) :
    (exportCsv isoformat rows).toList =
      write escapeChars
        ((exportHeader :: rows.map (exportedFields isoformat)).map (·.map String.toList)) := by
  have hheader : join "," (exportHeader.map csvEscape) =
      "event_id,event_type,ts,user_id_hash,project_code,service,detail" := by decide +kernel
  have hlines : "event_id,event_type,ts,user_id_hash,project_code,service,detail" ::
      rows.map (fun r => join "," ((exportedFields isoformat r).map csvEscape)) =
        (exportHeader :: rows.map (exportedFields isoformat)).map
          fun fields => join "," (fields.map csvEscape) := by
    rw [List.map_cons, hheader, List.map_map]
    rfl
  rw [exportCsv, hlines, toList_lines (by simp), write, List.flatMap_map, List.flatMap_map]
  refine List.flatMap_congr fun fields _ => ?_
  rw [toList_record]

/-! ### What comes back -/

/-- Outside quotes, only a carriage return can end a field too early. What is quoted is read as
itself whatever it holds, so that the cases are those of `csvEscape`. -/
theorem escapeChars_cases (field : String) :
    ReadsAs (escapeChars field.toList) field.toList ∧ KeepsReturns field ∨
      CutShort (escapeChars field.toList) field.toList ∧ ¬ KeepsReturns field := by
  rw [escapeChars, String.ofList_toList, toList_csvEscape]
  split
  case isTrue h => exact .inl ⟨readsAs_quote _, fun _ => h⟩
  case isFalse h =>
    by_cases hreturn : '\r' ∈ field.toList
    · refine .inr ⟨?_, fun hkeeps => h (hkeeps hreturn)⟩
      obtain ⟨before, after, hfield, hfirst⟩ := List.eq_append_cons_of_mem hreturn
      refine ⟨before, after, hfield, fun c hc => ?_, fun heq => ?_⟩
      · have hmem : c ∈ field.toList := hfield ▸ List.mem_append_left _ hc
        refine ⟨?_, ?_, ?_, ?_⟩ <;> rintro rfl
        · exact h (.inl hmem)
        · exact h (.inr (.inl hmem))
        · exact h (.inr (.inr hmem))
        · exact hfirst hc
      · rw [heq] at hfirst
        exact hfirst hreturn
    · refine .inl ⟨readsAs_of_plain fun c hc => ?_, fun hmem => absurd hmem hreturn⟩
      refine ⟨?_, ?_, ?_, ?_⟩ <;> rintro rfl
      · exact h (.inl hc)
      · exact h (.inr (.inl hc))
      · exact h (.inr (.inr hc))
      · exact hreturn hc

private theorem readsAs_escapeChars_iff (field : String) :
    ReadsAs (escapeChars field.toList) field.toList ↔ KeepsReturns field := by
  obtain ⟨hreads, hkeeps⟩ | ⟨hcut, hreturns⟩ := escapeChars_cases field
  · exact iff_of_true hreads hkeeps
  · exact iff_of_false hcut.not_readsAs hreturns

private theorem map_ofList_eq_iff {texts : List (List (List Char))} {records : List (List String)} :
    texts.map (·.map String.ofList) = records ↔ texts = records.map (·.map String.toList) := by
  have hback : ∀ fields : List (List Char),
      (fields.map String.ofList).map String.toList = fields := by
    simp
  have hforth : ∀ fields : List String, (fields.map String.toList).map String.ofList = fields := by
    simp
  constructor
  · rintro rfl
    simp only [List.map_map, Function.comp_def, hback, List.map_id']
  · rintro rfl
    simp only [List.map_map, Function.comp_def, hforth, List.map_id']

private theorem keepsReturns_exportHeader : ∀ field ∈ exportHeader, KeepsReturns field := by
  have hnone : (exportHeader.all fun field => !field.toList.contains '\r') = true := by
    decide +kernel
  intro field hfield hmem
  have hfalse := List.all_eq_true.mp hnone field hfield
  simp [hmem] at hfalse

/-- The export is lossless if and only if no exported value has a carriage return without one of the
characters for which a field is put in quotes. Any reader of the format takes a bare carriage return
for the end of a record. -/
theorem losslessExport_iff (rows : List (AuditEvent D)) :
    LosslessExport isoformat rows ↔
      ∀ r ∈ rows, ∀ field ∈ exportedFields isoformat r, KeepsReturns field := by
  have hne : ∀ fields ∈ exportHeader :: rows.map (exportedFields isoformat), fields ≠ [] := by
    rw [List.forall_mem_cons, List.forall_mem_map]
    exact ⟨List.cons_ne_nil _ _, fun _ _ => List.cons_ne_nil _ _⟩
  generalize hrecords : exportHeader :: rows.map (exportedFields isoformat) = records at hne
  rw [LosslessExport, exportCsv_eq, hrecords, map_ofList_eq_iff, parse_write_iff]
  · simp only [List.forall_mem_map, readsAs_escapeChars_iff]
    rw [← hrecords, List.forall_mem_cons, List.forall_mem_map]
    exact and_iff_right keepsReturns_exportHeader
  · rw [List.forall_mem_map]
    exact fun fields hfields hnil => hne fields hfields (List.map_eq_nil_iff.mp hnil)
  · simp only [List.forall_mem_map]
    exact fun _ _ field _ => (escapeChars_cases field).imp And.left And.left

/-- An event whose detail has a carriage return as its only break. Its time is given as
`isoformat` writes it. -/
def returnEvent : AuditEvent String :=
  ⟨"rd:7", "approve", .datetime "2026-06-05T09:30:00+00:00", some "u1", none, none,
    some "checked\rapproved"⟩

/-- A details value with a bare carriage return is not quoted, and the reader takes it for the end
of the record. -/
theorem not_losslessExport_returnEvent : ¬ LosslessExport id [returnEvent] := by
  rw [LosslessExport]
  decide +kernel

end Export

end DecisionCenter.Audits
