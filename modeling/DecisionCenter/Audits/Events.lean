import DecisionCenter.Audits.Listing
import DecisionCenter.Data.Table
import DecisionCenter.Py.Whole
import Mathlib.Tactic.NormNum

/-!
# The unified audit events

`list_audit_events` and `get_audit_event` of `apps/edr/persistence/postgres_store.py`: four
tables read as one. An event is named by the prefix of its table and the id of its row, and the
name a client sends is taken apart again: at the first colon, and by `int`, which also reads
blanks, signs and underscores.

A table is a list of rows whose ids are different and within the range of their column
(`Serial`, `BigSerial`); each kind of row has the columns that an event shows, and `event` is
its line of the `UNION ALL`. A lookup by a key that the column cannot have is an error of the
driver, not an empty answer.

The names are unambiguous (`eventId_inj`, `nodup_names`), each event that is listed is found
under its name (`getAuditEvent_of_mem`), and nothing else is found (`mem_of_getAuditEvent`). For
the first of these a name is cut at its first colon and its digits are read back:
`int(str(n)) == n`, for numbers that are short enough for `int` to convert, as every key is.

`eventsAgree` puts the three together with the paging of the list: a client that asks for one
page after the other sees, newest first, exactly the events that a lookup finds and the filters
admit. The digits of ASCII have to be decimal digits of the interpreter and no blanks
(`Numerals`), as they are.
-/

namespace DecisionCenter.Audits

open Py Table

/-! ### The tables -/

/-- A `SERIAL` key. -/
abbrev Serial := { id : ℕ // id < 2 ^ 31 }

/-- A `BIGSERIAL` key. -/
abbrev BigSerial := { id : ℕ // id < 2 ^ 63 }

/-- The columns of `audit_log` that an event shows. -/
structure AuditLogRow where
  id : Serial
  createdAt : ℤ
  userIdHash : String
  projectCode : Option String
  reviewState : Option String
  qualityGateStatus : Option String
  deriving DecidableEq, Repr

/-- `review_decisions` -/
structure ReviewDecisionRow where
  id : Serial
  createdAt : ℤ
  action : String
  reviewerIdHash : String
  reason : Option String
  comment : Option String
  deriving DecidableEq, Repr

/-- `connector_events` -/
structure ConnectorEventRow where
  id : BigSerial
  ts : ℤ
  eventType : String
  service : String
  detail : String
  deriving DecidableEq, Repr

/-- `admin_events` -/
structure AdminEventRow where
  id : BigSerial
  ts : ℤ
  eventType : String
  actorHash : Option String
  projectCode : Option String
  detail : String
  deriving DecidableEq, Repr

/-- The tables; an id is a primary key. -/
structure EventTables where
  auditLog : List AuditLogRow
  reviewDecisions : List ReviewDecisionRow
  connectorEvents : List ConnectorEventRow
  adminEvents : List AdminEventRow
  auditLog_ids : (auditLog.map fun r => (r.id : ℕ)).Nodup
  reviewDecisions_ids : (reviewDecisions.map fun r => (r.id : ℕ)).Nodup
  connectorEvents_ids : (connectorEvents.map fun r => (r.id : ℕ)).Nodup
  adminEvents_ids : (adminEvents.map fun r => (r.id : ℕ)).Nodup

/-- A row of the union. -/
structure UnifiedEvent where
  eventId : String
  ts : ℤ
  eventType : String
  userIdHash : Option String
  projectCode : Option String
  service : Option String
  detail : String
  deriving DecidableEq, Repr

/-- `'al:' || id`, and so on. -/
def eventId (table : String) (id : ℕ) : String := table ++ ":" ++ toString id

def AuditLogRow.event (r : AuditLogRow) : UnifiedEvent where
  eventId := eventId "al" r.id
  ts := r.createdAt
  eventType := "report.submitted"
  userIdHash := some r.userIdHash
  projectCode := r.projectCode
  service := none
  detail := "state=" ++ r.reviewState.getD "unknown" ++ " qg=" ++
    r.qualityGateStatus.getD "unknown"

def ReviewDecisionRow.event (r : ReviewDecisionRow) : UnifiedEvent where
  eventId := eventId "rd" r.id
  ts := r.createdAt
  eventType := r.action
  userIdHash := some r.reviewerIdHash
  projectCode := none
  service := none
  detail := r.reason.getD "" ++ (r.comment.filter (· ≠ "")).elim "" (" | " ++ ·)

def ConnectorEventRow.event (r : ConnectorEventRow) : UnifiedEvent where
  eventId := eventId "ce" r.id
  ts := r.ts
  eventType := r.eventType
  userIdHash := none
  projectCode := none
  service := some r.service
  detail := r.detail

def AdminEventRow.event (r : AdminEventRow) : UnifiedEvent where
  eventId := eventId "ae" r.id
  ts := r.ts
  eventType := r.eventType
  userIdHash := r.actorHash
  projectCode := r.projectCode
  service := none
  detail := r.detail

/-- `unified` -/
def EventTables.unified (t : EventTables) : List UnifiedEvent :=
  t.auditLog.map (·.event) ++ t.reviewDecisions.map (·.event) ++
    t.connectorEvents.map (·.event) ++ t.adminEvents.map (·.event)

/-! ### The list -/

/-- The filters of `list_audit_events`. -/
structure EventFilter where
  dateFrom : Option ℤ
  dateTo : Option ℤ
  eventType : Option String

def EventFilter.conditions (f : EventFilter) : List (Condition UnifiedEvent) :=
  (f.dateFrom.map fun v => isTrue fun e : UnifiedEvent => v ≤ e.ts).toList ++
    (f.dateTo.map fun v => isTrue fun e : UnifiedEvent => e.ts ≤ v).toList ++
    (f.eventType.map fun v => isTrue fun e : UnifiedEvent => e.eventType = v).toList

/-- `list_audit_events` -/
def listAuditEvents (f : EventFilter) (limit offset : ℕ) (t : EventTables) :
    List UnifiedEvent × ℕ :=
  let hits := orderByDesc UnifiedEvent.ts (t.unified.filter (selects f.conditions))
  (page limit offset hits, hits.length)

/-! ### The lookup -/

/-- `SELECT … WHERE id = $1`; a key that the column cannot have is an error of the driver. -/
def fetchRow {α : Type} (bound : ℕ) (rows : List α) (id : α → ℕ) (event : α → UnifiedEvent)
    (pk : ℤ) : Except String (Option UnifiedEvent) :=
  if -bound ≤ pk ∧ pk < bound then
    .ok ((lookup (fun r => (id r : ℤ)) pk rows).map event)
  else .error "DataError"

/-- The query of a prefix. -/
def fetchEvent (t : EventTables) (table : String) (pk : ℤ) :
    Except String (Option UnifiedEvent) :=
  if table = "al" then fetchRow (2 ^ 31) t.auditLog (·.id) (·.event) pk
  else if table = "rd" then fetchRow (2 ^ 31) t.reviewDecisions (·.id) (·.event) pk
  else if table = "ce" then fetchRow (2 ^ 63) t.connectorEvents (·.id) (·.event) pk
  else if table = "ae" then fetchRow (2 ^ 63) t.adminEvents (·.id) (·.event) pk
  else .ok none

/-! ### Rows and names -/

private theorem toString_toList (n : ℕ) : (toString n).toList = Nat.toDigits 10 n := by
  rw [Nat.toString_eq_ofList_toDigits, String.toList_ofList]

private theorem isDigit_of_mem {n : ℕ} {c : Char} (h : c ∈ Nat.toDigits 10 n) : c.isDigit = true :=
  Nat.isDigit_of_mem_toDigits (by decide) (by decide) h

private theorem ofDigits_map (cs : List Char) (n : ℕ) :
    (cs.map fun c => c.toNat - '0'.toNat).foldl (fun n d => 10 * n + d) n =
      Nat.ofDigitChars 10 cs n := by
  induction cs generalizing n with
  | nil => rfl
  | cons c cs ih =>
    rw [List.map_cons, List.foldl_cons, ih, Nat.ofDigitChars_cons]

private theorem toList_eventId (table : String) (id : ℕ) :
    (eventId table id).toList = table.toList ++ ':' :: Nat.toDigits 10 id := by
  rw [← toString_toList]
  simp [eventId]

/-- The name is cut at its first colon. -/
theorem cut_eventId {table : String} (h : ':' ∉ table.toList) (id : ℕ) :
    (eventId table id).toList.takeWhile (· ≠ ':') = table.toList ∧
    (eventId table id).toList.dropWhile (· ≠ ':') = ':' :: Nat.toDigits 10 id := by
  have hall : ∀ c ∈ table.toList, decide (c ≠ ':') = true := by
    intro c hc
    rw [decide_eq_true_eq]
    rintro rfl
    exact h hc
  rw [toList_eventId]
  constructor
  · rw [List.takeWhile_append_of_pos hall, List.takeWhile_cons_of_neg (by simp), List.append_nil]
  · rw [List.dropWhile_append_of_pos hall, List.dropWhile_cons_of_neg (by simp)]

/-- Two rows have one name only if they are rows of one table with one id. -/
theorem eventId_inj {table table' : String} (h : ':' ∉ table.toList) (h' : ':' ∉ table'.toList)
    {id id' : ℕ} (hid : eventId table id = eventId table' id') : table = table' ∧ id = id' := by
  obtain ⟨htake, hdrop⟩ := cut_eventId h id
  obtain ⟨htake', hdrop'⟩ := cut_eventId h' id'
  rw [hid] at htake hdrop
  refine ⟨String.toList_inj.mp (htake.symm.trans htake'), ?_⟩
  have hdigits := (List.cons.inj (hdrop.symm.trans hdrop')).2
  rw [← Nat.ofDigitChars_ten_toDigits (n := id), hdigits, Nat.ofDigitChars_ten_toDigits]

section Tables

variable {t : EventTables}

private theorem mem_unified {e : UnifiedEvent} : e ∈ t.unified ↔
    (∃ r ∈ t.auditLog, r.event = e) ∨ (∃ r ∈ t.reviewDecisions, r.event = e) ∨
      (∃ r ∈ t.connectorEvents, r.event = e) ∨ ∃ r ∈ t.adminEvents, r.event = e := by
  simp only [EventTables.unified, List.mem_append, List.mem_map, or_assoc]

/-- No two events of the union have one name. Within a table the ids differ, and across tables the
prefixes do, which hold no colon. -/
theorem nodup_names (t : EventTables) : (t.unified.map UnifiedEvent.eventId).Nodup := by
  have hpart {α : Type} {rows : List α} {id : α → ℕ} (table : String) (htable : ':' ∉ table.toList)
      (hids : (rows.map id).Nodup) : (rows.map fun r => eventId table (id r)).Nodup := by
    have hmap := hids.map fun a b hab => (eventId_inj htable htable hab).2
    rwa [List.map_map] at hmap
  have hapart {α β : Type} {rows : List α} {rows' : List β} {id : α → ℕ} {id' : β → ℕ}
      {table table' : String} (h : ':' ∉ table.toList) (h' : ':' ∉ table'.toList)
      (hne : table ≠ table') : (rows.map fun r => eventId table (id r)).Disjoint
        (rows'.map fun r => eventId table' (id' r)) := by
    intro x hx hx'
    obtain ⟨r, -, rfl⟩ := List.mem_map.mp hx
    obtain ⟨r', -, hr'⟩ := List.mem_map.mp hx'
    exact hne (eventId_inj h h' hr'.symm).1
  have hal : ':' ∉ "al".toList := by decide
  have hrd : ':' ∉ "rd".toList := by decide
  have hce : ':' ∉ "ce".toList := by decide
  have hae : ':' ∉ "ae".toList := by decide
  simp only [EventTables.unified, List.map_append, List.map_map]
  refine List.Nodup.append (List.Nodup.append (List.Nodup.append
    (hpart "al" hal t.auditLog_ids) (hpart "rd" hrd t.reviewDecisions_ids)
    (hapart hal hrd (by decide)))
    (hpart "ce" hce t.connectorEvents_ids) ?_) (hpart "ae" hae t.adminEvents_ids) ?_
  · exact List.disjoint_append_left.mpr ⟨hapart hal hce (by decide), hapart hrd hce (by decide)⟩
  · exact List.disjoint_append_left.mpr ⟨List.disjoint_append_left.mpr
      ⟨hapart hal hae (by decide), hapart hrd hae (by decide)⟩, hapart hce hae (by decide)⟩

section Fetch

variable {α : Type} {bound : ℕ} {rows : List α} {id : α → ℕ} {event : α → UnifiedEvent}

private theorem fetchRow_of_mem (hids : (rows.map id).Nodup) {r : α} (hr : r ∈ rows)
    (hid : id r < bound) :
    fetchRow bound rows id event (id r) = .ok (some (event r)) := by
  have hcast : (rows.map fun r => (id r : ℤ)).Nodup := by
    have hmap := hids.map (Nat.cast_injective (R := ℤ))
    rwa [List.map_map] at hmap
  have hrange : -(bound : ℤ) ≤ (id r : ℤ) ∧ (id r : ℤ) < (bound : ℤ) := by omega
  rw [fetchRow, if_pos hrange, lookup_of_mem hcast hr]
  rfl

private theorem mem_of_fetchRow {pk : ℤ} {e : UnifiedEvent}
    (h : fetchRow bound rows id event pk = .ok (some e)) : e ∈ rows.map event := by
  rw [fetchRow] at h
  split at h
  · obtain ⟨r, hr, rfl⟩ := Option.map_eq_some_iff.mp (Except.ok.inj h)
    exact List.mem_map_of_mem (mem_of_lookup hr)
  · cases h

end Fetch

private theorem mem_of_fetchEvent {table : String} {pk : ℤ} {e : UnifiedEvent}
    (h : fetchEvent t table pk = .ok (some e)) : e ∈ t.unified := by
  rw [fetchEvent] at h
  rw [EventTables.unified, List.mem_append, List.mem_append, List.mem_append]
  split at h
  · exact .inl (.inl (.inl (mem_of_fetchRow h)))
  split at h
  · exact .inl (.inl (.inr (mem_of_fetchRow h)))
  split at h
  · exact .inl (.inr (mem_of_fetchRow h))
  split at h
  · exact .inr (mem_of_fetchRow h)
  · cases h

/-- A key is short enough for `int`. -/
theorem lt_maxStrDigits {id : ℕ} (h : id < 2 ^ 63) : id < 10 ^ maxStrDigits :=
  h.trans_le ((by norm_num : 2 ^ 63 ≤ 10 ^ 19).trans
    (Nat.pow_le_pow_right (by decide) (by decide)))

end Tables

/-! ### Names that are sent -/

/-- The digits of ASCII are decimal digits, and no blanks. -/
class Numerals extends Text where
  decimal_digit : ∀ c : Char, c.isDigit = true → decimal c = some (c.toNat - '0'.toNat)
  space_digit : ∀ c : Char, c.isDigit = true → isSpace c = false

section Lookup

variable [Numerals]

/-- `get_audit_event` -/
def getAuditEvent (t : EventTables) (name : String) : Except String (Option UnifiedEvent) :=
  match name.toList.dropWhile (· ≠ ':') with
  | [] => .ok none
  | _ :: raw => match parseInt (String.ofList raw) with
    | none => .ok none
    | some pk => fetchEvent t (String.ofList (name.toList.takeWhile (· ≠ ':'))) pk

/-- A run of ASCII digits is read digit by digit. -/
theorem digitRun_digits {cs : List Char} (hne : cs ≠ []) (h : ∀ c ∈ cs, c.isDigit = true) :
    digitRun cs = some (cs.map fun c => c.toNat - '0'.toNat) := by
  induction cs with
  | nil => exact absurd rfl hne
  | cons c cs ih =>
    have hc : Digits.decimal c = some (c.toNat - '0'.toNat) :=
      Numerals.decimal_digit c (h c List.mem_cons_self)
    cases cs with
    | nil => rw [digitRun, hc, Option.map_some, List.map_singleton]
    | cons d cs =>
      have hd : d ≠ '_' := by
        rintro rfl
        exact absurd (h '_' (by simp)) (by decide)
      have hrest := ih (List.cons_ne_nil d cs) fun x hx => h x (List.mem_cons_of_mem c hx)
      rw [digitRun.eq_4 _ _ (by simp) (by rintro cs' ⟨⟩; exact hd rfl), hc, hrest]
      rfl

/-- `int(str(n)) == n`, for the numbers that `int` reads at all: its limit is on the number of
digits. -/
theorem parseInt_toString {n : ℕ} (hn : n < 10 ^ maxStrDigits) :
    parseInt (toString n) = some (n : ℤ) := by
  have hdigits : ∀ c ∈ (toString n).toList, c.isDigit = true := by
    rw [toString_toList]
    exact fun c hc => isDigit_of_mem hc
  have hstrip : strip (toString n) = toString n :=
    strip_eq_self (fun c hc => Numerals.space_digit c (hdigits c (List.mem_of_mem_head? hc)))
      fun c hc => Numerals.space_digit c (hdigits c (List.mem_of_mem_getLast? hc))
  have hnatural : naturalOf (Nat.toDigits 10 n) = some n := by
    rw [naturalOf, digitRun_digits Nat.toDigits_ne_nil fun c hc => isDigit_of_mem hc]
    have hlength : (Nat.toDigits 10 n).length ≤ maxStrDigits :=
      (Nat.length_toDigits_le_iff (by decide) (by decide)).mpr hn
    rw [Option.filter_some, if_pos (by simpa using hlength), Option.map_some, ofDigits,
      ofDigits_map, Nat.ofDigitChars_ten_toDigits]
  rw [parseInt, hstrip, toString_toList]
  rw [toString_toList] at hdigits
  split
  · next cs hcs => exact absurd (hdigits '-' (by simp [hcs])) (by decide)
  · next cs hcs => exact absurd (hdigits '+' (by simp [hcs])) (by decide)
  · rw [hnatural]
    rfl

/-- What is looked up for a name. -/
theorem getAuditEvent_eventId (t : EventTables) (table : String) (h : ':' ∉ table.toList)
    {id : ℕ} (hid : id < 10 ^ maxStrDigits) :
    getAuditEvent t (eventId table id) = fetchEvent t table id := by
  obtain ⟨htake, hdrop⟩ := cut_eventId h id
  rw [getAuditEvent, hdrop]
  dsimp only
  rw [← Nat.toString_eq_ofList_toDigits, parseInt_toString hid, htake, String.ofList_toList]

variable {t : EventTables}

/-- An event of the unified list is found under its id: the id says which table it is of, and its
number there. -/
private theorem getAuditEvent_of_mem {e : UnifiedEvent} (he : e ∈ t.unified) :
    getAuditEvent t e.eventId = .ok (some e) := by
  rcases mem_unified.mp he with ⟨r, hr, rfl⟩ | ⟨r, hr, rfl⟩ | ⟨r, hr, rfl⟩ | ⟨r, hr, rfl⟩
  · have hname := getAuditEvent_eventId t "al" (by decide)
      (lt_maxStrDigits (r.id.2.trans (by norm_num)))
    rw [fetchEvent, if_pos rfl,
      fetchRow_of_mem t.auditLog_ids hr r.id.2] at hname
    exact hname
  · have hname := getAuditEvent_eventId t "rd" (by decide)
      (lt_maxStrDigits (r.id.2.trans (by norm_num)))
    rw [fetchEvent, if_neg (by decide), if_pos rfl,
      fetchRow_of_mem t.reviewDecisions_ids hr r.id.2] at hname
    exact hname
  · have hname := getAuditEvent_eventId t "ce" (by decide) (lt_maxStrDigits r.id.2)
    rw [fetchEvent, if_neg (by decide), if_neg (by decide), if_pos rfl,
      fetchRow_of_mem t.connectorEvents_ids hr r.id.2] at hname
    exact hname
  · have hname := getAuditEvent_eventId t "ae" (by decide) (lt_maxStrDigits r.id.2)
    rw [fetchEvent, if_neg (by decide), if_neg (by decide), if_neg (by decide), if_pos rfl,
      fetchRow_of_mem t.adminEvents_ids hr r.id.2] at hname
    exact hname

private theorem mem_of_getAuditEvent {name : String} {e : UnifiedEvent}
    (h : getAuditEvent t name = .ok (some e)) : e ∈ t.unified := by
  rw [getAuditEvent] at h
  split at h
  · cases h
  split at h
  · cases h
  · exact mem_of_fetchEvent h

/-- The names, the lookups and the pages of the list tell the same of the tables. -/
structure EventsAgree (t : EventTables) : Prop where
  names : (t.unified.map UnifiedEvent.eventId).Nodup
  /-- A lookup finds the events of the union, each under its name. -/
  found : ∀ e, e ∈ t.unified ↔ ∃ name, getAuditEvent t name = .ok (some e)
  /-- Whatever is on a page is found under the name it has there. -/
  opens : ∀ f limit offset, ∀ e ∈ (listAuditEvents f limit offset t).1,
    getAuditEvent t e.eventId = .ok (some e)
  /-- Events at different times are listed page after page, each once and the newest first. -/
  pages : (t.unified.map UnifiedEvent.ts).Nodup → ∀ (f : EventFilter) limit, 0 < limit →
    (everyPage limit fun offset => listAuditEvents f limit offset t).Perm
        (t.unified.filter (selects f.conditions)) ∧
      (everyPage limit fun offset => listAuditEvents f limit offset t).Pairwise
        fun e e' => e'.ts < e.ts

/-- This holds of every content of the tables. The list, the lookup by id and the pages are all
views of the unified events, whose ids are different as those of the three tables are. -/
theorem eventsAgree (t : EventTables) : EventsAgree t where
  names := nodup_names t
  found e := ⟨fun he => ⟨e.eventId, getAuditEvent_of_mem he⟩,
    fun ⟨_, h⟩ => mem_of_getAuditEvent h⟩
  opens f limit offset e he := by
    have hpage : e ∈ orderByDesc UnifiedEvent.ts (t.unified.filter (selects f.conditions)) :=
      List.mem_of_mem_drop (List.mem_of_mem_take he)
    exact getAuditEvent_of_mem
      (List.mem_of_mem_filter ((orderByDesc_perm UnifiedEvent.ts _).mem_iff.mp hpage))
  pages h f limit hlimit := by
    have hpages : (everyPage limit fun offset => listAuditEvents f limit offset t) =
        orderByDesc UnifiedEvent.ts (t.unified.filter (selects f.conditions)) :=
      everyPage_page hlimit
    have hsub : ((t.unified.filter (selects f.conditions)).map UnifiedEvent.ts).Sublist
        (t.unified.map UnifiedEvent.ts) := List.filter_sublist.map _
    rw [hpages]
    exact ⟨orderByDesc_perm _ _, pairwise_orderByDesc (hsub.nodup h)⟩

end Lookup

section Latin

open Py.Whole

local instance : Numerals where
  toText := inferInstance
  decimal_digit c h := if_pos h
  space_digit c h := by
    rw [← Bool.not_eq_true]
    intro hspace
    simp only [Text.isSpace, Char.isWhitespace, Bool.or_eq_true, decide_eq_true_eq] at hspace
    rcases hspace with ((rfl | rfl) | rfl) | rfl <;> exact absurd h (by decide)

/-- A name is read as `int` reads it. -/
example : getAuditEvent ⟨[], [], [⟨⟨12, by decide⟩, 5, "service.probed", "odoo", "live"⟩], [],
    by decide, by decide, by decide, by decide⟩ "ce: +1_2 " =
      .ok (some ⟨"ce:12", 5, "service.probed", none, none, some "odoo", "live"⟩) := by decide

end Latin

end DecisionCenter.Audits
