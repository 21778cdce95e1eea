import DecisionCenter.Async.Run
import Mathlib.Algebra.Order.Ring.Rat
import Mathlib.Data.List.Chain
import Mathlib.Logic.Function.Basic
import Mathlib.Tactic.Linarith

/-!
# The token of Microsoft Graph

`get_graph_token` of `apps/edr/connectors/graph_token.py`: the application's token, cached until
a minute before it expires, with a lock around the cache and the request for a new token. The
connectors and the administration call it from any number of coroutines; a caller may be
cancelled while it waits for the lock and while it waits for the answer, and a request may fail.
Times are exact.

A `World` has the cache and the callers, and keeps what was granted and what was handed out. In
every reachable world at most one request is on its way, a new one is sent only once the token
of the last is within a minute of its end, and a token that is handed out from the cache is good
for more than another minute.

A caller is in one of a few phases. Time passes, or a step moves one caller: it comes to the
lock, takes it and is served from the cache or sends its request, gets an answer, or is
cancelled. The invariant `Inv` says that the lock is held by the caller whose request is on its
way, that the cache has the token of the last grant, and how the grants follow one another; each
kind of step has a lemma (`Inv.serve`, `Inv.request`).

`World.Sound` is the part of it that the connectors may rely on, and `sound_exec` has it for
every sequence of steps, from a world without callers.
-/

namespace DecisionCenter.GraphToken

open Async

/-- The settings that must be there. -/
structure TokenSettings where
  entraTenantId : String
  entraClientId : String
  entraClientSecret : String
  deriving DecidableEq, Repr

/-- All of them are set. -/
def TokenSettings.configured (s : TokenSettings) : Bool :=
  decide (s.entraTenantId ≠ "" ∧ s.entraClientId ≠ "" ∧ s.entraClientSecret ≠ "")

/-- `_EXPIRY_BUFFER_S` -/
def expiryBuffer : ℚ := 60

/-- `_CachedToken` -/
structure CachedToken where
  accessToken : String
  expiresAt : ℚ
  deriving DecidableEq, Repr

/-- A token that was granted: its request was begun at `since`. -/
structure Grant where
  token : String
  since : ℚ
  expiresIn : ℤ
  deriving DecidableEq, Repr

/-- The token expires at the earliest so long after its request was begun. -/
def Grant.lapses (g : Grant) : ℚ := g.since + g.expiresIn

/-- What is cached of a grant. -/
def Grant.cached (g : Grant) : CachedToken := ⟨g.token, g.since + g.expiresIn - expiryBuffer⟩

/-- Where a caller is. -/
inductive Phase where
  | idle
  /-- In front of the lock. -/
  | waiting
  /-- The lock is held, and the request that was begun at `now` is on its way. -/
  | requesting (now : ℚ)
  | returned (token : String)
  | raised
  | cancelled
  deriving DecidableEq, Repr

/-- A token as it was handed to a caller. -/
structure Handed where
  token : String
  time : ℚ
  /-- It was requested by the caller itself. -/
  fresh : Bool
  deriving DecidableEq, Repr

/-- The clock, the cache, the lock, the callers, and what has happened. -/
structure World where
  /-- `time.monotonic()` -/
  clock : ℚ
  cache : Option CachedToken
  /-- The caller that holds the lock. -/
  holder : Option ℕ
  phase : ℕ → Phase
  /-- The last one is at the head. -/
  grants : List Grant
  handed : List Handed

/-- Nothing has been requested. -/
def World.start (clock : ℚ) : World := ⟨clock, none, none, fun _ => .idle, [], []⟩

/-- The answer to a token request: a body without `expires_in` has an hour; a status, a body that
cannot be read or one without a token raises. -/
inductive Reply where
  | granted (token : String) (expiresIn : Option ℤ)
  | failed
  deriving DecidableEq, Repr

/-- What can happen. -/
inductive Action where
  | elapse (d : ℚ)
  | call (i : ℕ)
  | acquire (i : ℕ)
  | respond (i : ℕ) (reply : Reply)
  | cancel (i : ℕ)
  deriving DecidableEq, Repr

namespace World

variable (w : World)

def setPhase (i : ℕ) (p : Phase) : World := { w with phase := Function.update w.phase i p }

@[simp] theorem phase_setPhase_self (i : ℕ) (p : Phase) : (w.setPhase i p).phase i = p :=
  Function.update_self _ _ _

private theorem phase_setPhase_of_ne {i j : ℕ} (h : j ≠ i) (p : Phase) :
    (w.setPhase i p).phase j = w.phase j := Function.update_of_ne h _ _

/-- The caller is given the cached token. -/
def serve (i : ℕ) (c : CachedToken) : World :=
  { w.setPhase i (.returned c.accessToken) with
    handed := ⟨c.accessToken, w.clock, false⟩ :: w.handed }

/-- The caller sends a request, with the lock in its hand. -/
def request (i : ℕ) : World := { w.setPhase i (.requesting w.clock) with holder := some i }

/-- What the caller that gets the lock does. -/
def enter (i : ℕ) : World :=
  match w.cache.filter fun c => decide (w.clock < c.expiresAt) with
  | some c => w.serve i c
  | none => w.request i

/-- The request that was begun at `now` is answered with a token. -/
def grant (i : ℕ) (now : ℚ) (token : String) (expiresIn : ℤ) : World :=
  let g : Grant := ⟨token, now, expiresIn⟩
  { w.setPhase i (.returned token) with
    cache := some g.cached, holder := none, grants := g :: w.grants
    handed := ⟨token, w.clock, true⟩ :: w.handed }

/-- The holder of the lock leaves it without a token. -/
def abandon (i : ℕ) (p : Phase) : World := { w.setPhase i p with holder := none }

/-- One step; where the action does not apply, nothing happens. -/
def step (settings : TokenSettings) : Action → World
  | .elapse d => { w with clock := w.clock + max 0 d }
  | .call i => if w.phase i = .idle then
      w.setPhase i (if settings.configured then .waiting else .returned "")
    else w
  | .acquire i => if w.phase i = .waiting ∧ w.holder = none then w.enter i else w
  | .respond i reply => match w.phase i with
    | .requesting now => match reply with
      | .granted token expiresIn => w.grant i now token (expiresIn.getD 3600)
      | .failed => w.abandon i .raised
    | _ => w
  | .cancel i => match w.phase i with
    | .waiting => w.setPhase i .cancelled
    | .requesting _ => w.abandon i .cancelled
    | _ => w

/-! ### What holds in every world -/

/-- The lock is held by the caller whose request is on its way. The cache has the last grant. A
request is begun when the last token is within a minute of its end. -/
structure Inv : Prop where
  holder : ∀ i now, w.phase i = .requesting now → w.holder = some i
  begun : ∀ i now, w.phase i = .requesting now → now ≤ w.clock
  due : ∀ i now, w.phase i = .requesting now →
    ∀ g ∈ w.grants.head?, g.lapses ≤ now + expiryBuffer
  past : ∀ g ∈ w.grants, g.since ≤ w.clock
  cache : w.cache = w.grants.head?.map Grant.cached
  spaced : w.grants.IsChain fun g' g => g.lapses ≤ g'.since + expiryBuffer
  handed : ∀ h ∈ w.handed, ∃ g ∈ w.grants, g.token = h.token ∧ g.since ≤ h.time ∧
    (h.fresh = false → h.time + expiryBuffer < g.lapses)

variable {w}

/-- The invariant holds where nothing has been requested. -/
theorem inv_start (clock : ℚ) : (World.start clock).Inv where
  holder i now h := by cases h
  begun i now h := by cases h
  due i now h := by cases h
  past g hg := by cases hg
  cache := rfl
  spaced := .nil
  handed h hh := by cases hh

/-- The caller whose phase is set comes to no request; another one has been where it is. -/
theorem requesting_setPhase {i j : ℕ} {p : Phase} (hp : ∀ now, p ≠ .requesting now) {now : ℚ}
    (hj : (w.setPhase i p).phase j = .requesting now) :
    j ≠ i ∧ w.phase j = .requesting now := by
  by_cases hij : j = i
  · subst hij
    rw [phase_setPhase_self] at hj
    exact absurd hj (hp now)
  · rw [w.phase_setPhase_of_ne hij] at hj
    exact ⟨hij, hj⟩

/-- There is one request at a time. -/
theorem Inv.unique (h : w.Inv) {i j : ℕ} {now now' : ℚ} (hi : w.phase i = .requesting now)
    (hj : w.phase j = .requesting now') : i = j :=
  Option.some.inj ((h.holder i now hi).symm.trans (h.holder j now' hj))

private theorem Inv.setPhase (h : w.Inv) {i : ℕ} {p : Phase} (hp : ∀ now, p ≠ .requesting now) :
    (w.setPhase i p).Inv where
  holder j now hj := h.holder j now (requesting_setPhase hp hj).2
  begun j now hj := h.begun j now (requesting_setPhase hp hj).2
  due j now hj := h.due j now (requesting_setPhase hp hj).2
  past := h.past
  cache := h.cache
  spaced := h.spaced
  handed := h.handed

private theorem Inv.elapse (h : w.Inv) (d : ℚ) : Inv { w with clock := w.clock + max 0 d } where
  holder := h.holder
  begun i now hi := (h.begun i now hi).trans (by linarith [le_max_left 0 d])
  due := h.due
  past g hg := (h.past g hg).trans (by linarith [le_max_left 0 d])
  cache := h.cache
  spaced := h.spaced
  handed := h.handed

private theorem Inv.abandon (h : w.Inv) {i : ℕ} {now : ℚ} (hi : w.phase i = .requesting now)
    {p : Phase} (hp : ∀ now, p ≠ .requesting now) : (w.abandon i p).Inv := by
  -- The one who leaves was the only one with a request.
  have hnone (j : ℕ) (now' : ℚ) : (w.abandon i p).phase j ≠ .requesting now' := fun hj =>
    (requesting_setPhase hp hj).1 (h.unique (requesting_setPhase hp hj).2 hi)
  exact ⟨fun j now' hj => absurd hj (hnone j now'), fun j now' hj => absurd hj (hnone j now'),
    fun j now' hj => absurd hj (hnone j now'), h.past, h.cache, h.spaced, h.handed⟩

private theorem Inv.grant (h : w.Inv) {i : ℕ} {now : ℚ} (hi : w.phase i = .requesting now)
    (token : String) (expiresIn : ℤ) : (w.grant i now token expiresIn).Inv := by
  have hp (now' : ℚ) : Phase.returned token ≠ .requesting now' := by rintro ⟨⟩
  have hnone (j : ℕ) (now' : ℚ) : (w.grant i now token expiresIn).phase j ≠ .requesting now' :=
    fun hj => (requesting_setPhase hp hj).1 (h.unique (requesting_setPhase hp hj).2 hi)
  refine ⟨fun j now' hj => absurd hj (hnone j now'), fun j now' hj => absurd hj (hnone j now'),
    fun j now' hj => absurd hj (hnone j now'), ?_, rfl, ?_, ?_⟩
  · exact List.forall_mem_cons.mpr ⟨h.begun i now hi, h.past⟩
  · exact List.isChain_cons.mpr ⟨h.due i now hi, h.spaced⟩
  · refine List.forall_mem_cons.mpr ⟨?_, fun x hx => ?_⟩
    · exact ⟨_, List.mem_cons_self, rfl, h.begun i now hi, by rintro ⟨⟩⟩
    · obtain ⟨g, hg, hx⟩ := h.handed x hx
      exact ⟨g, List.mem_cons_of_mem _ hg, hx⟩

/-- The cached token is that of the last grant. -/
theorem Inv.serve (h : w.Inv) (i : ℕ) {c : CachedToken} (hcache : w.cache = some c)
    (hlive : w.clock < c.expiresAt) : (w.serve i c).Inv := by
  have hset : (w.setPhase i (.returned c.accessToken)).Inv := h.setPhase (by rintro now ⟨⟩)
  refine ⟨hset.holder, hset.begun, hset.due, h.past, h.cache, h.spaced, ?_⟩
  refine List.forall_mem_cons.mpr ⟨?_, h.handed⟩
  rw [h.cache] at hcache
  obtain ⟨g, hg, rfl⟩ := Option.map_eq_some_iff.mp hcache
  have hmem : g ∈ w.grants := List.mem_of_mem_head? hg
  refine ⟨g, hmem, rfl, h.past g hmem, fun _ => ?_⟩
  change w.clock < g.since + g.expiresIn - expiryBuffer at hlive
  change w.clock + expiryBuffer < g.since + g.expiresIn
  linarith

/-- The lock was free, so there is no other request; and the last token is not good enough. So no
request overlaps with this one. -/
theorem Inv.request (h : w.Inv) (hfree : w.holder = none) (i : ℕ)
    (hstale : ∀ c, w.cache = some c → c.expiresAt ≤ w.clock) : (w.request i).Inv := by
  have hphase (j : ℕ) (now : ℚ) (hj : (w.request i).phase j = .requesting now) :
      j = i ∧ now = w.clock := by
    change (w.setPhase i (.requesting w.clock)).phase j = _ at hj
    by_cases hij : j = i
    · subst hij
      rw [phase_setPhase_self] at hj
      cases hj
      exact ⟨rfl, rfl⟩
    · rw [w.phase_setPhase_of_ne hij] at hj
      have hholder := h.holder j now hj
      rw [hfree] at hholder
      cases hholder
  refine ⟨fun j now hj => ?_, fun j now hj => ?_, fun j now hj g hg => ?_, h.past, h.cache,
    h.spaced, h.handed⟩
  · exact congrArg some (hphase j now hj).1.symm
  · exact le_of_eq (hphase j now hj).2
  · have hhead : w.grants.head? = some g := hg
    have hcache : w.cache = some g.cached := by
      rw [h.cache, hhead]
      rfl
    have hdue : g.since + g.expiresIn - expiryBuffer ≤ w.clock := hstale _ hcache
    rw [(hphase j now hj).2]
    change g.since + g.expiresIn ≤ w.clock + expiryBuffer
    linarith

/-- A caller that takes the free lock is served from the cache or sends the one request. -/
theorem Inv.enter (h : w.Inv) (hfree : w.holder = none) (i : ℕ) : (w.enter i).Inv := by
  rw [World.enter]
  cases hcached : w.cache.filter fun c => decide (w.clock < c.expiresAt) with
  | some c =>
    obtain ⟨hcache, hlive⟩ := Option.filter_eq_some_iff.mp hcached
    exact h.serve i hcache (of_decide_eq_true hlive)
  | none =>
    refine h.request hfree i fun c hc => ?_
    rw [hc, Option.filter_eq_none_iff] at hcached
    simpa using hcached c rfl

/-- Every step keeps the invariant. Only the holder of the lock is in the phases that write the
cache. -/
theorem Inv.step (h : w.Inv) (settings : TokenSettings) (a : Action) :
    (w.step settings a).Inv := by
  cases a with
  | elapse d => exact h.elapse d
  | call i =>
    rw [World.step]
    split
    · refine h.setPhase fun now => ?_
      split <;> rintro ⟨⟩
    · exact h
  | acquire i =>
    rw [World.step]
    split
    · next hfree => exact h.enter hfree.2 i
    -- a task that does not wait, or a lock that is held: nothing happens
    · exact h
  | respond i reply =>
    rw [World.step]
    split
    · next now hi =>
      cases reply with
      | granted token expiresIn => exact h.grant hi token _
      | failed => exact h.abandon hi (by rintro now ⟨⟩)
    · exact h
  | cancel i =>
    rw [World.step]
    split
    · exact h.setPhase (by rintro now ⟨⟩)
    · next now hi => exact h.abandon hi (by rintro now ⟨⟩)
    · exact h

end World

/-- What the connectors may rely on. -/
structure World.Sound (w : World) : Prop where
  /-- One request at most is on its way. -/
  alone : ∀ i j now now', w.phase i = .requesting now → w.phase j = .requesting now' → i = j
  /-- A request is begun when the token granted last has a minute left at most. -/
  spaced : w.grants.IsChain fun g' g => g.lapses ≤ g'.since + expiryBuffer
  due : ∀ i now, w.phase i = .requesting now →
    ∀ g ∈ w.grants.head?, g.lapses ≤ now + expiryBuffer
  /-- A token that is handed out was granted; where the caller has not requested it itself, it is
  good for more than another minute. -/
  handed : ∀ h ∈ w.handed, ∃ g ∈ w.grants, g.token = h.token ∧ g.since ≤ h.time ∧
    (h.fresh = false → h.time + expiryBuffer < g.lapses)

/-- Whatever the callers do and however their requests end, the tokens are sound. The invariant has
besides who holds the lock, and how the grants follow one another. -/
theorem sound_exec (settings : TokenSettings) (clock : ℚ) (run : List Action) :
    (Run.exec (fun w a => w.step settings a) (World.start clock) run).Sound := by
  have h : (Run.exec (fun w a => w.step settings a) (World.start clock) run).Inv :=
    Run.exec_invariant (fun w a hw => hw.step settings a) (World.inv_start clock) run
  exact ⟨fun i j now now' hi hj => h.unique hi hj, h.spaced, h.due, h.handed⟩

end DecisionCenter.GraphToken
