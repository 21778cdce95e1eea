import DecisionCenter.Async.Task
import DecisionCenter.Retrieval.OdooSources

/-!
# What the retrieval nodes await

The calls of nodes 5 to 8 and 11: the connector reads (`apps/edr/connectors`), the clock behind
the time budget of node 8, and the planner of node 11. The nodes are tasks over these calls;
`Connectors` answers them, in any way that keeps the sources apart: the workflows behind the
connectors label each item with the source they serve.

A `Read` has what the connector is given, its payload and the entry of the project that it is
about. Its result is a list of items or a failure, of which the nodes tell a time-out and the
other exceptions apart. The clock answers with the time that is left, and the planner with an
object, with something else, or not at all.

A world of connectors has a state of any type, so that its answers may depend on all that was
asked before; nothing is assumed of them but the labels (`Connectors.labelled`). Results about
every world are thus results about whatever the services return, in whatever order.

What the nodes rely on is carried by `Task.Ensures`: if all the answers are labelled, the result
of a task has a property. The lemmas here are those for one call, and the modules on the nodes
add one for each of these.
-/

namespace DecisionCenter

open Async Py

variable {F : Type}

/-- How an awaited read ends without a result: `asyncio.TimeoutError`, or another exception. -/
inductive ReadFailure where
  | timeout
  | error (text : String)
  deriving DecidableEq, Repr

/-- `str(exc)` -/
def ReadFailure.toStr : ReadFailure → String
  | .timeout => ""
  | .error text => text

/-- The payload of `search_sharepoint`. -/
structure SharepointQuery (F : Type) where
  query : Value F
  projectCode : String
  siteId : Option String
  driveId : Option String

/-- The payload of `search_email`. -/
structure EmailQuery where
  query : String
  projectCode : String
  userMailbox : String
  allowedMailboxes : List String

/-- A connector read. -/
inductive Read (F : Type) where
  | sharepoint (q : SharepointQuery F)
  | owncloud (projectCode rootPath : String)
  /-- `search_group_conversations` -/
  | group (id : String) (mail : Option String) (projectCode : String)
  | email (q : EmailQuery)
  | odoo (q : OdooQuery)

/-- The source a connector serves. -/
def Read.source : Read F → SourceType
  | .sharepoint _ => .sharepoint
  | .owncloud _ _ => .owncloud
  | .group _ _ _ => .email
  | .email _ => .email
  | .odoo _ => .odoo

/-- A read's result, after the connector's validation. -/
abbrev ReadResult (F : Type) := Except ReadFailure (List (Evidence F))

/-- An awaited call. -/
inductive Call (F : Type) where
  /-- A read that is given so many milliseconds, where it is given a limit. -/
  | read (r : Read F) (timeoutMs : Option ℤ := none)
  /-- `deadline - time.monotonic()`, in milliseconds. -/
  | remaining
  /-- `call_llm` of node 11; the reply is parsed, if it is a JSON object. -/
  | plan

/-- What a call returns. -/
def Call.Result : Call F → Type
  | .read _ _ => ReadResult F
  | .remaining => ℤ
  /- `none`: the call raised. -/
  | .plan => Option (Option (Dict F))

/-- A program of the retrieval nodes. -/
abbrev Retrieval (F : Type) := Task (Call F) Call.Result

namespace Retrieval

variable {R : Type}

/-- Await a read. -/
def read (r : Read F) (timeoutMs : Option ℤ := none) : Retrieval F (ReadResult F) :=
  .op (.read r timeoutMs) .ret

/-- The time left of the budget. -/
def remaining : Retrieval F ℤ := .op .remaining .ret

end Retrieval

/-! ### The contract of the connectors -/

/-- All items are of one source. -/
def AllFrom (source : SourceType) (items : List (Evidence F)) : Prop :=
  ∀ e ∈ items, e.sourceType = source

/-- What a connector returns is labelled with its source. -/
def Call.Labelled : (c : Call F) → c.Result → Prop
  | .read r _, x => ∀ items, x = .ok items → AllFrom r.source items
  | .remaining, _ => True
  | .plan, _ => True

/-- Connectors, clock and planner: any answers, from any state of the world, whose items carry
the label of the source that was read. -/
structure Connectors (F S : Type) where
  answer : (c : Call F) → S → c.Result × S
  labelled : ∀ (c : Call F) (s : S), c.Labelled (answer c s).1

/-- What a task ensures with labelled answers holds of its result in any world of connectors. -/
theorem Connectors.run_ensures {S R : Type} (world : Connectors F S) {t : Retrieval F R}
    {Q : R → Prop} (h : t.Ensures Call.Labelled Q) (s : S) : Q (t.run world.answer s).1 :=
  h.run world.labelled s

/-- What a read returns has the label of its source. -/
theorem Retrieval.ensures_read (r : Read F) (timeoutMs : Option ℤ) :
    (Retrieval.read r timeoutMs).Ensures Call.Labelled fun x =>
      ∀ items, x = .ok items → AllFrom r.source items :=
  fun _ hx => hx

/-- Nothing is ensured of the time that is left. -/
theorem Retrieval.ensures_remaining :
    (Retrieval.remaining (F := F)).Ensures Call.Labelled fun _ => True :=
  fun _ _ => trivial

/-- No items are of any source. -/
theorem AllFrom.nil {source : SourceType} : AllFrom source ([] : List (Evidence F)) := nofun

/-- Items of a source, put together. -/
theorem AllFrom.append {source : SourceType} {items items' : List (Evidence F)}
    (h : AllFrom source items) (h' : AllFrom source items') : AllFrom source (items ++ items') := by
  intro e he
  obtain he | he := List.mem_append.mp he
  · exact h e he
  · exact h' e he

/-- Some items of a source are items of it. -/
theorem AllFrom.subset {source : SourceType} {items items' : List (Evidence F)}
    (h : AllFrom source items) (hsub : items' ⊆ items) : AllFrom source items' :=
  fun e he => h e (hsub he)

end DecisionCenter
