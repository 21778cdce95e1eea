import Mathlib.Data.Rat.Defs
import Mathlib.Algebra.Order.Ring.Rat
import DecisionCenter.Async.Attempt
import DecisionCenter.Data.Ranking
import DecisionCenter.Mappings.Edits

/-!
# The rescan of Microsoft sources

`_rescan_one_project` (`apps/edr/admin/microsoft_rescan.py`): a project whose mapping has a site
is checked against Microsoft Graph, and for one with a placeholder the discovered sites are
scored, ranked and cut to five. What a quotient is rounded to is a parameter, since only its
order matters.

The function is a task over requests to Microsoft Graph: lookups of a site, its drives, and
probes of mailboxes, whose answers are arbitrary. Where the source catches an exception, so does
the task, and goes on with what it has (`Async.Attempt`).

A site is scored against the code and the name of a project. `computeMatch` gives a strength and
a confidence: a code that is part of the name of the site is a strong match, and otherwise it is
the quotient of the words of the name that the site has. It is rounded correctly, so that its
exact value can be compared with the bounds. The sites that match at all are sorted by strength
and confidence, the sort being stable, and the first five are looked into for their drives.

From the candidates comes the status: one strong match is mapped, several are a conflict, weaker
ones need a confirmation. The mailboxes are scanned independently of the site.
`Mappings.RescanVerdict` says what the discovery decides, and `Mappings.RescanRun` what becomes
of several projects.
-/

namespace DecisionCenter.Mappings

open Py Async

/-! ### Requests -/

/-- A site as `enumerate_sites` lists it; an absent name or address reads as empty. -/
structure DiscoveredSite where
  siteId : String
  displayName : String := ""
  webUrl : String := ""
  deriving DecidableEq, Repr

/-- A drive of a site. -/
structure Drive where
  driveId : String
  name : Option String := none
  driveType : String := ""
  deriving DecidableEq, Repr

/-- The calls of `GraphDiscoveryClient` for a project. -/
inductive RescanRequest where
  | probeSite (siteId : String)
  | getDrives (siteId : String)
  | getRootChildrenCount (driveId : String)
  | probeMailbox (address : String)
  deriving DecidableEq, Repr

/-- What the calls return. -/
def RescanRequest.Answer : RescanRequest → Type
  | probeSite _ => ℕ × DiscoveredSite
  | getDrives _ => List Drive
  | getRootChildrenCount _ => ℕ × ℕ
  | probeMailbox _ => Bool × ℕ

/-- The lookups of drives and of what is in them. -/
def RescanRequest.IsDriveLookup : RescanRequest → Prop
  | getDrives _ => True
  | getRootChildrenCount _ => True
  | _ => False

/-- A coroutine that awaits such calls. -/
abbrev RescanTask (R : Type) : Type := Attempt RescanRequest RescanRequest.Answer R

/-- Await a call. -/
def call (o : RescanRequest) : RescanTask o.Answer := Attempt.await o

/-! ### Scores -/

/-- The strengths of `_compute_match`, and `existing`. -/
inductive MatchStrength where
  | strong
  | medium
  | weak
  | none
  | existing
  deriving DecidableEq, Repr

/-- `_strength_order`, which has no other strengths. -/
def strengthOrder : MatchStrength → ℕ
  | .strong => 0
  | .medium => 1
  | _ => 2

/-- `_STOP_WORDS` -/
def stopWords : List String :=
  ["the", "and", "for", "with", "from", "area", "type", "region", "center", "centre", "in", "of",
    "at", "to", "by", "a", "an", "this", "that", "will", "its"]

section Scores

variable [Text]

/-- `_sig_words` -/
def sigWords (text : String) : List String :=
  (splitWords (lower text)).filter fun w => 3 < w.length ∧ w ∉ stopWords

/-- `_compute_match`, with the quotient in place of the confidence. Division is rounded correctly,
so the float reaches 0.8 or 0.5 just if the quotient does. -/
def computeMatch (projectCode projectName : String) (site : DiscoveredSite) : MatchStrength × ℚ :=
  let display := lower site.displayName
  if contains display (lower projectCode) then (.strong, 1)
  else
    let sig := sigWords projectName
    if projectName = "" ∨ sig = [] then (.none, 0)
    else
      let hits := sig.countP fun w => contains display w
      let ratio : ℚ := hits / sig.length
      if 4 / 5 ≤ ratio then (.strong, ratio)
      else if 1 / 2 ≤ ratio then (.medium, ratio)
      else if 0 < ratio then (.weak, ratio)
      else (.none, 0)

end Scores

/-- A site with its score, `C` being what confidences are rounded to. -/
structure Scored (C : Type) where
  site : DiscoveredSite
  strength : MatchStrength
  confidence : C

/-- The order of the sort key: by strength, and then by falling confidence. -/
def Scored.before {C : Type} [LinearOrder C] (x y : Scored C) : Prop :=
  strengthOrder x.strength < strengthOrder y.strength ∨
    strengthOrder x.strength = strengthOrder y.strength ∧ y.confidence ≤ x.confidence

instance {C : Type} [LinearOrder C] : DecidableRel (Scored.before (C := C)) :=
  fun x y => inferInstanceAs (Decidable (strengthOrder x.strength < strengthOrder y.strength ∨
    strengthOrder x.strength = strengthOrder y.strength ∧ y.confidence ≤ x.confidence))

/-! ### Results -/

/-- `MappingStatus` -/
inductive RescanStatus where
  | autoMapped
  | needsConfirmation
  | missingSharepoint
  | missingMailbox
  | conflict
  | disabled
  deriving DecidableEq, Repr

/-- `SiteCandidate` -/
structure SiteCandidate (C : Type) where
  siteId : String
  displayName : String
  webUrl : String
  driveId : Option String := none
  driveName : Option String := none
  rootItemCount : Option ℕ := none
  matchStrength : MatchStrength
  confidence : C

/-- `MailboxCandidate` -/
structure MailboxCandidate where
  address : String
  accessible : Bool
  httpStatus : ℕ

/-- What is found out about the site. -/
structure SharepointScan (C : Type) where
  status : RescanStatus
  reason : String
  candidates : List (SiteCandidate C) := []
  recommendedSiteId : Option String := none
  recommendedDriveId : Option String := none

/-- What is found out about the mailboxes. -/
structure MailboxScan where
  status : RescanStatus
  reason : String
  candidates : List MailboxCandidate := []
  recommendedMailboxes : List String := []

/-- `ProjectRescanResult` -/
structure ProjectRescanResult (C : Type) where
  projectCode : String
  projectName : String
  existingSiteId : String
  existingDriveId : String
  sharepointStatus : RescanStatus
  mailboxStatus : RescanStatus
  siteCandidates : List (SiteCandidate C)
  mailboxCandidates : List MailboxCandidate
  reason : String
  recommendedSiteId : Option String := none
  recommendedDriveId : Option String := none
  recommendedMailboxes : List String := []

/-- An element of `projects`. -/
structure RescanProject where
  projectCode : String
  projectName : String := ""
  siteId : String := ""
  driveId : String := ""
  sharedMailboxes : List String := []
  mappingStatus : String
  deriving DecidableEq, Repr

/-! ### One project -/

/-- The document libraries among the drives. -/
def docDrives (drives : List Drive) : List Drive :=
  drives.filter fun d => d.driveType = "documentLibrary"

variable {C : Type} [LinearOrder C] (round2 : ℚ → C)

/-- The branch for a mapping that has a site. -/
def probeExisting (p : RescanProject) : RescanTask (SharepointScan C) := do
  let (httpSt, siteData) ← call (.probeSite p.siteId)
  if httpSt = 200 then
    let drives ← call (.getDrives p.siteId)
    let docs := docDrives drives
    let chosen := (docs.find? fun d => d.driveId = p.driveId).or docs.head?
    let itemCount ← match chosen with
      | none => pure none
      | some d => do
        let (_, count) ← call (.getRootChildrenCount d.driveId)
        pure (some count)
    pure
      { status := .autoMapped
        reason := "Existing site_id confirmed reachable via Microsoft Graph."
        candidates :=
          [{ siteId := p.siteId
             displayName := siteData.displayName
             webUrl := siteData.webUrl
             driveId := chosen.map (·.driveId)
             driveName := chosen.bind (·.name)
             rootItemCount := itemCount
             matchStrength := .existing
             confidence := round2 1 }]
        recommendedSiteId := some p.siteId
        recommendedDriveId := chosen.map (·.driveId) }
  else
    pure
      { status := .needsConfirmation
        reason := "Existing site_id returned HTTP " ++ toString httpSt ++
          ". Site may have been deleted or moved. Admin must re-assign." }

/-- `SiteCandidate` of one of the candidates that are enriched. -/
def enrich (x : Scored C) : RescanTask (SiteCandidate C) := do
  let drives ← call (.getDrives x.site.siteId)
  let candidate : SiteCandidate C :=
    { siteId := x.site.siteId
      displayName := x.site.displayName
      webUrl := x.site.webUrl
      matchStrength := x.strength
      confidence := x.confidence }
  match (docDrives drives).head? with
  | some d => do
    let (_, count) ← call (.getRootChildrenCount d.driveId)
    pure
      { candidate with
        driveId := some d.driveId
        driveName := d.name
        rootItemCount := some count }
  | none => pure candidate

/-- The loop over the candidates that are enriched. -/
def enrichAll : List (Scored C) → RescanTask (List (SiteCandidate C))
  | [] => pure []
  | x :: xs => do
    let candidate ← enrich x
    let candidates ← enrichAll xs
    pure (candidate :: candidates)

section Discovery

variable [Text]

/-- The sites that match at all, with their scores. -/
def scoredSites (p : RescanProject) (allSites : List DiscoveredSite) : List (Scored C) :=
  allSites.filterMap fun site =>
    let (strength, ratio) := computeMatch p.projectCode p.projectName site
    if strength = .none then none else some ⟨site, strength, round2 ratio⟩

/-- The branch for a placeholder: the best `limit` sites are looked at. -/
def discover (limit : ℕ) (p : RescanProject) (allSites : List DiscoveredSite) :
    RescanTask (SharepointScan C) := do
  let scored := (scoredSites round2 p allSites).insertionSort Scored.before
  if scored = [] then
    pure
      { status := .missingSharepoint
        reason := "No candidate sites found for \x27" ++ p.projectCode ++
          "\x27. Supply project_name or enter site_id manually." }
  else
    let candidates ← enrichAll (scored.take limit)
    match candidates.filter (·.matchStrength = .strong) with
    | [c] =>
      pure
        { status := .autoMapped
          reason := "Single strong match: \x27" ++ c.displayName ++ "\x27."
          candidates := candidates
          recommendedSiteId := some c.siteId
          recommendedDriveId := c.driveId }
    | [] =>
      pure
        { status := .needsConfirmation
          reason := toString scored.length ++
            " candidate(s) found but none are a deterministic match. Admin must confirm."
          candidates := candidates }
    | strong =>
      pure
        { status := .conflict
          reason := toString strong.length ++ " strong matches found. Admin must choose."
          candidates := candidates }

end Discovery

/-! ### Mailboxes -/

section Mailboxes

variable [Text]

/-- `_is_placeholder_mailbox` -/
def isPlaceholderMailbox (address : String) : Bool :=
  decide (address = "") ||
    ((address.toList.contains '@') &&
      decide (lower (String.ofList (address.toList.reverse.takeWhile (· ≠ '@')).reverse) =
        "example.com"))

/-- The loop over the mailboxes. -/
def probeMailboxes : List String → RescanTask (List MailboxCandidate)
  | [] => pure []
  | addr :: rest => do
    let (accessible, httpSt) ← call (.probeMailbox addr)
    let candidates ← probeMailboxes rest
    pure (⟨addr, accessible, httpSt⟩ :: candidates)

/-- The mailboxes of a project. -/
def scanMailboxes (existing : List String) : RescanTask MailboxScan := do
  let real := existing.filter fun m => !isPlaceholderMailbox m
  if real = [] then
    pure
      { status := .missingMailbox
        reason :=
          "All mailbox entries are placeholders. Operator must supply real SMTP addresses." }
  else
    let candidates ← probeMailboxes real
    let accessible := candidates.filter (·.accessible)
    if accessible ≠ [] then
      pure
        { status := .autoMapped
          reason := toString accessible.length ++ "/" ++ toString real.length ++
            " mailbox(es) confirmed accessible via Mail.Read."
          candidates := candidates
          recommendedMailboxes := accessible.map (·.address) }
    else
      pure
        { status := .needsConfirmation
          reason := "Existing mailbox addresses returned non-200 via Mail.Read. " ++
            "Verify addresses or check Mail.Read permission scope."
          candidates := candidates }

/-- The sites `_rescan_one_project` enriches at most. -/
def candidateLimit : ℕ := 5

/-- `_rescan_one_project` -/
def rescanOneProject (p : RescanProject) (allSites : List DiscoveredSite) :
    RescanTask (ProjectRescanResult C) :=
  if p.mappingStatus = "disabled" then
    pure
      { projectCode := p.projectCode
        projectName := p.projectName
        existingSiteId := p.siteId
        existingDriveId := p.driveId
        sharepointStatus := .disabled
        mailboxStatus := .disabled
        siteCandidates := []
        mailboxCandidates := []
        reason := "Mapping is disabled." }
  else do
    let sp ← if isPlaceholderSite p.siteId then discover round2 candidateLimit p allSites
      else probeExisting round2 p
    let mb ← scanMailboxes p.sharedMailboxes
    pure
      { projectCode := p.projectCode
        projectName := p.projectName
        existingSiteId := p.siteId
        existingDriveId := p.driveId
        sharepointStatus := sp.status
        mailboxStatus := mb.status
        siteCandidates := sp.candidates
        mailboxCandidates := mb.candidates
        reason := "SharePoint: " ++ sp.reason ++ " | Mailbox: " ++ mb.reason
        recommendedSiteId := sp.recommendedSiteId
        recommendedDriveId := sp.recommendedDriveId
        recommendedMailboxes := mb.recommendedMailboxes }

end Mailboxes

end DecisionCenter.Mappings
