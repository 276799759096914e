import Orcheo.Defs.Listeners.Subscription
import Orcheo.Defs.Repository.Workflow
import Orcheo.Defs.Triggers.Layer

/-! The in-memory workflow repository: its indexes, and the operations on workflows, teams,
versions, triggers and listener subscriptions. Every operation holds the lock throughout. -/

namespace Orcheo.Repository

open Lib (Dict)
open Listeners (ListenerStore ListenerSubscription ListenerSubscriptionStatus)
open Triggers (TriggerLayer CronTriggerConfig WebhookTriggerConfig)

structure Team where
  workspaceId : String
  name : String
  slug : String
  isDefault : Bool := false
  deriving DecidableEq, Repr

inductive TeamError
  | notFound
  | slugConflict (slug : String)
  | notEmpty (name : String)
  | invalid (message : String)
  deriving DecidableEq, Repr

def teamText (team : Uuid) : String := toString team

def normalizeTeamSlug (rt : TextRuntime) (value : String) : Except TeamError String :=
  let candidate := rt.lower (rt.strip value)
  if candidate = "" then .error (.invalid "Team slug must not be empty.")
  else if !candidate.toList.all (fun c => rt.isAlnum c || c == '-' || c == '_') then
    .error (.invalid
      "Team slug must contain only alphanumeric characters, hyphens, or underscores.")
  else .ok candidate

abbrev HandleIndex := Dict (Option String) (Dict String (List Uuid))

structure HandleEntry where
  id : Uuid
  workspaceId : Option String
  handle : String
  deriving DecidableEq, Repr

namespace HandleIndex

def bucket (index : HandleIndex) (scope : Option String) (handle : String) : List Uuid :=
  (((index.get? scope).getD ∅).get? handle).getD []

/-- `index.setdefault(workspace_id, {}).setdefault(handle, []).append(id)` -/
def add (index : HandleIndex) (e : HandleEntry) : HandleIndex :=
  index.set e.workspaceId (((index.get? e.workspaceId).getD ∅).set e.handle
    (index.bucket e.workspaceId e.handle ++ [e.id]))

def ofEntries (es : List HandleEntry) : HandleIndex := es.foldl add ∅

end HandleIndex

def handleEntries (archived : Bool) (workflows : Dict Uuid Workflow) : List HandleEntry :=
  workflows.entries.filterMap (fun e =>
    if e.2.isArchived = archived then e.2.handle.map (⟨e.1, e.2.workspaceId, ·⟩) else none)

section SortKey

variable (workflows : Dict Uuid Workflow) (defaultTeams : Dict String Uuid)

def isDefaultTeamWorkflow (w : Workflow) : Bool :=
  match w.workspaceId, w.teamId with
  | some workspace, some team => match defaultTeams.get? workspace with
    | some defaultTeam => decide (team = teamText defaultTeam)
    | none => false
  | _, _ => false

def activeHandleSortKey (x : Uuid) : Nat × Int :=
  match workflows.get? x with
  | none => (1, 0)
  | some w => (if isDefaultTeamWorkflow defaultTeams w then 0 else 1, -w.updatedAt)

def sortKeyLe (a b : Nat × Int) : Bool := decide (a.1 < b.1 ∨ a.1 = b.1 ∧ a.2 ≤ b.2)

/-- `list.sort(key=...)`: stable, with every key computed once. -/
def sortMatches (ids : List Uuid) : List Uuid :=
  ((ids.map (fun x => (activeHandleSortKey workflows defaultTeams x, x))).mergeSort
    (fun a b => sortKeyLe a.1 b.1)).map Prod.snd

/-- `_rebuild_handle_indexes_locked`: the active index, then the archived one. -/
def rebuildHandleIndexes : HandleIndex × HandleIndex :=
  ((HandleIndex.ofEntries (handleEntries false workflows)).mapValues (fun _ handles =>
    handles.mapValues (fun _ ids => sortMatches workflows defaultTeams ids)),
  HandleIndex.ofEntries (handleEntries true workflows))

end SortKey

structure InMemoryRepositoryState where
  workflows : Dict Uuid Workflow := ∅
  workflowWorkspaces : Dict Uuid String := ∅
  activeWorkflowHandles : HandleIndex := ∅
  archivedWorkflowHandles : HandleIndex := ∅
  teams : Dict Uuid Team := ∅
  defaultTeamByWorkspace : Dict String Uuid := ∅
  workflowVersions : Dict Uuid (List Uuid) := ∅
  listeners : ListenerStore := {}
  triggerLayer : TriggerLayer := {}

namespace InMemoryRepositoryState

variable (rt : TextRuntime) (s : InMemoryRepositoryState)

def rebuilt : InMemoryRepositoryState :=
  let (active, archived) := rebuildHandleIndexes s.workflows s.defaultTeamByWorkspace
  { s with activeWorkflowHandles := active, archivedWorkflowHandles := archived }

/-- An active workflow other than `self` with the handle, in the team of the workspace. -/
def handleTaken (handle : String) (self : Option Uuid) (workspaceId teamId : Option String) :
    Bool :=
  s.workflows.entries.any (fun e => some e.1 ≠ self ∧ e.2.handle = some handle ∧
    e.2.workspaceId = workspaceId ∧ e.2.teamId = teamId ∧ e.2.isArchived = false)

def ensureHandleAvailable (handle : Option String) (self : Option Uuid)
    (workspaceId teamId : Option String) : Except WorkflowError Unit :=
  match handle with
  | none => .ok ()
  | some h => if s.handleTaken h self workspaceId teamId then .error (.handleConflict h)
    else .ok ()

/-- `id` is the identifier that the new workflow draws. -/
def createWorkflow (id : Uuid) (now : Instant) (r : NewWorkflow) :
    InMemoryRepositoryState × Except WorkflowError Workflow :=
  let created := do
    let handle ← normalizeWorkflowHandle rt r.handle
    s.ensureHandleAvailable handle none r.workspaceId r.teamId
    Workflow.create rt r handle now
  match created with
  | .error e => (s, .error e)
  | .ok w =>
    let stored := { s with
      workflows := s.workflows.set id w
      workflowWorkspaces := match r.workspaceId with
        | some workspace => s.workflowWorkspaces.set id workspace
        | none => s.workflowWorkspaces }
    ({ stored.rebuilt with
      workflowVersions := s.workflowVersions.set id ((s.workflowVersions.get? id).getD []) },
      .ok w)

/-- The workflow to update, and the normalised handle; availability is checked only where
the handle changes. -/
def checkUpdate (x : Uuid) (u : WorkflowUpdate) :
    Except WorkflowError (Workflow × Option String) := do
  let handle ← normalizeWorkflowHandle rt u.handle
  match s.workflows.get? x with
  | none => .error .notFound
  | some w =>
    if handle.isSome ∧ handle ≠ w.handle then
      s.ensureHandleAvailable handle (some x) w.workspaceId w.teamId
    return (w, handle)

/-- The stored workflow is edited in place: an assignment that is refused leaves the earlier
ones, and indexes that are not rebuilt. -/
def updateWorkflow (x : Uuid) (clock : EventClock) (disabledAt : Instant) (u : WorkflowUpdate) :
    InMemoryRepositoryState × Except WorkflowError Workflow :=
  match s.checkUpdate rt x u with
  | .error e => (s, .error e)
  | .ok (w, handle) =>
    match w.applyUpdate rt clock u handle with
    | .error (edited, e) => ({ s with workflows := s.workflows.set x edited }, .error e)
    | .ok updated =>
      let archiving := u.isArchived = some true ∧ w.isArchived = false
      (rebuilt { s with
        workflows := s.workflows.set x updated
        triggerLayer := if archiving then s.triggerLayer.removeCronConfig x else s.triggerLayer
        listeners := if archiving then
            s.listeners.disableListenerSubscriptions .inMemory x u.actor disabledAt
          else s.listeners }, .ok updated)

/-- The archive helper of `update_workflow`. -/
def archiveWorkflow (x : Uuid) (clock : EventClock) (disabledAt : Instant) (actor : String) :
    InMemoryRepositoryState × Except WorkflowError Workflow :=
  s.updateWorkflow rt x clock disabledAt { isArchived := some true, actor := actor }

def unarchived (x : Uuid) : Except WorkflowError Workflow :=
  match s.workflows.get? x with
  | none => .error .notFound
  | some w => if w.isArchived then .error .notFound else .ok w

def editUnarchived (x : Uuid) (edit : Workflow → Except WorkflowError Workflow) :
    InMemoryRepositoryState × Except WorkflowError Workflow :=
  match s.unarchived x >>= edit with
  | .error e => (s, .error e)
  | .ok w => ({ s with workflows := s.workflows.set x w }, .ok w)

def publishWorkflow (x : Uuid) (clock : EventClock) (requireLogin : Bool) (actor : String) :
    InMemoryRepositoryState × Except WorkflowError Workflow :=
  s.editUnarchived x (fun w => w.publish clock requireLogin actor)

def revokePublish (x : Uuid) (now : Instant) (actor : String) :
    InMemoryRepositoryState × Except WorkflowError Workflow :=
  s.editUnarchived x (fun w => w.revokePublish now actor)

def checkTeam (workspaceId name slug : String) (isDefault : Bool) : Except TeamError Team :=
  match normalizeTeamSlug rt slug with
  | .error e => .error e
  | .ok normalized =>
    if s.teams.entries.any (fun e =>
        e.2.workspaceId = workspaceId ∧ e.2.slug = normalized) then
      .error (.slugConflict normalized)
    else if rt.strip name = "" then .error (.invalid "Team name must not be empty.")
    else .ok ⟨workspaceId, rt.strip name, normalized, isDefault⟩

def createTeam (id : Uuid) (workspaceId name slug : String) (isDefault : Bool) :
    InMemoryRepositoryState × Except TeamError Team :=
  match s.checkTeam rt workspaceId name slug isDefault with
  | .error e => (s, .error e)
  | .ok team => ({ s with
      teams := s.teams.set id team
      defaultTeamByWorkspace :=
        if isDefault then s.defaultTeamByWorkspace.set workspaceId id
        else s.defaultTeamByWorkspace }, .ok team)

def defaultTeam (workspaceId : String) : Option Team :=
  (s.defaultTeamByWorkspace.get? workspaceId).bind s.teams.get?

def ensureDefaultTeam (id : Uuid) (workspaceId name slug : String) :
    InMemoryRepositoryState × Except TeamError Team :=
  match s.defaultTeam workspaceId with
  | some team => (s, .ok team)
  | none => match s.createTeam rt id workspaceId name slug true with
    | (s, .error e) => (s, .error e)
    | (s, .ok team) => (s.rebuilt, .ok team)

def deleteTeam (team : Uuid) (workspaceId : String) :
    InMemoryRepositoryState × Except TeamError Unit :=
  match s.teams.get? team with
  | none => (s, .error .notFound)
  | some found =>
    if found.workspaceId ≠ workspaceId then (s, .error .notFound)
    else if s.workflows.entries.any (fun e => e.2.workspaceId = some workspaceId ∧
        e.2.teamId = some (teamText team) ∧ e.2.isArchived = false) then
      (s, .error (.notEmpty found.name))
    else ({ s with
      teams := s.teams.erase team
      defaultTeamByWorkspace :=
        if s.defaultTeamByWorkspace.get? workspaceId = some team then
          s.defaultTeamByWorkspace.erase workspaceId
        else s.defaultTeamByWorkspace }, .ok ())

/-- `compiled` is what the graph's listeners compile to, absent where that raises; the old
subscriptions are disabled before. -/
def syncListenerSubscriptions (x : Uuid) (compiled : Option (Dict Uuid ListenerSubscription))
    (actor : String) (now : Instant) : InMemoryRepositoryState :=
  { s with listeners := match compiled with
    | none => s.listeners.disableListenerSubscriptions .inMemory x actor now
    | some compiled =>
      s.listeners.syncListenerSubscriptions .inMemory x actor compiled.entries now }

def createVersion (x version : Uuid) (compiled : Option (Dict Uuid ListenerSubscription))
    (actor : String) (now : Instant) : InMemoryRepositoryState :=
  match s.workflows.get? x with
  | none => s
  | some _ =>
    syncListenerSubscriptions { s with
      workflowVersions := s.workflowVersions.set x
        ((s.workflowVersions.get? x).getD [] ++ [version]) } x compiled actor now

def configureWebhookTrigger (x : Uuid) (config : WebhookTriggerConfig) :
    InMemoryRepositoryState × Except WorkflowError Unit :=
  match s.unarchived x with
  | .error e => (s, .error e)
  | .ok _ => ({ s with triggerLayer := s.triggerLayer.configureWebhook x config }, .ok ())

def configureCronTrigger (x : Uuid) (config : CronTriggerConfig) :
    InMemoryRepositoryState × Except WorkflowError Unit :=
  match s.unarchived x with
  | .error e => (s, .error e)
  | .ok _ => ({ s with triggerLayer := s.triggerLayer.configureCron x config none }, .ok ())

def deleteCronTrigger (x : Uuid) : InMemoryRepositoryState × Except WorkflowError Unit :=
  match s.workflows.get? x with
  | none => (s, .error .notFound)
  | some _ => ({ s with triggerLayer := s.triggerLayer.removeCronConfig x }, .ok ())

def updateListenerSubscriptionStatus (y : Uuid) (status : ListenerSubscriptionStatus)
    (actor : String) (lastError : Option String) (now : Instant) : InMemoryRepositoryState :=
  { s with listeners :=
    (s.listeners.updateListenerSubscriptionStatus y status actor lastError now).1 }

end InMemoryRepositoryState

inductive RepositoryOp
  | createWorkflow (id : Uuid) (now : Instant) (r : NewWorkflow)
  | updateWorkflow (x : Uuid) (clock : EventClock) (disabledAt : Instant) (u : WorkflowUpdate)
  | archiveWorkflow (x : Uuid) (clock : EventClock) (disabledAt : Instant) (actor : String)
  | publishWorkflow (x : Uuid) (clock : EventClock) (requireLogin : Bool) (actor : String)
  | revokePublish (x : Uuid) (now : Instant) (actor : String)
  | createTeam (id : Uuid) (workspaceId name slug : String) (isDefault : Bool)
  | ensureDefaultTeam (id : Uuid) (workspaceId name slug : String)
  | deleteTeam (team : Uuid) (workspaceId : String)
  | createVersion (x version : Uuid) (compiled : Option (Dict Uuid ListenerSubscription))
      (actor : String) (now : Instant)
  | syncListenerSubscriptions (x : Uuid) (compiled : Option (Dict Uuid ListenerSubscription))
      (actor : String) (now : Instant)
  | configureWebhookTrigger (x : Uuid) (config : WebhookTriggerConfig)
  | configureCronTrigger (x : Uuid) (config : CronTriggerConfig)
  | deleteCronTrigger (x : Uuid)
  | claimListenerSubscription (y : Uuid) (runtimeId : String) (leaseSeconds : Nat)
      (now : Instant)
  | releaseListenerSubscription (y : Uuid) (runtimeId : String) (now : Instant)
  | updateListenerSubscriptionStatus (y : Uuid) (status : ListenerSubscriptionStatus)
      (actor : String) (lastError : Option String) (now : Instant)

def InMemoryRepositoryState.step (rt : TextRuntime) (s : InMemoryRepositoryState) :
    RepositoryOp → InMemoryRepositoryState
  | .createWorkflow id now r => (s.createWorkflow rt id now r).1
  | .updateWorkflow x clock disabledAt u => (s.updateWorkflow rt x clock disabledAt u).1
  | .archiveWorkflow x clock disabledAt actor => (s.archiveWorkflow rt x clock disabledAt actor).1
  | .publishWorkflow x clock requireLogin actor =>
    (s.publishWorkflow x clock requireLogin actor).1
  | .revokePublish x now actor => (s.revokePublish x now actor).1
  | .createTeam id workspaceId name slug isDefault =>
    (s.createTeam rt id workspaceId name slug isDefault).1
  | .ensureDefaultTeam id workspaceId name slug =>
    (s.ensureDefaultTeam rt id workspaceId name slug).1
  | .deleteTeam team workspaceId => (s.deleteTeam team workspaceId).1
  | .createVersion x version compiled actor now => s.createVersion x version compiled actor now
  | .syncListenerSubscriptions x compiled actor now =>
    s.syncListenerSubscriptions x compiled actor now
  | .configureWebhookTrigger x config => (s.configureWebhookTrigger x config).1
  | .configureCronTrigger x config => (s.configureCronTrigger x config).1
  | .deleteCronTrigger x => (s.deleteCronTrigger x).1
  | .claimListenerSubscription y runtimeId leaseSeconds now => { s with listeners :=
      (s.listeners.claimListenerSubscription .inMemory y runtimeId leaseSeconds now).1 }
  | .releaseListenerSubscription y runtimeId now => { s with listeners :=
      (s.listeners.releaseListenerSubscription y runtimeId now).1 }
  | .updateListenerSubscriptionStatus y status actor lastError now =>
    s.updateListenerSubscriptionStatus y status actor lastError now

end Orcheo.Repository
