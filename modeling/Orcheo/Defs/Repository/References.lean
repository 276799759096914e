import Orcheo.Defs.Repository.InMemory
import Orcheo.Lib.Ranking

/-! The resolution of workflow references, in memory and in Postgres. -/

namespace Orcheo.Repository

open Lib (Dict)

/-- `str` and `UUID`: the text of an identifier reads back. -/
structure ReferenceRuntime extends TextRuntime where
  text : Uuid → String
  uuid_text (x : Uuid) : uuid (text x) = some x

def ReferenceRuntime.ascii : ReferenceRuntime where
  toTextRuntime := .ascii
  text := Nat.repr
  uuid_text x := by
    have digits : x.repr.toList.all Char.isDigit = true := by
      rw [List.all_eq_true, Nat.toList_repr]
      intro c mem
      exact Nat.isDigit_of_mem_toDigits (by decide) (by decide) mem
    have present : x.repr ≠ "" := by
      intro empty
      have none := congrArg String.toList empty
      rw [Nat.toList_repr] at none
      exact Nat.toDigits_ne_nil none
    show (if x.repr ≠ "" ∧ x.repr.toList.all Char.isDigit then _ else _) = _
    rw [if_pos ⟨present, digits⟩, Nat.toList_repr]
    congr 1
    rw [← Nat.ofDigitChars_eq_foldl]
    exact Nat.ofDigitChars_toDigits (by decide) (by decide)

/-- `workflow_ref.strip().lower()` -/
def normalizeRef (rt : TextRuntime) (workflowRef : String) : String :=
  rt.lower (rt.strip workflowRef)

structure ReferenceQuery where
  workflowRef : String
  includeArchived : Bool := true
  workspaceId : Option String := none
  teamId : Option String := none

def orNotFound : Option Uuid → Except WorkflowError Uuid
  | none => .error .notFound
  | some x => .ok x

namespace InMemoryRepositoryState

variable (s : InMemoryRepositoryState)

def matchesTeam (teamId : Option String) (x : Uuid) : Bool :=
  match teamId with
  | none => true
  | some team => match s.workflows.get? x with
    | none => false
    | some w => w.teamId == some team

def findInHandleIndex (index : HandleIndex) (scopeKeys : List (Option String)) (ref : String)
    (teamId : Option String) : Option Uuid :=
  scopeKeys.findSome? (fun scope => (index.bucket scope ref).find? (s.matchesTeam teamId))

def storedWithin (workspaceId : Option String) (x : Uuid) : Bool :=
  match s.workflows.get? x, workspaceId with
  | none, _ => false
  | some _, none => true
  | some _, some workspace => match s.workflowWorkspaces.get? x with
    | none => true
    | some stored => stored == workspace

def resolveByUuid (rt : TextRuntime) (ref : String) (workspaceId teamId : Option String) :
    Option Uuid :=
  if teamId.isSome then none else (rt.uuid ref).filter (s.storedWithin workspaceId)

def scopeKeys (workspaceId : Option String) : List (Option String) :=
  match workspaceId with
  | some workspace => [some workspace, none]
  | none => none :: s.activeWorkflowHandles.keys

def resolveWorkflowRef (rt : TextRuntime) (q : ReferenceQuery) : Except WorkflowError Uuid :=
  let ref := normalizeRef rt q.workflowRef
  if ref = "" then .error .notFound
  else
    let find (index : HandleIndex) :=
      s.findInHandleIndex index (s.scopeKeys q.workspaceId) ref q.teamId
    orNotFound ((find s.activeWorkflowHandles).or
      ((if q.includeArchived then find s.archivedWorkflowHandles else none).or
        (s.resolveByUuid rt ref q.workspaceId q.teamId)))

end InMemoryRepositoryState

abbrev WorkflowRow := Uuid × Workflow

structure WorkflowTables where
  workflows : List WorkflowRow
  teams : Dict Uuid Team := ∅

namespace WorkflowTables

/-- `COALESCE(t.is_default, FALSE)` of `LEFT JOIN teams t ON t.id = w.team_id` -/
def inDefaultTeam (teams : Dict Uuid Team) (w : Workflow) : Bool :=
  teams.entries.any (fun e => some (teamText e.1) = w.teamId ∧ e.2.isDefault = true)

/-- The order of ranks, computed from the linear order of each part. -/
instance : Preorder (Nat ×ₗ Int) :=
  @Prod.Lex.instPreorder Nat Int Nat.instPreorder Int.instLinearOrder.toPreorder

instance : Preorder (Nat ×ₗ Nat ×ₗ Int) :=
  @Prod.Lex.instPreorder Nat (Nat ×ₗ Int) Nat.instPreorder inferInstance

/-- `ORDER BY` the kind of match, then by a flag, then the most recent first. -/
def refOrder (ref : String) (flag : Workflow → Bool) (row : WorkflowRow) : Nat ×ₗ Nat ×ₗ Int :=
  toLex (if row.2.handle = some ref then if row.2.isArchived then 1 else 0 else 2,
    toLex (if flag row.2 then 0 else 1, -row.2.updatedAt))

def answers (rt : ReferenceRuntime) (ref : String) (includeArchived : Bool) (row : WorkflowRow) :
    Bool :=
  decide (row.2.handle = some ref ∧ (includeArchived = true ∨ row.2.isArchived = false)) ||
    ((rt.uuid ref).isSome && decide (rt.text row.1 = ref))

variable (t : WorkflowTables)

def queryScope (rt : ReferenceRuntime) (ref : String) (includeArchived : Bool)
    (scope : Option String) : Option WorkflowRow :=
  (t.workflows.filter (fun row =>
    decide (row.2.workspaceId = scope) && answers rt ref includeArchived row)).argmin
    (refOrder ref (fun w => scope.isSome && inDefaultTeam t.teams w))

def queryAll (rt : ReferenceRuntime) (ref : String) (includeArchived : Bool) :
    Option WorkflowRow :=
  (t.workflows.filter (answers rt ref includeArchived)).argmin (refOrder ref (fun _ => false))

/-- `_resolve_workflow_ref_in_team_locked`: `COALESCE` identifies no team and the empty one. -/
def queryTeam (ref : String) (includeArchived : Bool) (workspaceId teamId : String) :
    Option WorkflowRow :=
  (t.workflows.filter (fun row => decide (row.2.handle = some ref ∧
    row.2.workspaceId = some workspaceId ∧ row.2.teamId.getD "" = teamId ∧
    (includeArchived = true ∨ row.2.isArchived = false)))).argmin
    (refOrder ref (fun _ => false))

def resolveLocked (rt : ReferenceRuntime) (ref : String) (q : ReferenceQuery) :
    Option WorkflowRow :=
  match q.workspaceId, q.teamId with
  | some workspace, some team => t.queryTeam ref q.includeArchived workspace team
  | some workspace, none =>
    [some workspace, none].findSome? (t.queryScope rt ref q.includeArchived)
  | none, _ => t.queryAll rt ref q.includeArchived

/-- `_get_workflow_workspace_id_locked` -/
def workspaceOf (x : Uuid) : Option String :=
  (t.workflows.find? (fun row => row.1 = x)).bind (fun row => row.2.workspaceId)

def checkWorkspace (workspaceId : Option String) (x : Uuid) : Except WorkflowError Uuid :=
  match workspaceId, t.workspaceOf x with
  | some workspace, some stored => if stored ≠ workspace then .error .notFound else .ok x
  | _, _ => .ok x

def resolveWorkflowRef (rt : ReferenceRuntime) (q : ReferenceQuery) : Except WorkflowError Uuid :=
  let ref := normalizeRef rt.toTextRuntime q.workflowRef
  if ref = "" then .error .notFound
  else match t.resolveLocked rt ref q with
    | none => .error .notFound
    | some row => t.checkWorkspace q.workspaceId row.1

end WorkflowTables

end Orcheo.Repository
