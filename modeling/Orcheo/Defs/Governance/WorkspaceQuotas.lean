import Orcheo.Defs.Governance.Quotas
import Orcheo.Defs.Repository.HandleUniqueness
import Orcheo.Lib.Admission
import Orcheo.Lib.Tally

/-! Workspaces within their quotas while any number of requests run at once. -/

namespace Orcheo.Governance

open Lib.Call (meets_andThen)
open Lib (Always AllSteps Asked Dict Server Tally always_iff_allSteps_of_allowed)
open Repository (InMemoryRepositoryState NewWorkflow TextRuntime Workflow)
open Vault (CredentialMetadata CredentialRow NewCredential VaultOp VaultStore)
open Lib.Call.Only (andThen)

inductive Resource
  | workflows | credentials
  deriving DecidableEq

abbrev Holding := Resource × String

def Deployment.quota (d : Deployment) : Holding → Nat
  | (.workflows, w) => (d.workspaces w).quotas.maxWorkflows
  | (.credentials, w) => (d.workspaces w).quotas.maxCredentials

namespace GovernedStore

variable (s : GovernedStore)

def liveWorkflows (w : String) : Finset Uuid :=
  s.repository.workflows.keysWhere (fun x workflow =>
    decide (s.repository.workflowWorkspaces.get? x = some w) && !workflow.isArchived)

def storedCredentials (w : String) : Finset Uuid :=
  s.vault.credentials.keysWhere (fun _ row => decide (row.workspaceId = some w))

def held : Holding → Finset Uuid
  | (.workflows, w) => s.liveWorkflows w
  | (.credentials, w) => s.storedCredentials w

def WithinQuotas (d : Deployment) : Prop := ∀ k, (s.held k).card ≤ d.quota k

/-- Only workflows that are stored have a workspace, and credentials lie in that of their
payload. -/
structure Consistent : Prop where
  known : ∀ x w, s.repository.workflowWorkspaces.get? x = some w →
    ∃ workflow, s.repository.workflows.get? x = some workflow
  placed : ∀ x row, s.vault.credentials.get? x = some row →
    row.payload.workspaceId.or row.workspaceId = row.workspaceId

end GovernedStore

def GovernanceOp.target : GovernanceOp → Option Holding
  | createWorkflow _ _ r => r.workspaceId.map (.workflows, ·)
  | createCredential new => new.workspaceId.map (.credentials, ·)
  | _ => none

def GovernanceOp.Fresh (s : GovernedStore) : GovernanceOp → Prop
  | createWorkflow id _ _ => s.repository.workflows.get? id = none
  | createCredential new => s.vault.credentials.get? new.id = none
  | _ => True

def counts : Asked GovernanceOp.Answer → Option (Holding × Nat)
  | ⟨.listWorkflows w, .ok (ids : List Uuid)⟩ => some ((.workflows, w), ids.length)
  | ⟨.listAllCredentials w, .ok (items : List CredentialMetadata)⟩ =>
    some ((.credentials, w), items.length)
  | _ => none

def succeeds {ε α : Type} : Except ε α → Bool
  | .ok _ => true
  | .error _ => false

def adds (a : Asked GovernanceOp.Answer) (k : Holding) : Bool :=
  decide (a.op.target = some k) && succeeds a.answer

abbrev GovernanceServer :=
  Server GovernedStore GovernedRequest GovernanceOp.Answer (Except RouteError Unit)

abbrev GovernanceEvent := Lib.Event GovernanceOp.Answer

abbrev GovernanceTurn := Lib.Turn GovernedRequest

def tally : Tally GovernanceEvent Holding where
  caller e := e.caller
  counts e := counts e.toAsked
  adds e := adds e.toAsked

section Statements

variable (d : Deployment) (s : GovernanceServer)

def governanceStep : GovernanceServer → GovernanceTurn → GovernanceServer :=
  Server.step (GovernedStore.exec d) (GovernedRequest.program d)

def onCall (s : GovernanceServer) (P : Nat → GovernanceOp → Prop) : GovernanceTurn → Prop
  | .begin _ => True
  | .advance i => match s.threads[i]? with
    | some ⟨_, _, .ask op _⟩ => P i op
    | _ => True

def createsFresh (s : GovernanceServer) : GovernanceTurn → Prop :=
  onCall s (fun _ op => op.Fresh s.store)

def createsWithinQuota (s : GovernanceServer) : GovernanceTurn → Prop :=
  onCall s (fun i op => ∀ k, adds ⟨op, (s.store.exec d op).1⟩ k = true →
    tally.undisturbed i k s.trace = true ∨ (s.store.held k).card < d.quota k)

end Statements

namespace GovernedStore

variable {d : Deployment} {s s' : GovernedStore} {w : String} {x : Uuid} {k : Holding}

@[simp] theorem mem_liveWorkflows : x ∈ s.liveWorkflows w ↔
    ∃ workflow, s.repository.workflows.get? x = some workflow ∧
      s.repository.workflowWorkspaces.get? x = some w ∧ workflow.isArchived = false := by
  simp [liveWorkflows]

@[simp] theorem mem_storedCredentials : x ∈ s.storedCredentials w ↔
    ∃ row, s.vault.credentials.get? x = some row ∧ row.workspaceId = some w := by
  simp [storedCredentials]

end GovernedStore

section Vault

variable {d : Deployment} {v v' : VaultStore}

def Shrinks (v v' : VaultStore) : Prop :=
  ∀ x row, v'.credentials.get? x = some row → v.credentials.get? x = some row

theorem Shrinks.refl (v : VaultStore) : Shrinks v v := fun _ _ there => there

theorem Shrinks.trans (v v' v'' : VaultStore) (first : Shrinks v v') (second : Shrinks v' v'') :
    Shrinks v v'' := fun x row there => first x row (second x row there)

theorem Shrinks.of_eq (same : v'.credentials = v.credentials) : Shrinks v v' := by
  intro x row there
  rw [← same]
  exact there

def StoresNone : VaultOp → Prop
  | .upsertMetadata _ => False
  | _ => True

theorem shrinks_exec (op : VaultOp) (v : VaultStore) (none : StoresNone op) :
    Shrinks v (VaultStore.exec d.storage d.vault op v).2 := by
  cases op with
  | upsertMetadata metadata => exact none.elim
  | removeCredential credentialId =>
    show Shrinks v (v.removeCredential credentialId).2
    unfold VaultStore.removeCredential
    split
    · intro x row there
      rw [Dict.get?_erase] at there
      split at there
      · cases there
      · exact there
    · exact .refl v
  | upsertTemplate template =>
    show Shrinks v (v.upsertTemplate d.storage d.vault template).2
    unfold VaultStore.upsertTemplate
    apply Shrinks.of_eq
    split
    · rfl
    · split <;> rfl
  | removeTemplate templateId =>
    show Shrinks v (v.removeTemplate templateId).2
    unfold VaultStore.removeTemplate
    apply Shrinks.of_eq
    split <;> rfl
  | upsertAlert alert =>
    show Shrinks v (v.upsertAlert d.storage d.vault alert).2
    unfold VaultStore.upsertAlert
    apply Shrinks.of_eq
    split <;> rfl
  | _ => exact .refl v

theorem only_each {α β : Type} {A : VaultOp → Prop} {f : α → Vault.VaultCall β}
    (only : ∀ a, (f a).Only A) (as : List α) : (Vault.VaultCall.each f as).Only A := by
  induction as with
  | nil => trivial
  | cons a as ih =>
    refine (only a).andThen fun result => ?_
    exact ih.andThen fun results => trivial

theorem only_call {A : VaultOp → Prop} {op : VaultOp} (allowed : A op) : op.call.Only A :=
  ⟨allowed, fun _ => trivial⟩

variable {context : Option Vault.CredentialAccessContext} {credentialId : Uuid}
  {rt : Vault.VaultRuntime}

theorem only_getMetadata : (Vault.getMetadata rt credentialId context).Only StoresNone :=
  andThen (only_call trivial) fun _ => trivial

theorem only_getTemplate {templateId : Uuid} :
    (Vault.getTemplate rt templateId context).Only StoresNone :=
  andThen (only_call trivial) fun _ => trivial

theorem only_deleteCredential :
    (Vault.deleteCredential rt credentialId context).Only StoresNone := by
  refine only_getMetadata.andThen fun metadata => ?_
  refine andThen (only_call trivial) fun _ => ?_
  refine andThen (only_call trivial) fun alerts => ?_
  have removes (alert : Vault.SecretGovernanceAlert) :
      (VaultOp.removeAlert alert.id).call.Only StoresNone := only_call trivial
  exact (only_each removes _).andThen fun _ => trivial

theorem only_recordTemplateIssuance {templateId : Uuid} {actor : String} {now : Instant} :
    (Vault.recordTemplateIssuance rt templateId actor credentialId context now).Only
      StoresNone := by
  refine only_getTemplate.andThen fun template => ?_
  exact andThen (only_call trivial) fun _ => trivial

theorem only_listAllCredentials {workspaceId : Option String} :
    (Vault.listAllCredentials workspaceId).Only StoresNone := by
  have iterates : (VaultOp.iterMetadata workspaceId).call.Only StoresNone := only_call trivial
  exact iterates.andThen fun _ => trivial

def Column (v : VaultStore) (x : Uuid) (workspaceId column : Option String) : Prop :=
  column = workspaceId ∨ workspaceId = none ∧
    column = (v.credentials.get? x).bind CredentialRow.workspaceId

theorem run_persistMetadata (metadata : CredentialMetadata) (v : VaultStore) :
    (∃ e, (Vault.persistMetadata metadata).run (VaultStore.exec d.storage d.vault) v =
        (.error e, v)) ∨
      ∃ column, (Vault.persistMetadata metadata).run (VaultStore.exec d.storage d.vault) v =
          (.ok (), { v with credentials := v.credentials.set metadata.id ⟨column, metadata⟩ }) ∧
        Column v metadata.id metadata.workspaceId column := by
  unfold Vault.persistMetadata
  cases selected : v.selectDuplicates d.storage d.vault metadata.name metadata.workspaceId with
  | error e =>
    have ran : (VaultOp.selectDuplicates metadata.name metadata.workspaceId).call.run
        (VaultStore.exec d.storage d.vault) v = (.error e, v) := by
      rw [← selected]
      rfl
    rw [Lib.Call.run_andThen_error ran]
    exact Or.inl ⟨e, rfl⟩
  | ok ids =>
    have ran : (VaultOp.selectDuplicates metadata.name metadata.workspaceId).call.run
        (VaultStore.exec d.storage d.vault) v = (.ok ids, v) := by
      rw [← selected]
      rfl
    rw [Lib.Call.run_andThen_ok ran]
    split
    next => exact Or.inl ⟨_, rfl⟩
    next =>
      show (∃ e, v.upsertMetadata d.storage d.vault metadata = (.error e, v)) ∨
        ∃ column, v.upsertMetadata d.storage d.vault metadata = _ ∧ _
      unfold VaultStore.upsertMetadata
      split
      next => exact Or.inr ⟨metadata.workspaceId, rfl, Or.inl rfl⟩
      next =>
        split
        next => exact Or.inl ⟨_, rfl⟩
        next =>
          refine Or.inr ⟨_, rfl, ?_⟩
          cases own : metadata.workspaceId with
          | none => exact Or.inr ⟨rfl, rfl⟩
          | some w => exact Or.inl rfl

theorem run_createCredential (new : NewCredential) (v : VaultStore) :
    (∃ e, (Vault.createCredential d.storage.toVaultRuntime d.cipher new).run
        (VaultStore.exec d.storage d.vault) v = (.error e, v)) ∨
      ∃ metadata column, (Vault.createCredential d.storage.toVaultRuntime d.cipher new).run
          (VaultStore.exec d.storage d.vault) v =
        (.ok metadata, { v with credentials := v.credentials.set new.id ⟨column, metadata⟩ }) ∧
        metadata.workspaceId = new.workspaceId ∧ Column v new.id new.workspaceId column := by
  unfold Vault.createCredential
  cases Vault.CredentialKind.ofValue new.kind with
  | error e => exact Or.inl ⟨e, rfl⟩
  | ok kind =>
    change (∃ e, ((Vault.persistMetadata (new.metadata d.storage.toVaultRuntime d.cipher kind)).andThen
        _).run _ v = _) ∨ ∃ metadata column, ((Vault.persistMetadata
          (new.metadata d.storage.toVaultRuntime d.cipher kind)).andThen _).run _ v = _ ∧ _
    obtain ⟨e, ran⟩ | ⟨column, ran, placed⟩ := run_persistMetadata (d := d)
      (new.metadata d.storage.toVaultRuntime d.cipher kind) v
    · rw [Lib.Call.run_andThen_error ran]
      exact Or.inl ⟨e, rfl⟩
    · rw [Lib.Call.run_andThen_ok ran]
      exact Or.inr ⟨_, column, rfl, rfl, placed⟩

end Vault

namespace GovernedStore

variable {d : Deployment} {s s' : GovernedStore} {w : String} {x : Uuid} {k : Holding}

structure Loses (s s' : GovernedStore) : Prop where
  workspaces : s'.repository.workflowWorkspaces = s.repository.workflowWorkspaces
  kept : ∀ x workflow, s.repository.workflows.get? x = some workflow →
    ∃ workflow', s'.repository.workflows.get? x = some workflow'
  live : ∀ x workflow', s'.repository.workflows.get? x = some workflow' →
    workflow'.isArchived = false →
    ∃ workflow, s.repository.workflows.get? x = some workflow ∧ workflow.isArchived = false
  vault : Shrinks s.vault s'.vault

theorem Loses.of_same
    (workspaces : s'.repository.workflowWorkspaces = s.repository.workflowWorkspaces)
    (workflows : s'.repository.workflows = s.repository.workflows)
    (vault : Shrinks s.vault s'.vault) : Loses s s' where
  workspaces := workspaces
  kept x workflow there := by
    rw [workflows]
    exact ⟨workflow, there⟩
  live x workflow there live := by
    rw [workflows] at there
    exact ⟨workflow, there, live⟩
  vault := vault

theorem Loses.refl (s : GovernedStore) : Loses s s := .of_same rfl rfl (.refl s.vault)

theorem Loses.held (loses : Loses s s') (k : Holding) : s'.held k ⊆ s.held k := by
  obtain ⟨resource, w⟩ := k
  intro x mem
  cases resource with
  | workflows =>
    obtain ⟨workflow', there', here, live'⟩ := mem_liveWorkflows.mp mem
    obtain ⟨workflow, there, live⟩ := loses.live x workflow' there' live'
    rw [loses.workspaces] at here
    exact mem_liveWorkflows.mpr ⟨workflow, there, here, live⟩
  | credentials =>
    obtain ⟨row, there, here⟩ := mem_storedCredentials.mp mem
    exact mem_storedCredentials.mpr ⟨row, loses.vault x row there, here⟩

theorem Loses.consistent (loses : Loses s s') (consistent : s.Consistent) : s'.Consistent where
  known x w here := by
    rw [loses.workspaces] at here
    obtain ⟨workflow, there⟩ := consistent.known x w here
    exact loses.kept x workflow there
  placed x row there := consistent.placed x row (loses.vault x row there)

theorem loses_callVault {α : Type} {call : Vault.VaultCall α} (only : call.Only StoresNone) :
    Loses s (s.callVault d call).2 := by
  refine .of_same rfl rfl ?_
  exact only.relates Shrinks.refl Shrinks.trans (fun op v none => shrinks_exec op v none) s.vault

variable {rt : TextRuntime} {op : GovernanceOp}

theorem loses_archiveWorkflow {clock : Repository.EventClock}
    {disabledAt : Instant} {actor : String} :
    Loses s (s.archiveWorkflow rt x clock disabledAt actor).2 := by
  have stored {w w' : Workflow} (found : s.repository.workflows.get? x = some w)
      (live : w'.isArchived = false → w.isArchived = false) {repository : InMemoryRepositoryState}
      (workspaces : repository.workflowWorkspaces = s.repository.workflowWorkspaces)
      (workflows : repository.workflows = s.repository.workflows.set x w') :
      Loses s { s with repository := repository } := by
    refine ⟨workspaces, ?_, ?_, .refl s.vault⟩
    · intro y v there
      dsimp only
      rw [workflows, Dict.get?_set]
      split
      · exact ⟨w', rfl⟩
      · exact ⟨v, there⟩
    · intro y v there unarchived
      dsimp only at there
      rw [workflows] at there
      obtain ⟨same, rfl⟩ | ⟨-, there⟩ := Dict.of_get?_set there
      · exact ⟨w, by rw [same]; exact found, live unarchived⟩
      · exact ⟨v, there, unarchived⟩
  unfold GovernedStore.archiveWorkflow
  dsimp only
  cases checked : s.repository.checkUpdate rt x { isArchived := some true, actor := actor } with
  | error e =>
    have same : (s.repository.archiveWorkflow rt x clock disabledAt actor).1 = s.repository := by
      simp only [InMemoryRepositoryState.archiveWorkflow, InMemoryRepositoryState.updateWorkflow,
        checked]
    rw [same]
    exact .refl s
  | ok p =>
    obtain ⟨w, handle⟩ := p
    have found := (InMemoryRepositoryState.checkUpdate_ok checked).1
    cases updated : w.applyUpdate rt clock { isArchived := some true, actor := actor } handle with
    | error p =>
      obtain ⟨edited, e⟩ := p
      obtain ⟨name, same⟩ := Workflow.applyUpdate_error updated
      have left : (s.repository.archiveWorkflow rt x clock disabledAt actor).1 =
          { s.repository with workflows := s.repository.workflows.set x edited } :=
        InMemoryRepositoryState.updateWorkflow_refused checked updated
      rw [left]
      refine stored found ?_ rfl rfl
      intro live
      change edited = _ at same
      rw [same] at live
      exact live
    | ok w' =>
      have archived : w'.isArchived = true := Workflow.isArchived_applyUpdate updated
      have left : (s.repository.archiveWorkflow rt x clock disabledAt actor).1 = _ :=
        InMemoryRepositoryState.updateWorkflow_updated checked updated
      rw [left]
      refine stored found ?_ rfl rfl
      intro live
      rw [archived] at live
      cases live

theorem loses_ensureDefaultTeam {workspaceId name slug : String} :
    Loses s (s.ensureDefaultTeam rt x workspaceId name slug).2 := by
  have same : (s.repository.ensureDefaultTeam rt x workspaceId name slug).1.workflows =
      s.repository.workflows ∧
      (s.repository.ensureDefaultTeam rt x workspaceId name slug).1.workflowWorkspaces =
        s.repository.workflowWorkspaces := by
    unfold InMemoryRepositoryState.ensureDefaultTeam
    split
    · exact ⟨rfl, rfl⟩
    · unfold InMemoryRepositoryState.createTeam
      cases s.repository.checkTeam rt workspaceId name slug true with
      | error e => exact ⟨rfl, rfl⟩
      | ok team => exact ⟨rfl, rfl⟩
  exact .of_same same.2 same.1 (.refl s.vault)

theorem createWorkflow_cases {now : Instant} {r : NewWorkflow} :
    (succeeds (s.createWorkflow rt x now r).1 = false ∧ (s.createWorkflow rt x now r).2 = s) ∨
      succeeds (s.createWorkflow rt x now r).1 = true ∧ ∃ workflow : Workflow,
        workflow.isArchived = false ∧
        (s.createWorkflow rt x now r).2.repository.workflows =
          s.repository.workflows.set x workflow ∧
        (s.createWorkflow rt x now r).2.repository.workflowWorkspaces =
          (match r.workspaceId with
            | some workspace => s.repository.workflowWorkspaces.set x workspace
            | none => s.repository.workflowWorkspaces) ∧
        (s.createWorkflow rt x now r).2.vault = s.vault := by
  unfold GovernedStore.createWorkflow InMemoryRepositoryState.createWorkflow
  dsimp only
  split
  next => exact Or.inl ⟨rfl, rfl⟩
  next workflow created =>
    obtain ⟨handle, -, created⟩ := Lib.bind_ok_iff.mp created
    obtain ⟨-, -, created⟩ := Lib.bind_ok_iff.mp created
    exact Or.inr ⟨rfl, workflow, (Workflow.create_ok created).2.2.2, rfl, rfl, rfl⟩

structure Admits (s s' : GovernedStore) (grows : Holding → Bool) : Prop where
  consistent : s'.Consistent
  grown : ∀ k, grows k = true → ∃ x, x ∉ s.held k ∧ s'.held k = insert x (s.held k)
  kept : ∀ k, grows k = false → s'.held k ⊆ s.held k

theorem Loses.admits (loses : Loses s s') (consistent : s.Consistent) {grows : Holding → Bool}
    (none : ∀ k, grows k = false) : Admits s s' grows where
  consistent := loses.consistent consistent
  grown k grows := by
    rw [none k] at grows
    cases grows
  kept k _ := loses.held k

theorem adds_of_target (none : op.target = none) (answer : op.Answer) (k : Holding) :
    adds ⟨op, answer⟩ k = false := by
  simp [adds, none]

theorem adds_of_failed {answer : op.Answer} (failed : succeeds answer = false) (k : Holding) :
    adds ⟨op, answer⟩ k = false := by
  simp [adds, failed]

section

variable (consistent : s.Consistent)
include consistent

theorem admits_createWorkflow {now : Instant} {r : NewWorkflow}
    (fresh : s.repository.workflows.get? x = none) :
    Admits s (s.createWorkflow d.text x now r).2
      (adds ⟨.createWorkflow x now r, (s.createWorkflow d.text x now r).1⟩) := by
  obtain ⟨failed, same⟩ | ⟨succeeded, workflow, live, workflows, workspaces, vault⟩ :=
    s.createWorkflow_cases
  · rw [same]
    exact (Loses.refl s).admits consistent (adds_of_failed failed)
  · generalize (s.createWorkflow d.text x now r).2 = s' at workflows workspaces vault
    have adding (k : Holding) : adds ⟨.createWorkflow x now r, (s.createWorkflow d.text x now r).1⟩ k =
        decide (r.workspaceId.map (Resource.workflows, ·) = some k) := by
      simp [adds, succeeded, GovernanceOp.target]
    have unplaced (w : String) : s.repository.workflowWorkspaces.get? x ≠ some w := by
      intro here
      obtain ⟨_, there⟩ := consistent.known x w here
      rw [fresh] at there
      cases there
    have placed (y : Uuid) (w : String) : s'.repository.workflowWorkspaces.get? y = some w ↔
        if y = x then r.workspaceId = some w
        else s.repository.workflowWorkspaces.get? y = some w := by
      rw [workspaces]
      cases r.workspaceId with
      | none =>
        dsimp only
        split
        next same =>
          rw [same]
          exact iff_of_false (unplaced w) (by simp)
        next => rfl
      | some workspace =>
        dsimp only
        rw [Dict.get?_set]
        split <;> rfl
    have member (y : Uuid) (w : String) : y ∈ s'.liveWorkflows w ↔
        if y = x then r.workspaceId = some w else y ∈ s.liveWorkflows w := by
      rw [mem_liveWorkflows, workflows]
      simp only [placed, Dict.get?_set]
      by_cases same : y = x
      · simp [same, live]
      · simp [same]
    have credentials (w : String) : s'.storedCredentials w = s.storedCredentials w := by
      rw [storedCredentials, storedCredentials, vault]
    constructor
    case consistent =>
      constructor
      case known =>
        intro y w here
        rw [placed] at here
        rw [workflows, Dict.get?_set]
        by_cases same : y = x
        · exact ⟨workflow, if_pos same⟩
        · rw [if_neg same] at here ⊢
          exact consistent.known y w here
      case placed =>
        rw [vault]
        exact consistent.placed
    case grown =>
      rintro ⟨resource, w⟩ grows
      rw [adding, decide_eq_true_eq, Option.map_eq_some_iff] at grows
      obtain ⟨_, own, same⟩ := grows
      cases same
      refine ⟨x, ?_, ?_⟩
      · intro mem
        obtain ⟨_, there, -⟩ := mem_liveWorkflows.mp mem
        rw [fresh] at there
        cases there
      · ext y
        show y ∈ s'.liveWorkflows w ↔ y ∈ insert x (s.liveWorkflows w)
        rw [member, Finset.mem_insert]
        by_cases same : y = x
        · simp [same, own]
        · simp [same]
    case kept =>
      rintro ⟨resource, w⟩ grows
      cases resource with
      | credentials => exact (credentials w).subset
      | workflows =>
        intro y mem
        have mem := (member y w).mp mem
        split at mem
        next =>
          rw [adding, mem] at grows
          simp at grows
        next => exact mem

theorem admits_createCredential {new : NewCredential}
    (fresh : s.vault.credentials.get? new.id = none) :
    Admits s (exec d (.createCredential new) s).2
      (adds ⟨.createCredential new, (exec d (.createCredential new) s).1⟩) := by
  change Admits s (s.callVault d _).2 (adds ⟨_, (s.callVault d _).1⟩)
  unfold callVault
  obtain ⟨e, ran⟩ | ⟨metadata, column, ran, same, placed⟩ := run_createCredential (d := d) new s.vault
  · rw [Lib.Call.run_andThen_error ran]
    exact (Loses.refl s).admits consistent (adds_of_failed rfl)
  · rw [Lib.Call.run_andThen_ok ran]
    have own : column = new.workspaceId := by
      obtain own | ⟨none, before⟩ := placed
      · exact own
      · rw [before, none, fresh]
        rfl
    cases own
    have stored (y : Uuid) (w : String) :
        y ∈ storedCredentials { s with vault := { s.vault with
            credentials := s.vault.credentials.set new.id ⟨new.workspaceId, metadata⟩ } } w ↔
          if y = new.id then new.workspaceId = some w else y ∈ s.storedCredentials w := by
      rw [mem_storedCredentials]
      simp only [Dict.get?_set]
      by_cases same : y = new.id
      · simp [same]
      · simp [same]
    constructor
    case consistent =>
      constructor
      case known => exact consistent.known
      case placed =>
        intro y row there
        change (s.vault.credentials.set new.id ⟨new.workspaceId, metadata⟩).get? y = some row at there
        obtain ⟨-, rfl⟩ | ⟨-, there⟩ := Dict.of_get?_set there
        · dsimp only
          rw [same]
          exact Option.or_self
        · exact consistent.placed y row there
    case grown =>
      rintro ⟨resource, w⟩ grows
      simp only [adds, Bool.and_eq_true, decide_eq_true_eq, GovernanceOp.target,
        Option.map_eq_some_iff] at grows
      obtain ⟨⟨_, own, same⟩, -⟩ := grows
      cases same
      refine ⟨new.id, ?_, ?_⟩
      · intro mem
        obtain ⟨_, there, -⟩ := mem_storedCredentials.mp mem
        rw [fresh] at there
        cases there
      · ext y
        refine (stored y w).trans ?_
        show _ ↔ y ∈ insert new.id (s.storedCredentials w)
        rw [Finset.mem_insert]
        by_cases same : y = new.id
        · simp [same, own]
        · simp [same]
    case kept =>
      rintro ⟨resource, w⟩ grows
      cases resource with
      | workflows => exact Finset.Subset.refl _
      | credentials =>
        intro y mem
        have mem := (stored y w).mp mem
        split at mem
        next =>
          simp [adds, GovernanceOp.target, mem, succeeds, Lib.Call.run, Except.mapError] at grows
        next => exact mem

theorem admits_exec (op : GovernanceOp) (fresh : op.Fresh s) :
    Admits s (exec d op s).2 (adds ⟨op, (exec d op s).1⟩) := by
  have quiet (none : op.target = none) (loses : Loses s (exec d op s).2) :
      Admits s (exec d op s).2 (adds ⟨op, (exec d op s).1⟩) :=
    loses.admits consistent (adds_of_target none _)
  cases op with
  | createWorkflow x now r => exact admits_createWorkflow consistent fresh
  | createCredential new => exact admits_createCredential consistent fresh
  | ensureDefaultTeam x workspaceId name slug => exact quiet rfl loses_ensureDefaultTeam
  | archiveWorkflow x clock disabledAt actor => exact quiet rfl loses_archiveWorkflow
  | listAllCredentials workspaceId =>
    refine quiet rfl ?_
    show Loses s (s.callVault d (Vault.listAllCredentials (some workspaceId))).2
    exact loses_callVault only_listAllCredentials
  | deleteCredential credentialId context =>
    refine quiet rfl ?_
    show Loses s (s.callVault d (Vault.deleteCredential _ credentialId (some context))).2
    exact loses_callVault only_deleteCredential
  | getTemplate templateId context =>
    refine quiet rfl ?_
    show Loses s (s.callVault d (Vault.getTemplate _ templateId (some context))).2
    exact loses_callVault only_getTemplate
  | recordTemplateIssuance templateId actor credentialId context now =>
    refine quiet rfl ?_
    show Loses s (s.callVault d ((Vault.recordTemplateIssuance _ templateId actor credentialId
      (some context) now).andThen (fun _ => .done (.ok ())))).2
    exact loses_callVault (only_recordTemplateIssuance.andThen fun _ => Lib.Call.only_done)
  | _ => exact quiet rfl (.refl s)

theorem length_listAllCredentials {items : List CredentialMetadata}
    (listed : (exec d (.listAllCredentials w) s).1 = .ok items) :
    (s.storedCredentials w).card ≤ items.length := by
  have counted {rows : List CredentialRow} {asked : CredentialRow → Bool}
      (all : ∀ row, row.workspaceId = some w → asked row = true)
      (perm : rows.Perm (s.vault.credentials.values.filter asked)) :
      (s.storedCredentials w).card ≤ ((rows.map CredentialRow.metadata).filter (fun item =>
        some w = none || item.workspaceId = none || item.workspaceId = some w)).length := by
    unfold storedCredentials
    rw [Dict.card_keysWhere, ← List.countP_eq_length_filter, ← List.countP_eq_length_filter,
      List.countP_map, perm.countP_eq, List.countP_filter, Dict.values, List.countP_map]
    apply List.countP_mono_left
    rintro ⟨x, row⟩ mem here
    have here : row.workspaceId = some w := of_decide_eq_true here
    have placed := consistent.placed x row ((Dict.get?_eq_some_iff _ _ _).mpr mem)
    have own : row.metadata.workspaceId = some w := placed.trans here
    simp [own, all row here]
  change ((Vault.listAllCredentials (some w)).run
    (VaultStore.exec d.storage d.vault) s.vault).1.mapError _ = _ at listed
  cases iterated : s.vault.iterMetadata d.storage d.vault (some w) with
  | error e =>
    have ran : (VaultOp.iterMetadata (some w)).call.run (VaultStore.exec d.storage d.vault) s.vault =
        (.error e, s.vault) := by
      rw [← iterated]
      rfl
    unfold Vault.listAllCredentials at listed
    rw [Lib.Call.run_andThen_error ran] at listed
    cases listed
  | ok found =>
    have ran : (VaultOp.iterMetadata (some w)).call.run (VaultStore.exec d.storage d.vault) s.vault =
        (.ok found, s.vault) := by
      rw [← iterated]
      rfl
    unfold Vault.listAllCredentials at listed
    rw [Lib.Call.run_andThen_ok ran] at listed
    cases listed
    unfold VaultStore.iterMetadata at iterated
    cases backend : d.vault with
    | inMemory =>
      rw [backend] at iterated
      cases iterated
      refine counted ?_ (List.Perm.refl _)
      intro row here
      simp [here]
    | postgres =>
      rw [backend] at iterated
      unfold Vault.ofWorkspace at iterated
      dsimp only at iterated
      split at iterated
      next => cases iterated
      next =>
        cases iterated
        exact counted (fun row here => decide_eq_true here) (d.storage.order_perm _ _)

theorem held_of_counts {n : Nat}
    (counted : counts ⟨op, (exec d op s).1⟩ = some (k, n)) : (s.held k).card ≤ n := by
  cases op with
  | listWorkflows w =>
    cases counted
    have listed : s.liveWorkflows w ⊆ (s.listWorkflows w).toFinset := by
      intro x mem
      obtain ⟨workflow, there, here, -⟩ := mem_liveWorkflows.mp mem
      rw [List.mem_toFinset, GovernedStore.listWorkflows, List.mem_filter]
      refine ⟨(Dict.mem_keys_iff _ _).mpr ⟨workflow, there⟩, ?_⟩
      simp [inWorkspace, here]
    exact (Finset.card_le_card listed).trans (List.toFinset_card_le _)
  | listAllCredentials w =>
    cases listed : (exec d (.listAllCredentials w) s).1 with
    | error e =>
      rw [listed] at counted
      cases counted
    | ok items =>
      rw [listed] at counted
      cases counted
      exact length_listAllCredentials consistent listed
  | _ => cases counted

end

end GovernedStore

section Programs

variable {d : Deployment} {α β : Type} {past : List (Asked GovernanceOp.Answer)}
  {context : WorkspaceContext} {workspaceId : Uuid}

def Low (d : Deployment) (past : List (Asked GovernanceOp.Answer)) : Prop :=
  ∀ a ∈ past, ∀ k n, counts a = some (k, n) → n < d.quota k

def contract (d : Deployment) :
    Server.Contract GovernanceOp.Answer GovernedRequest (Except RouteError Unit) where
  asks _ past op := op.target.isSome = true → Low d past

def Cleared (d : Deployment) (past : List (Asked GovernanceOp.Answer)) : Except RouteError α → Prop
  | .error _ => True
  | .ok _ => Low d past

def Checked (d : Deployment) (c : GovernanceCall α) : Prop :=
  ∀ past, Low d past → c.Meets (fun _ _ => True)
    (fun past op => op.target.isSome = true → Low d past) (Cleared d) past

def Quiet (op : GovernanceOp) : Prop := op.target = none ∧ ∀ answer, counts ⟨op, answer⟩ = none

theorem Low.cons {a : Asked GovernanceOp.Answer} (low : Low d past) (none : counts a = none) :
    Low d (a :: past) := by
  intro a' mem k n counted
  cases List.mem_cons.mp mem with
  | inl new =>
    rw [new, none] at counted
    cases counted
  | inr old => exact low a' old k n counted

theorem Low.cleared (low : Low d past) (r : Except RouteError α) : Cleared d past r := by
  cases r with
  | error e => trivial
  | ok a => exact low

theorem Low.done (low : Low d past) (r : Except RouteError α) :
    (Lib.Call.done r : GovernanceCall α).Meets (fun _ _ => True)
      (fun past op => op.target.isSome = true → Low d past) (Cleared d) past := low.cleared r

theorem quiet_call {op : GovernanceOp} (quiet : Quiet op) : op.call.Only Quiet :=
  ⟨quiet, fun _ => trivial⟩

variable {c : GovernanceCall α}

theorem meets_quiet (only : c.Only Quiet) {K : List (Asked GovernanceOp.Answer) → Prop}
    (keeps : ∀ past a, K past → counts a = none → K (a :: past)) (start : K past) :
    c.Meets (fun _ _ => True) (fun past op => op.target.isSome = true → Low d past)
      (fun past _ => K past) past := by
  refine only.meets ?_ ?_ start
  · intro past op _ quiet target
    rw [quiet.1] at target
    cases target
  · intro past op answer kept quiet
    exact keeps past _ kept (quiet.2 answer)

theorem checked_done {r : Except RouteError α} : Checked d (.done r) := fun _ low => low.done r

theorem checked_bind (only : c.Only Quiet)
    {f : Except RouteError α → GovernanceCall β} (second : ∀ r, Checked d (f r)) :
    Checked d (Lib.Call.bind c f) := by
  intro past low
  rw [Lib.Call.meets_bind]
  refine (meets_quiet only (fun _ _ => Low.cons) low).mono (fun _ _ allowed => allowed) ?_
  intro past r low
  exact second r past low

theorem checked_quiet (only : c.Only Quiet) : Checked d c := by
  intro past low
  refine (meets_quiet only (fun _ _ => Low.cons) low).mono (fun _ _ allowed => allowed) ?_
  intro past r low
  exact low.cleared r

theorem checked_andThen {f : α → GovernanceCall β} (first : Checked d c)
    (second : ∀ a, Checked d (f a)) : Checked d (c.andThen f) := by
  intro past low
  rw [meets_andThen]
  refine (first past low).mono (fun _ _ allowed => allowed) ?_
  intro past r cleared
  cases r with
  | error e => trivial
  | ok a => exact second a past cleared

theorem checked_create {op : GovernanceOp} (none : ∀ answer, counts ⟨op, answer⟩ = none) :
    Checked d op.call := by
  intro past low
  exact ⟨fun _ => low, fun answer _ => (low.cons (none answer)).done answer⟩

theorem only_countRows {w : String} (xs : List Uuid) : (countRows w xs).Only Quiet := by
  induction xs with
  | nil => trivial
  | cons x xs ih =>
    have versions : (GovernanceOp.listVersions x).call.Only Quiet :=
      quiet_call ⟨rfl, fun _ => rfl⟩
    have runs : (GovernanceOp.listRunsForWorkflow x w).call.Only Quiet :=
      quiet_call ⟨rfl, fun _ => rfl⟩
    exact versions.andThen fun _ => runs.andThen fun _ => ih.andThen fun _ => trivial

theorem checked_workflowQuota :
    Checked d (ensureWorkspaceWorkflowQuota (d.context workspaceId)) := by
  intro past low
  unfold ensureWorkspaceWorkflowQuota
  rw [meets_andThen]
  constructor
  · intro target
    cases target
  · intro answer _
    cases answer with
    | error e => trivial
    | ok ids =>
      have start : ids.length < (d.context workspaceId).quotas.maxWorkflows →
          Low d (⟨.listWorkflows (d.context workspaceId).workspaceText, .ok ids⟩ :: past) := by
        intro below a mem k n counted
        cases List.mem_cons.mp mem with
        | inl new =>
          rw [new] at counted
          cases counted
          exact below
        | inr old => exact low a old k n counted
      show Lib.Call.Meets _ _ _ ((countRows _ ids).andThen _) _
      rw [meets_andThen]
      have counted := meets_quiet (d := d)
        (only_countRows (w := (d.context workspaceId).workspaceText) ids)
        (K := fun past => ids.length < (d.context workspaceId).quotas.maxWorkflows → Low d past)
        (fun past a kept none below => (kept below).cons none) start
      refine counted.mono (fun _ _ allowed => allowed) ?_
      intro past r kept
      cases r with
      | error e => trivial
      | ok rows =>
        dsimp only
        split
        · trivial
        · split
          · trivial
          · rename_i below _
            exact (kept (Nat.lt_of_not_le below)).done (.ok ())

theorem checked_credentialQuota :
    Checked d (ensureWorkspaceCredentialQuota (d.context workspaceId)) := by
  intro past low
  unfold ensureWorkspaceCredentialQuota
  rw [meets_andThen]
  constructor
  · intro target
    cases target
  · intro answer _
    cases answer with
    | error e => trivial
    | ok items =>
      change Lib.Call.Meets _ _ _
        (if (d.context workspaceId).quotas.maxCredentials ≤ items.length then _ else _) _
      split
      · trivial
      · rename_i below
        have cleared : Low d
            (⟨.listAllCredentials (d.context workspaceId).workspaceText, .ok items⟩ :: past) := by
          intro a mem k n counted
          cases List.mem_cons.mp mem with
          | inl new =>
            rw [new] at counted
            cases counted
            exact Nat.lt_of_not_le below
          | inr old => exact low a old k n counted
        exact cleared.done (.ok ())

theorem only_resolve {query : Repository.ReferenceQuery} :
    (GovernanceOp.resolveWorkflowRef query).call.Only Quiet := quiet_call ⟨rfl, fun _ => rfl⟩

theorem only_resolveOptional {workflowRef : Option String} :
    (resolveOptionalWorkflowRef context workflowRef).Only Quiet := by
  unfold resolveOptionalWorkflowRef
  split
  · trivial
  · exact only_resolve.andThen fun _ => trivial

theorem only_ensureDefaultTeam {x : Uuid} : (ensureDefaultTeam context x).Only Quiet :=
  quiet_call ⟨rfl, fun _ => rfl⟩

theorem only_namedTeam {teamId : String} : (namedTeam d context teamId).Only Quiet := by
  unfold namedTeam
  split
  · trivial
  · next team _ =>
    have get : (GovernanceOp.getTeam team context.workspaceText).call.Only Quiet :=
      quiet_call ⟨rfl, fun _ => rfl⟩
    apply get.bind
    intro answer
    split <;> trivial

theorem checked_createWithinQuota {creation : WorkflowCreation} {teamId : String} :
    Checked d (createWithinQuota (d.context workspaceId) creation teamId) :=
  checked_andThen checked_workflowQuota fun _ => checked_create fun _ => rfl

theorem checked_program (r : GovernedRequest) : Checked d (r.program d) := by
  cases r with
  | createWorkflow workspaceId creation =>
    apply checked_andThen
    · apply checked_quiet
      split
      · exact only_namedTeam
      · exact only_ensureDefaultTeam
    · exact fun _ => checked_createWithinQuota
  | onboardCandidate workspaceId creation =>
    apply checked_andThen (checked_quiet only_ensureDefaultTeam)
    intro team
    dsimp only
    apply checked_andThen
    · apply checked_quiet
      split
      · exact only_namedTeam
      · trivial
    · intro _
      apply checked_bind
      · exact only_resolve.andThen fun x => quiet_call ⟨rfl, fun _ => rfl⟩
      · intro answer
        split
        · exact checked_createWithinQuota
        · exact checked_done
  | archiveWorkflow workspaceId workflowRef actor clock disabledAt =>
    apply checked_quiet
    refine only_resolve.andThen fun x => ?_
    refine andThen (quiet_call ⟨rfl, fun _ => rfl⟩) fun _ => ?_
    exact quiet_call ⟨rfl, fun _ => rfl⟩
  | createCredential workspaceId creation =>
    apply checked_andThen (checked_quiet only_resolveOptional)
    intro workflowId
    apply checked_andThen checked_done
    intro scope
    exact checked_andThen checked_credentialQuota fun _ => checked_create fun _ => rfl
  | deleteCredential workspaceId credentialId workflowRef =>
    apply checked_quiet
    exact only_resolveOptional.andThen fun _ => quiet_call ⟨rfl, fun _ => rfl⟩
  | issueFromTemplate workspaceId issuance =>
    apply checked_andThen (checked_quiet only_resolveOptional)
    intro workflowId
    apply checked_andThen (checked_quiet (quiet_call ⟨rfl, fun _ => rfl⟩))
    intro template
    apply checked_andThen checked_done
    intro _
    apply checked_andThen (checked_create fun _ => rfl)
    exact fun _ => checked_quiet (quiet_call ⟨rfl, fun _ => rfl⟩)

end Programs

section Runs

variable {d : Deployment} {s : GovernanceServer}

structure Governed (d : Deployment) (s : GovernanceServer) : Prop where
  consistent : s.store.Consistent
  within : s.store.WithinQuotas d
  bounds : tally.Bounds s.store.held s.trace

theorem governed_fresh {store : GovernedStore} (consistent : store.Consistent)
    (within : store.WithinQuotas d) : Governed d { store := store } :=
  ⟨consistent, within, Lib.Tally.bounds_nil⟩

variable {i : Nat} {op : GovernanceOp} {r : GovernedRequest}

theorem onCall_of_there {P : Nat → GovernanceOp → Prop} {past : List (Asked GovernanceOp.Answer)}
    {next : op.Answer → GovernanceCall Unit}
    (there : s.threads[i]? = some ⟨r, past, .ask op next⟩) : onCall s P (.advance i) ↔ P i op := by
  simp [onCall, there]

variable {a : Asked GovernanceOp.Answer}

theorem adds_of_counts {k k' : Holding} {n : Nat}
    (counted : counts a = some (k, n)) : adds a k' = false := by
  obtain ⟨op, answer⟩ := a
  cases op with
  | listWorkflows w => rfl
  | listAllCredentials w => rfl
  | _ => cases counted

theorem target_of_adds {k : Holding} (grows : adds a k = true) :
    a.op.target.isSome = true := by
  simp only [adds, Bool.and_eq_true, decide_eq_true_eq] at grows
  rw [grows.1]
  rfl

variable {past : List (Asked GovernanceOp.Answer)} {next : op.Answer → GovernanceCall Unit}

theorem room_of_undisturbed {k : Holding} (governed : Governed d s)
    (sound : Server.Sound (contract d) s) (there : s.threads[i]? = some ⟨r, past, .ask op next⟩)
    (target : op.target.isSome = true) (undisturbed : tally.undisturbed i k s.trace = true) :
    (s.store.held k).card < d.quota k := by
  refine governed.bounds.below undisturbed ?_
  rintro ⟨a, j⟩ mem own n counted
  change j = i at own
  rw [own] at mem
  exact sound.asks there target a ((sound.traced i _ a there).mpr mem) k n counted

theorem Governed.answered (governed : Governed d s)
    (sound : Server.Sound (contract d) s) (there : s.threads[i]? = some ⟨r, past, .ask op next⟩)
    (fresh : op.Fresh s.store)
    (room : ∀ k, adds ⟨op, (s.store.exec d op).1⟩ k = true →
      tally.undisturbed i k s.trace = true ∨ (s.store.held k).card < d.quota k) :
    Governed d (s.answered (GovernedStore.exec d) i r past op next) := by
  have admits := GovernedStore.admits_exec (d := d) governed.consistent op fresh
  constructor
  case consistent => exact admits.consistent
  case within =>
    intro k
    show ((s.store.exec d op).2.held k).card ≤ d.quota k
    cases grows : adds ⟨op, (s.store.exec d op).1⟩ k with
    | false => exact (Finset.card_le_card (admits.kept k grows)).trans (governed.within k)
    | true =>
      have below : (s.store.held k).card < d.quota k := by
        obtain undisturbed | below := room k grows
        · exact room_of_undisturbed governed sound there (target_of_adds grows) undisturbed
        · exact below
      obtain ⟨x, new, grown⟩ := admits.grown k grows
      rw [grown, Finset.card_insert_of_notMem new]
      exact below
  case bounds =>
    apply governed.bounds.cons
    · intro k n counted
      have kept := admits.kept k (adds_of_counts counted)
      exact (Finset.card_le_card kept).trans
        (GovernedStore.held_of_counts governed.consistent counted)
    · exact admits.kept

def Guarded (d : Deployment) (s : GovernanceServer) (turn : GovernanceTurn) : Prop :=
  createsFresh s turn ∧ createsWithinQuota d s turn

theorem governed_step (turn : GovernanceTurn)
    (good : Governed d s ∧ Server.Sound (contract d) s) (guard : Guarded d s turn) :
    Governed d (governanceStep d s turn) ∧ Server.Sound (contract d) (governanceStep d s turn) := by
  refine Server.keep_step (GovernedStore.exec d) (GovernedRequest.program d) (contract d)
    ?_ ?_ ?_ ?_ s turn good guard
  · intro r
    refine Lib.Call.Meets.mono (checked_program r [] ?_) (fun _ _ allowed => allowed) ?_
    · intro a mem
      cases mem
    · exact fun _ _ _ => trivial
  · exact fun _ _ _ => trivial
  · exact fun s r governed _ _ => ⟨governed.consistent, governed.within, governed.bounds⟩
  · intro s i r past op next governed sound there _ guard
    exact governed.answered sound there ((onCall_of_there there).mp guard.1)
      ((onCall_of_there there).mp guard.2)

theorem createsWithinQuota_of_within {turn : GovernanceTurn} (governed : Governed d s)
    (fresh : createsFresh s turn) (after : (governanceStep d s turn).store.WithinQuotas d) :
    createsWithinQuota d s turn := by
  cases turn with
  | begin r => trivial
  | advance i =>
    unfold createsWithinQuota onCall
    dsimp only
    split
    next r past op next there =>
      intro k grows
      have admits := GovernedStore.admits_exec (d := d) governed.consistent op
        ((onCall_of_there there).mp fresh)
      obtain ⟨x, new, grown⟩ := admits.grown k grows
      have moved : (governanceStep d s (.advance i)).store = (s.store.exec d op).2 := by
        unfold governanceStep Server.step
        simp only [there]
        rfl
      have room := after k
      rw [moved, grown, Finset.card_insert_of_notMem new] at room
      exact Or.inr room
    next => trivial

/-- Over every interleaving, workspaces stay within their quotas exactly where everything is
created with no creation since its count, or with room. -/
theorem workspace_quotas_hold_iff {store : GovernedStore} (consistent : store.Consistent)
    (within : store.WithinQuotas d) {turns : List GovernanceTurn}
    (fresh : AllSteps (governanceStep d) createsFresh { store := store } turns) :
    Always (governanceStep d) (fun s => s.store.WithinQuotas d) { store := store } turns ↔
      AllSteps (governanceStep d) (createsWithinQuota d) { store := store } turns :=
  always_iff_allSteps_of_allowed
    (I := fun s : GovernanceServer => Governed d s ∧ Server.Sound (contract d) s)
    (fun _ good => good.1.within)
    (fun _ turn good fresh guard => governed_step turn good ⟨fresh, guard⟩)
    (fun _ _ good fresh after => createsWithinQuota_of_within good.1 fresh after)
    ⟨governed_fresh consistent within, Server.sound_fresh⟩ fresh

end Runs

theorem consistent_empty : GovernedStore.Consistent {} where
  known x w here := by cases here
  placed x row there := by cases there

theorem within_empty (d : Deployment) : GovernedStore.WithinQuotas {} d := by
  rintro ⟨resource, w⟩
  cases resource with
  | workflows => exact Nat.zero_le _
  | credentials => exact Nat.zero_le _

def smallDeployment : Deployment where
  text := .ascii
  storage := .ascii
  cipher := .plain
  vault := .inMemory
  workspaces w := {
    slug := w
    name := w
    quotas := { maxWorkflows := 1, maxCredentials := 1 } }

def secretCreation (id : Uuid) (name : String) : GovernedRequest :=
  .createCredential 1 { new := {
    id := id
    name := name
    provider := "slack"
    secret := "s3cret"
    actor := "ada"
    nonce := "n"
    now := 0 } }

theorem workspace_quotas_hold_in_turn :
    Always (governanceStep smallDeployment) (fun s => s.store.WithinQuotas smallDeployment)
      { store := {} } [.begin (secretCreation 1 "a"), .begin (secretCreation 2 "b"), .advance 0,
        .advance 0, .advance 1, .advance 1] := by
  have fresh : AllSteps (governanceStep smallDeployment) createsFresh { store := {} }
      [.begin (secretCreation 1 "a"), .begin (secretCreation 2 "b"), .advance 0, .advance 0,
        .advance 1, .advance 1] :=
    ⟨trivial, trivial, trivial, rfl, trivial, trivial, trivial⟩
  refine (workspace_quotas_hold_iff consistent_empty (within_empty smallDeployment) fresh).mpr
    ⟨trivial, trivial, ?_, ?_, ?_, trivial, trivial⟩
  · show ∀ k, adds ⟨.listAllCredentials "1", _⟩ k = true → _
    intro k grows
    cases target_of_adds grows
  · show ∀ k, adds ⟨.createCredential _, _⟩ k = true → _
    intro k grows
    cases of_decide_eq_true (Bool.and_eq_true_iff.mp grows).1
    exact Or.inl rfl
  · show ∀ k, adds ⟨.listAllCredentials "1", _⟩ k = true → _
    intro k grows
    cases target_of_adds grows

theorem quota_passed_twice : ¬ ∀ (d : Deployment) (store : GovernedStore)
    (turns : List GovernanceTurn), store.Consistent → store.WithinQuotas d →
    AllSteps (governanceStep d) createsFresh { store := store } turns →
    Always (governanceStep d) (fun s => s.store.WithinQuotas d) { store := store } turns := by
  intro all
  have within := (all smallDeployment {} [.begin (secretCreation 1 "a"),
    .begin (secretCreation 2 "b"), .advance 0, .advance 1, .advance 0, .advance 1]
    consistent_empty (within_empty smallDeployment)
    ⟨trivial, trivial, trivial, trivial, rfl, rfl, trivial⟩).last (.credentials, "1")
  revert within
  decide +kernel

end Orcheo.Governance
