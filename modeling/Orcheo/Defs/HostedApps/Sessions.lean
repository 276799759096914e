import Orcheo.Defs.HostedApps.Repository

/-! The sessions of an app's visitors, as the backend keeps them and looks them up. -/

namespace Orcheo.HostedApps

open Lib (Dict)
open HostedAppsRepository (Descriptor)

structure AppSession where
  secretHash : String
  appId : Uuid
  workspaceId : Uuid
  appHost : String
  userId : String
  runtimeGeneration : Nat
  expiresAt : Instant
  idleExpiresAt : Instant
  lastSeenAt : Instant
  revokedAt : Option Instant := none
  deriving DecidableEq

structure AppAuthService where
  idle : Duration := seconds 1800
  sessions : Dict String AppSession := ∅

/-- `descriptor["generation"]` -/
def HostedAppsRepository.Descriptor.generation : Descriptor → Nat
  | .suspended _ generation => generation
  | .published d => d.generation

structure AppSession.Live (session : AppSession) (appHost : String) (runtimeGeneration : Nat)
    (now : Instant) : Prop where
  unrevoked : session.revokedAt = none
  host : session.appHost = appHost
  generation : session.runtimeGeneration = runtimeGeneration
  unexpired : now < session.expiresAt
  active : now < session.idleExpiresAt

namespace AppAuthService

variable (service : AppAuthService)

def introspect (secretHash appHost : String) (runtimeGeneration : Nat) (currentMember : Bool)
    (now : Instant) : Option (AppAuthService × AppSession) :=
  match service.sessions.get? secretHash with
  | none => none
  | some session =>
    if session.revokedAt.isSome ∨ session.appHost ≠ appHost ∨
        session.runtimeGeneration ≠ runtimeGeneration ∨ session.expiresAt ≤ now ∨
        session.idleExpiresAt ≤ now ∨ currentMember = false then none
    else
      let seen := { session with
        lastSeenAt := now, idleExpiresAt := min session.expiresAt (now + service.idle) }
      some ({ service with sessions := service.sessions.set secretHash seen }, seen)

def revoke (secretHash : String) (now : Instant) : AppAuthService :=
  match service.sessions.get? secretHash with
  | none => service
  | some session =>
    let revoked := { session with revokedAt := session.revokedAt <|> some now }
    { service with sessions := service.sessions.set secretHash revoked }

/-- What `_resolve_app_session` comes to where its errors are caught: the session, if it is one of
the app that the host resolves to, and if its user is still a member of the workspace. -/
def resolveAppSession (members : List (Uuid × String)) (secretHash : Option String)
    (appHost : String) (descriptor : Descriptor) (now : Instant) :
    AppAuthService × Option AppSession :=
  match secretHash with
  | none => (service, none)
  | some secretHash =>
    match service.introspect secretHash appHost descriptor.generation true now with
    | none => (service, none)
    | some (service, session) => match descriptor with
      | .suspended _ _ => (service, none)
      | .published d =>
        if session.workspaceId ≠ d.workspaceId ∨ session.appId ≠ d.appId then
          (service.revoke secretHash now, none)
        else if (session.workspaceId, session.userId) ∈ members then (service, some session)
        else (service.revoke secretHash now, none)

variable {service} {service' : AppAuthService}

theorem introspect_some {session : AppSession}
    {secretHash appHost : String} {runtimeGeneration : Nat} {now : Instant}
    (found : service.introspect secretHash appHost runtimeGeneration true now =
      some (service', session)) :
    ∃ held, service.sessions.get? secretHash = some held ∧
      held.Live appHost runtimeGeneration now ∧ session.workspaceId = held.workspaceId ∧
      session.appId = held.appId ∧ session.userId = held.userId := by
  unfold introspect at found
  split at found
  next => cases found
  next held stored =>
    split at found
    next => cases found
    next live =>
      simp only [not_or, ne_eq, Decidable.not_not] at live
      obtain ⟨unrevoked, host, generation, unexpired, active, _⟩ := live
      cases found
      exact ⟨held, stored, ⟨Option.not_isSome_iff_eq_none.mp unrevoked, host, generation,
        Int.not_le.mp unexpired, Int.not_le.mp active⟩, rfl, rfl, rfl⟩

theorem resolveAppSession_some {session : AppSession}
    {members : List (Uuid × String)} {secretHash : Option String} {appHost : String}
    {descriptor : Descriptor} {now : Instant}
    (found : service.resolveAppSession members secretHash appHost descriptor now =
      (service', some session)) :
    ∃ hash held d, secretHash = some hash ∧ descriptor = .published d ∧
      service.sessions.get? hash = some held ∧ held.Live appHost d.generation now ∧
      held.workspaceId = d.workspaceId ∧ held.appId = d.appId ∧
      (held.workspaceId, held.userId) ∈ members := by
  unfold resolveAppSession at found
  split at found
  next => cases found
  next hash =>
    split at found
    next => cases found
    next service'' session' looked =>
      split at found
      next => cases found
      next d =>
        split at found
        next => cases found
        next scope =>
          split at found
          next member =>
            obtain ⟨held, stored, live, workspace, app, user⟩ := introspect_some looked
            rw [not_or, Decidable.not_not, Decidable.not_not] at scope
            rw [workspace, user] at member
            exact ⟨hash, held, d, rfl, rfl, stored, live, workspace ▸ scope.1, app ▸ scope.2,
              member⟩
          next => cases found

end AppAuthService

end Orcheo.HostedApps
