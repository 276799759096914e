import Orcheo.Defs.Base

/-! Runs of hosted apps: acceptance of invocations, visitor-safe status, completion, cancellation
and the timeout that is applied lazily, by the in-memory service and by the Postgres adapter. -/

namespace Orcheo.HostedApps

open Lib (Dict)

inductive RunStatus
  | accepted | running | completed | failed | cancelled
  deriving DecidableEq, Repr

/-- `status in {"accepted", "running"}` -/
def RunStatus.live : RunStatus → Bool
  | .accepted => true
  | .running => true
  | _ => false

inductive AppRuntimeError
  | unavailable (message : String)
  | conflict (message : String)
  | limit (message : String)
  /-- a `KeyError` -/
  | notFound (message : String)
  /-- what Postgres refuses -/
  | storage
  deriving DecidableEq, Repr

/-- What the services use of the host: `_canonical_json`, where it does not raise, `_hash`,
acceptance by `_validate_schema`, and whether a `jsonb` column takes a value. -/
structure RuntimeHost where
  canonicalJson : Json → Option String
  hash : String → String
  validates : Json → Json → Bool
  storesJson : Json → Bool

structure RuntimeConfig where
  handleTtl : Int := 3600
  maxInputBytes : Int := 256 * 1024
  maxOutputBytes : Int := 256 * 1024

structure BindingSnapshot where
  id : Uuid
  appId : Uuid
  workspaceId : Uuid
  deletedAt : Option Instant := none
  accessMode : String := "public"
  inputSchema : Json := .obj []
  outputProjection : List (String × Json) := []
  visitorCanReadOutput : Bool := false
  visitorCanReadSanitizedErrors : Bool := false
  limits : Dict String Int := ∅

/-- `binding.limits.get(name, default)` -/
def BindingSnapshot.limit (binding : BindingSnapshot) (name : String) (default_ : Int) : Int :=
  (binding.limits.get? name).getD default_

structure Invocation where
  binding : BindingSnapshot
  workspaceId : Uuid
  appId : Uuid
  releaseId : Uuid
  payload : Json := .null
  idempotencyKey : String
  runtimeGeneration : Nat
  visitorUserId : Option String := none
  sessionId : Option Uuid := none
  anonymousVisitorId : Option String := none
  clientIp : Option String := none

/-- A `_RunState` with what is read of its mapping. -/
structure AppRun where
  workspaceId : Uuid
  appId : Uuid
  bindingId : Uuid
  expiresAt : Instant
  visitorUserId : Option String
  originatingSessionId : Option Uuid
  status : RunStatus := .accepted
  output : Json := .null
  error : Option String := none
  runtimeGeneration : Nat
  canReadOutput : Bool
  canReadError : Bool
  outputProjection : List (String × Json)
  maxOutputBytes : Int
  timeoutAt : Option Instant

/-- Visitor-safe status with no internal workflow identifiers. -/
structure AppRuntimeResult where
  handle : String
  status : RunStatus
  output : Json := .null
  error : Option String := none
  newlyAccepted : Bool := false

structure VisitorScope where
  workspaceId : Uuid
  appId : Uuid
  runtimeGeneration : Nat
  visitorUserId : Option String := none
  sessionId : Option Uuid := none

def AppRun.visitorResult (run : AppRun) (handle : String) : AppRuntimeResult where
  handle := handle
  status := run.status
  output := if run.canReadOutput then run.output else .null
  error := if run.canReadError then run.error else none

namespace AppRun

variable (run : AppRun) (now : Instant)

def overdue : Bool := run.timeoutAt.any (fun t => decide (t ≤ now)) && run.status.live

def applyTimeout : AppRun :=
  if run.overdue now then
    { run with status := .failed, error := some "Workflow execution timed out." }
  else run

/-- The checks of `status` before the session. -/
def inScope (scope : VisitorScope) : Bool :=
  decide (now < run.expiresAt ∧ run.workspaceId = scope.workspaceId ∧ run.appId = scope.appId ∧
    run.runtimeGeneration = scope.runtimeGeneration)

def ofVisitor (scope : VisitorScope) : Bool :=
  decide (run.originatingSessionId ≠ none → scope.sessionId = run.originatingSessionId ∧
    scope.visitorUserId = run.visitorUserId)

end AppRun

/-- An explicit top-level allowlist; an empty one means no visitor output. -/
def projectOutput (value : Json) (projection : List (String × Json)) : Json :=
  match Json.field? projection "fields", value with
  | some (.arr (field :: fields)), .obj kvs =>
    .obj (Dict.ofList ((field :: fields).filterMap (fun field => match field with
      | .str name => (Json.field? kvs name).map (fun item => (name, item))
      | _ => none))).entries
  | _, _ => .null

def refuse (p : Prop) [Decidable p] (message : String) : Except AppRuntimeError Unit :=
  if p then .error (.unavailable message) else .ok ()

def Invocation.owner (inv : Invocation) : Except AppRuntimeError String :=
  match inv.sessionId, inv.anonymousVisitorId with
  | some sessionId, _ => .ok (toString sessionId)
  | none, some visitor =>
    if visitor = "" then .error (.unavailable "Anonymous visitor identity is required.")
    else .ok ("anonymous:" ++ visitor)
  | none, none => .error (.unavailable "Anonymous visitor identity is required.")

/-- The checks of both services before they look at their state: the scope hash and the request
hash of what passes them. -/
def Invocation.admission (rt : RuntimeHost) (config : RuntimeConfig) (inv : Invocation) :
    Except AppRuntimeError (String × String) := do
  refuse (inv.binding.workspaceId ≠ inv.workspaceId ∨ inv.binding.appId ≠ inv.appId ∨
    inv.binding.deletedAt.isSome) "Workflow binding is unavailable."
  refuse (inv.binding.accessMode = "authenticated" ∧
    (inv.visitorUserId = none ∨ inv.sessionId = none))
    "This workflow binding requires authentication."
  refuse (inv.idempotencyKey = "" ∨ 256 < inv.idempotencyKey.utf8ByteSize)
    "A bounded Idempotency-Key is required."
  let encoded ← match rt.canonicalJson inv.payload with
    | none => .error (.unavailable "Workflow input must be valid JSON.")
    | some encoded => .ok encoded
  refuse (min config.maxInputBytes (inv.binding.limit "input_max_bytes" config.maxInputBytes) <
    encoded.utf8ByteSize) "Workflow input exceeds the configured byte limit."
  refuse (rt.validates inv.payload inv.binding.inputSchema = false)
    "Workflow input does not match its schema."
  let owner ← inv.owner
  let scope := String.intercalate "|"
    [toString inv.appId, toString inv.releaseId, toString inv.binding.id, owner,
      inv.idempotencyKey]
  return (rt.hash scope, rt.hash encoded)

def Invocation.run (config : RuntimeConfig) (inv : Invocation) (now : Instant) : AppRun where
  workspaceId := inv.workspaceId
  appId := inv.appId
  bindingId := inv.binding.id
  expiresAt := now + seconds config.handleTtl
  visitorUserId := inv.visitorUserId
  originatingSessionId := inv.sessionId
  runtimeGeneration := inv.runtimeGeneration
  canReadOutput := inv.binding.visitorCanReadOutput
  canReadError := inv.binding.visitorCanReadSanitizedErrors
  outputProjection := inv.binding.outputProjection
  maxOutputBytes :=
    min config.maxOutputBytes (inv.binding.limit "output_max_bytes" config.maxOutputBytes)
  timeoutAt := some (now + seconds (inv.binding.limit "timeout_seconds" config.handleTtl))

def replay (requestHash : String) (runs : String → Option AppRun)
    (prior : String × String × Instant) : Except AppRuntimeError AppRuntimeResult :=
  let (priorHash, handle, _) := prior
  if priorHash ≠ requestHash then
    .error (.conflict "Idempotency-Key was already used for a different request.")
  else match runs handle with
    | none => .error (.notFound handle)
    | some run => .ok (run.visitorResult handle)

/-- The minute windows of an invocation with their limits; Postgres keeps them under prefixed
keys and hashes the client. -/
def Invocation.windows (inv : Invocation) (scope : String) (client : String → String) :
    Except AppRuntimeError (List (String × Int)) :=
  let app := ((inv.binding.limits.get? "per_app_per_minute").map
    (fun limit => (scope ++ "app:" ++ toString inv.appId, limit))).toList
  let session := (match inv.binding.limits.get? "per_session_per_minute", inv.sessionId with
    | some limit, some sessionId =>
      [(scope ++ "session:" ++ toString inv.appId ++ ":" ++ toString sessionId, limit)]
    | _, _ => [])
  match inv.binding.limits.get? "per_ip_per_minute", inv.clientIp with
  | none, _ => .ok (app ++ session)
  | some limit, some clientIp =>
    if clientIp = "" then
      .error (.limit "Client identity required for invocation governance.")
    else
      .ok (app ++ [(scope ++ "ip:" ++ toString inv.appId ++ ":" ++ client clientIp, limit)] ++
        session)
  | some _, none => .error (.limit "Client identity required for invocation governance.")

structure AppRuntimeService where
  runs : Dict String AppRun := ∅
  /-- scope hash to request hash, handle and expiry -/
  idempotency : Dict String (String × String × Instant) := ∅
  invocationWindows : Dict String (List Instant) := ∅

/-- `while events and events[0] <= cutoff: events.popleft()` -/
def expireWindow (now : Instant) (events : List Instant) : List Instant :=
  events.dropWhile (fun event => decide (event ≤ now - seconds 60))

namespace AppRuntimeService

variable (rt : RuntimeHost) (config : RuntimeConfig) (svc : AppRuntimeService) (now : Instant)

def prune : AppRuntimeService :=
  let runs := svc.runs.filter (fun _ run => decide (now < run.expiresAt))
  { svc with
    runs := runs
    idempotency := svc.idempotency.filter (fun _ prior =>
      decide (now < prior.2.2) && runs.contains prior.2.1)
    invocationWindows := (svc.invocationWindows.mapValues (fun _ => expireWindow now)).filter
      (fun _ events => !events.isEmpty) }

/-- The runs that count against `max_concurrency`. -/
def concurrent (inv : Invocation) : Nat :=
  (svc.runs.values.filter (fun run => decide (run.appId = inv.appId ∧
    run.bindingId = inv.binding.id ∧ run.status.live = true ∧ now < run.expiresAt) &&
      run.timeoutAt.all (fun t => decide (now < t)))).length

def checkWindows (windows : Dict String (List Instant)) :
    List (String × Int) → Dict String (List Instant) × Except AppRuntimeError Unit
  | [] => (windows, .ok ())
  | (key, limit) :: specs =>
    let events := expireWindow now ((windows.get? key).getD [])
    if limit ≤ events.length then
      (windows.set key events, .error (.limit "Workflow invocation rate limit exceeded."))
    else checkWindows (windows.set key events) specs

def enforceInvocationLimits (inv : Invocation) :
    AppRuntimeService × Except AppRuntimeError Unit :=
  if (inv.binding.limits.get? "max_concurrency").any
      (fun (limit : Int) => decide (limit ≤ svc.concurrent now inv)) = true then
    (svc, .error (.limit "Workflow binding concurrency limit exceeded."))
  else match inv.windows "" id with
    | .error e => (svc, .error e)
    | .ok specs => match checkWindows now svc.invocationWindows specs with
      | (windows, .error e) => ({ svc with invocationWindows := windows }, .error e)
      | (windows, .ok ()) =>
        let windows := specs.foldl (fun windows spec =>
          windows.set spec.1 ((windows.get? spec.1).getD [] ++ [now])) windows
        ({ svc with invocationWindows := windows }, .ok ())

/-- `handle` is the token that a new run draws. -/
def accept (handle : String) (inv : Invocation) :
    AppRuntimeService × Except AppRuntimeError AppRuntimeResult :=
  match inv.admission rt config with
  | .error e => (svc, .error e)
  | .ok (scopeHash, requestHash) =>
    let svc := svc.prune now
    match svc.idempotency.get? scopeHash with
    | some prior => (svc, replay requestHash svc.runs.get? prior)
    | none => match svc.enforceInvocationLimits now inv with
      | (svc, .error e) => (svc, .error e)
      | (svc, .ok ()) =>
        ({ svc with
          runs := svc.runs.set handle (inv.run config now)
          idempotency := svc.idempotency.set scopeHash
            (requestHash, handle, now + seconds config.handleTtl) },
          .ok { handle := handle, status := .accepted, newlyAccepted := true })

/-- The timeout is applied before the session is checked. -/
def status (handle : String) (scope : VisitorScope) :
    AppRuntimeService × Except AppRuntimeError AppRuntimeResult :=
  match svc.runs.get? handle with
  | none => (svc, .error (.unavailable "Workflow run is unavailable."))
  | some run =>
    if run.inScope now scope = false then
      (svc, .error (.unavailable "Workflow run is unavailable."))
    else
      let run := run.applyTimeout now
      let svc := { svc with runs := svc.runs.set handle run }
      if run.ofVisitor scope = false then
        (svc, .error (.unavailable "Workflow run is unavailable."))
      else (svc, .ok (run.visitorResult handle))

/-- What `complete` makes of a run; of the settled ones only those that failed stay. -/
def completeRun (output : Json) (error : Option String) (run : AppRun) :
    AppRun × Except AppRuntimeError Unit :=
  let run := run.applyTimeout now
  if run.status = .failed then (run, .ok ())
  else if error.isSome then
    ({ run with status := .failed, error := some "Workflow execution failed." }, .ok ())
  else
    let projected := projectOutput output run.outputProjection
    match rt.canonicalJson projected with
    | none => (run, .error (.unavailable "Workflow input must be valid JSON."))
    | some encoded =>
      if run.maxOutputBytes < encoded.utf8ByteSize then
        ({ run with
          status := .failed
          error := some "Workflow output exceeded the configured byte limit."
          output := .null }, .ok ())
      else ({ run with status := .completed, output := projected }, .ok ())

def complete (handle : String) (output : Json) (error : Option String) :
    AppRuntimeService × Except AppRuntimeError Unit :=
  match svc.runs.get? handle with
  | none => (svc, .error (.notFound "App runtime handle was not found."))
  | some run =>
    let (run, result) := completeRun rt now output error run
    ({ svc with runs := svc.runs.set handle run }, result)

def cancel (handle : String) : AppRuntimeService × Except AppRuntimeError Unit :=
  match svc.runs.get? handle with
  | none => (svc, .error (.notFound "App runtime handle was not found."))
  | some run =>
    if run.status.live then
      ({ svc with runs := svc.runs.set handle { run with status := .cancelled } }, .ok ())
    else (svc, .ok ())

end AppRuntimeService

structure QuotaLease where
  workspaceId : Uuid
  operation : String
  expiresAt : Instant
  releasedAt : Option Instant := none

/-- A row of `hosted_app_runtime_runs`: the run and the leases of its concurrency. -/
structure RuntimeRow where
  run : AppRun
  quotaLeaseIds : List Uuid

structure PostgresAppRuntimeService where
  runs : Dict String RuntimeRow := ∅
  idempotency : Dict String (String × String × Instant) := ∅
  leases : Dict Uuid QuotaLease := ∅

namespace PostgresAppRuntimeService

variable (rt : RuntimeHost) (config : RuntimeConfig) (svc : PostgresAppRuntimeService)
  (now : Instant)

def reserveLimit (workspaceId : Uuid) (operation : String) (limit : Int) (expiresAt : Instant)
    (message : String) : Except AppRuntimeError (PostgresAppRuntimeService × Uuid) :=
  let leases := svc.leases.mapValues (fun _ lease =>
    if lease.operation = operation ∧ lease.releasedAt = none ∧ lease.expiresAt ≤ now then
      { lease with releasedAt := some now }
    else lease)
  let used := (leases.values.filter (fun lease => decide (lease.workspaceId = workspaceId ∧
    lease.operation = operation ∧ lease.releasedAt = none ∧ now < lease.expiresAt))).length
  if limit ≤ used then .error (.limit message)
  else
    let leaseId := leases.fresh
    let lease : QuotaLease :=
      { workspaceId := workspaceId, operation := operation, expiresAt := expiresAt }
    .ok ({ svc with leases := leases.set leaseId lease }, leaseId)

def reserveLimits (inv : Invocation) (timeoutAt : Instant) :
    Except AppRuntimeError (PostgresAppRuntimeService × List Uuid) := do
  let specs ← inv.windows "runtime:" rt.hash
  let svc ← specs.foldlM (fun svc spec => do
    let (svc, _) ← reserveLimit svc now inv.workspaceId spec.1 spec.2 (now + seconds 60)
      "Workflow invocation rate limit exceeded."
    return svc) svc
  match inv.binding.limits.get? "max_concurrency" with
  | none => return (svc, [])
  | some limit =>
    let operation := "runtime:concurrency:" ++ toString inv.appId ++ ":" ++
      toString inv.binding.id
    let (svc, leaseId) ← reserveLimit svc now inv.workspaceId operation limit timeoutAt
      "Workflow binding concurrency limit exceeded."
    return (svc, [leaseId])

def releaseConcurrency (row : RuntimeRow) : PostgresAppRuntimeService :=
  { svc with leases := svc.leases.mapValues (fun leaseId lease =>
    if leaseId ∈ row.quotaLeaseIds ∧ lease.releasedAt = none then
      { lease with releasedAt := some now }
    else lease) }

/-- The transaction of `accept`; handles are unique. -/
def acceptIn (handle scopeHash requestHash : String) (inv : Invocation) :
    Except AppRuntimeError (PostgresAppRuntimeService × AppRuntimeResult) := do
  let svc := { svc with
    idempotency := svc.idempotency.filter (fun _ prior => decide (now < prior.2.2)) }
  let prior := (svc.idempotency.get? scopeHash).filter (fun prior =>
    svc.runs.contains prior.2.1)
  match prior with
  | some prior =>
    let result ← replay requestHash (fun handle => (svc.runs.get? handle).map (·.run)) prior
    return (svc, result)
  | none =>
    let run := inv.run config now
    let (svc, leaseIds) ← reserveLimits rt svc now inv (run.timeoutAt.getD now)
    if svc.runs.contains handle = true ∨ rt.storesJson (.obj run.outputProjection) = false then
      throw .storage
    else
      return ({ svc with
        runs := svc.runs.set handle ⟨run, leaseIds⟩
        idempotency := svc.idempotency.set scopeHash (requestHash, handle, run.expiresAt) },
        { handle := handle, status := .accepted, newlyAccepted := true })

/-- What fails is rolled back. -/
def accept (handle : String) (inv : Invocation) :
    PostgresAppRuntimeService × Except AppRuntimeError AppRuntimeResult :=
  match inv.admission rt config with
  | .error e => (svc, .error e)
  | .ok (scopeHash, requestHash) => match acceptIn rt config svc now handle scopeHash requestHash
      inv with
    | .error e => (svc, .error e)
    | .ok (svc, result) => (svc, .ok result)

def write (handle : String) (row : RuntimeRow) : Option AppRun → PostgresAppRuntimeService
  | none => svc
  | some run =>
    releaseConcurrency { svc with runs := svc.runs.set handle { row with run := run } } now row

def markFailed (run : AppRun) (message : String) : AppRun :=
  { run with status := .failed, output := .null, error := some message }

def settleTimeout (run : AppRun) : Option AppRun :=
  if run.overdue now then some (markFailed run "Workflow execution timed out.") else none

/-- The session is checked before the timeout is settled. -/
def status (handle : String) (scope : VisitorScope) :
    PostgresAppRuntimeService × Except AppRuntimeError AppRuntimeResult :=
  match svc.runs.get? handle with
  | none => (svc, .error (.unavailable "Workflow run is unavailable."))
  | some row =>
    if row.run.inScope now scope = false ∨ row.run.ofVisitor scope = false then
      (svc, .error (.unavailable "Workflow run is unavailable."))
    else
      (svc.write now handle row (settleTimeout now row.run),
        .ok ((row.run.applyTimeout now).visitorResult handle))

/-- What `complete` makes of a run, if anything; one that is settled stays. -/
def settle (output : Json) (error : Option String) (run : AppRun) :
    Except AppRuntimeError (Option AppRun) :=
  if run.status.live = false then .ok none
  else if run.overdue now then .ok (some (markFailed run "Workflow execution timed out."))
  else if error.isSome then .ok (some (markFailed run "Workflow execution failed."))
  else
    let projected := projectOutput output run.outputProjection
    match rt.canonicalJson projected with
    | none => .error (.unavailable "Workflow input must be valid JSON.")
    | some encoded =>
      if run.maxOutputBytes < encoded.utf8ByteSize then
        .ok (some (markFailed run "Workflow output exceeded the configured byte limit."))
      else if rt.storesJson projected = false then .error .storage
      else .ok (some { run with status := .completed, output := projected, error := none })

def complete (handle : String) (output : Json) (error : Option String) :
    PostgresAppRuntimeService × Except AppRuntimeError Unit :=
  match svc.runs.get? handle with
  | none => (svc, .error (.notFound "App runtime handle was not found."))
  | some row => match settle rt now output error row.run with
    | .error e => (svc, .error e)
    | .ok run => (svc.write now handle row run, .ok ())

def cancel (handle : String) : PostgresAppRuntimeService × Except AppRuntimeError Unit :=
  match svc.runs.get? handle with
  | none => (svc, .error (.notFound "App runtime handle was not found."))
  | some row =>
    if row.run.status.live then
      (svc.write now handle row (some { row.run with status := .cancelled }), .ok ())
    else (svc, .ok ())

end PostgresAppRuntimeService

inductive RunCall
  | status (scope : VisitorScope)
  | complete (output : Json) (error : Option String)
  | cancel

inductive RuntimeCall
  | accept (handle : String) (inv : Invocation)
  | run (handle : String) (call : RunCall)

section Calls

variable (rt : RuntimeHost) (config : RuntimeConfig)

def AppRuntimeService.step (svc : AppRuntimeService) (c : Instant × RuntimeCall) :
    AppRuntimeService :=
  match c.2 with
  | .accept handle inv => (svc.accept rt config c.1 handle inv).1
  | .run handle (.status scope) => (svc.status c.1 handle scope).1
  | .run handle (.complete output error) => (svc.complete rt c.1 handle output error).1
  | .run handle .cancel => (svc.cancel handle).1

def PostgresAppRuntimeService.step (svc : PostgresAppRuntimeService)
    (c : Instant × RuntimeCall) : PostgresAppRuntimeService :=
  match c.2 with
  | .accept handle inv => (svc.accept rt config c.1 handle inv).1
  | .run handle (.status scope) => (svc.status c.1 handle scope).1
  | .run handle (.complete output error) => (svc.complete rt c.1 handle output error).1
  | .run handle .cancel => (svc.cancel c.1 handle).1

structure Runtimes where
  memory : AppRuntimeService := {}
  postgres : PostgresAppRuntimeService := {}

def Runtimes.step (s : Runtimes) (c : Instant × RuntimeCall) : Runtimes where
  memory := s.memory.step rt config c
  postgres := s.postgres.step rt config c

structure PostgresCallers where
  service : PostgresAppRuntimeService := {}
  waiting : Dict Nat (Instant × RuntimeCall) := ∅

inductive CallerStep
  | call (caller : Nat) (now : Instant) (call : RuntimeCall)
  | turn (caller : Nat)

def PostgresCallers.step (s : PostgresCallers) : CallerStep → PostgresCallers
  | .call caller now call => { s with waiting := s.waiting.set caller (now, call) }
  | .turn caller => match s.waiting.get? caller with
    | none => s
    | some c => { service := s.service.step rt config c, waiting := s.waiting.erase caller }

end Calls

end Orcheo.HostedApps
