import Orcheo.Defs.HostedApps.Runtime
import Orcheo.Lib.Except
import Orcheo.Lib.Run

/-! Runs that are settled stay as they are in Postgres, and exactly where the calls are harmless
in memory, where both services then have the same runs. -/

namespace Orcheo.HostedApps

open Lib (Dict AllSteps bind_ok_iff)
open Or (inl inr)

def RuntimeHost.fits (rt : RuntimeHost) (run : AppRun) (output : Json) : Prop :=
  ∃ encoded, rt.canonicalJson output = some encoded ∧
    (encoded.utf8ByteSize : Int) ≤ run.maxOutputBytes

namespace AppRun

open AppRuntimeService (completeRun)
open PostgresAppRuntimeService (settle settleTimeout markFailed)

variable (rt : RuntimeHost) (now : Instant) (run : AppRun)

def inMemory : RunCall → AppRun
  | .status scope => if run.inScope now scope then run.applyTimeout now else run
  | .complete output error => (completeRun rt now output error run).1
  | .cancel => if run.status.live then { run with status := .cancelled } else run

def inPostgres : RunCall → AppRun
  | .status scope =>
    if run.inScope now scope = false ∨ run.ofVisitor scope = false then run
    else (settleTimeout now run).getD run
  | .complete output error =>
    match settle rt now output error run with
    | .ok (some run') => run'
    | _ => run
  | .cancel => if run.status.live then { run with status := .cancelled } else run

/-- Neither the status nor the result changes, once there is one. -/
def Stays (run run' : AppRun) : Prop :=
  run.status.live = false →
    run'.status = run.status ∧ run'.output = run.output ∧ run'.error = run.error

/-- A completion leaves a settled run: it failed, or the output is not JSON, or it is completed
with the same output. -/
def keeps : RunCall → Prop
  | .complete output error => run.status.live = false → run.status = .failed ∨ error = none ∧
      (rt.canonicalJson (projectOutput output run.outputProjection) = none ∨
        run.status = .completed ∧ run.output = projectOutput output run.outputProjection)
  | _ => True

/-- A call that reaches a run which is not settled: after its timeout no other visitor asks, and
an output that completes it can be stored. -/
def settlesAlike : RunCall → Prop
  | .status scope => run.inScope now scope = true → run.overdue now = true →
      run.ofVisitor scope = true
  | .complete output error => run.status.live = true → run.overdue now = false → error = none →
      rt.fits run (projectOutput output run.outputProjection) →
      rt.storesJson (projectOutput output run.outputProjection) = true
  | .cancel => True

structure Sound (run : AppRun) : Prop where
  pending : run.status.live = true → run.output = .null ∧ run.error = none
  completed : run.status = .completed → rt.fits run run.output

variable {rt now} {run : AppRun}

section

variable (settled : run.status.live = false)
include settled

theorem overdue_of_settled : run.overdue now = false := by
  simp [overdue, settled]

theorem applyTimeout_of_settled :
    run.applyTimeout now = run := by
  simp [applyTimeout, overdue_of_settled settled]

theorem inPostgres_of_settled (call : RunCall) :
    run.inPostgres rt now call = run := by
  cases call with
  | status scope =>
    simp [inPostgres, settleTimeout, overdue_of_settled settled]
  | complete output error => simp [inPostgres, settle, settled]
  | cancel => simp [inPostgres, settled]

theorem inMemory_of_keeps (sound : run.Sound rt) {call : RunCall} (keeps : run.keeps rt call) :
    run.inMemory rt now call = run := by
  cases call with
  | status scope => simp [inMemory, applyTimeout_of_settled settled]
  | cancel => simp [inMemory, settled]
  | complete output error =>
    rw [inMemory, completeRun, applyTimeout_of_settled settled]
    by_cases failed : run.status = .failed
    · simp [failed]
    · obtain ⟨noError, same⟩ := (keeps settled).resolve_left failed
      cases same with
      | inl opaque_ => simp [failed, noError, opaque_]
      | inr same =>
        obtain ⟨completed, output_eq⟩ := same
        obtain ⟨encoded, text, small⟩ := sound.completed completed
        rw [output_eq] at text
        simp only [failed, noError, text, not_lt.mpr small, Option.isSome_none, Bool.false_eq_true,
          if_false]
        rw [← output_eq, ← completed]

theorem stays_inMemory_iff (sound : run.Sound rt) (call : RunCall) :
    run.Stays (run.inMemory rt now call) ↔ run.keeps rt call := by
  constructor
  · intro stays
    cases call with
    | status scope => trivial
    | cancel => trivial
    | complete output error =>
      intro _
      obtain ⟨status_eq, output_eq, -⟩ := stays settled
      rw [inMemory, completeRun, applyTimeout_of_settled settled] at *
      by_cases failed : run.status = .failed
      · exact inl failed
      · refine inr ?_
        cases error with
        | some message => simp [failed] at status_eq; exact absurd status_eq.symm failed
        | none =>
          refine ⟨rfl, ?_⟩
          cases text : rt.canonicalJson (projectOutput output run.outputProjection) with
          | none => exact inl rfl
          | some encoded =>
            by_cases big : run.maxOutputBytes < encoded.utf8ByteSize
            · simp [failed, text, big] at status_eq
              exact absurd status_eq.symm failed
            · simp [failed, text, big] at status_eq output_eq
              exact inr ⟨status_eq.symm, output_eq.symm⟩
  · intro keeps _
    rw [inMemory_of_keeps settled sound keeps]
    exact ⟨rfl, rfl, rfl⟩

end

section

variable (live : run.status.live = true)
include live

theorem status_ne_failed : run.status ≠ .failed := by
  intro failed
  simp [failed, RunStatus.live] at live

theorem inMemory_eq_inPostgres (sound : run.Sound rt)
    {call : RunCall} (alike_ : run.settlesAlike rt now call) :
    run.inMemory rt now call = run.inPostgres rt now call := by
  obtain ⟨noOutput, noError⟩ := sound.pending live
  have open_ := status_ne_failed live
  cases call with
  | cancel => rfl
  | status scope =>
    by_cases inScope : run.inScope now scope = true
    case neg => simp [inMemory, inPostgres, inScope]
    case pos =>
      cases overdue : run.overdue now with
      | false =>
        simp [inMemory, inPostgres, applyTimeout, overdue, settleTimeout]
      | true =>
        simp [inMemory, inPostgres, applyTimeout, overdue, inScope, alike_ inScope overdue,
          settleTimeout, markFailed, noOutput]
  | complete output error =>
    cases overdue : run.overdue now with
    | true =>
      simp [inMemory, inPostgres, completeRun, applyTimeout, overdue, live, settle, markFailed,
        noOutput]
    | false =>
      cases error with
      | some message =>
        simp [inMemory, inPostgres, completeRun, applyTimeout, overdue, live, open_, settle,
          markFailed, noOutput]
      | none =>
        cases text : rt.canonicalJson (projectOutput output run.outputProjection) with
        | none =>
          simp [inMemory, inPostgres, completeRun, applyTimeout, overdue, live, open_, settle, text]
        | some encoded =>
          by_cases big : run.maxOutputBytes < encoded.utf8ByteSize
          · simp [inMemory, inPostgres, completeRun, applyTimeout, overdue, live, open_, settle,
              markFailed, text, big]
          · have stored := alike_ live overdue rfl ⟨encoded, text, not_lt.mp big⟩
            simp [inMemory, inPostgres, completeRun, applyTimeout, overdue, live, open_, settle,
              text, big, stored, noError]

theorem settlesAlike_of_status {call : RunCall}
    (same : (run.inMemory rt now call).status = (run.inPostgres rt now call).status) :
    run.settlesAlike rt now call := by
  cases call with
  | cancel => trivial
  | status scope =>
    intro inScope overdue
    cases foreign : run.ofVisitor scope with
    | true => rfl
    | false =>
      have failed : run.status = .failed := by
        simpa [inMemory, inPostgres, applyTimeout, inScope, overdue, foreign] using same.symm
      exact absurd failed (status_ne_failed live)
  | complete output error =>
    intro _ overdue noError fits
    obtain ⟨encoded, text, small⟩ := fits
    cases stored : rt.storesJson (projectOutput output run.outputProjection) with
    | true => rfl
    | false =>
      have completed : run.status = .completed := by
        simpa [inMemory, inPostgres, completeRun, applyTimeout, overdue, live,
          status_ne_failed live, settle, noError, text, not_lt.mpr small, stored] using same.symm
      simp [completed, RunStatus.live] at live

end

theorem sound_inMemory (sound : run.Sound rt) (call : RunCall) :
    (run.inMemory rt now call).Sound rt := by
  have timeout : (run.applyTimeout now).Sound rt := by
    unfold applyTimeout
    split
    case isTrue => constructor <;> simp [RunStatus.live]
    case isFalse => exact sound
  cases call with
  | cancel =>
    rw [inMemory]
    split
    case isTrue => constructor <;> simp [RunStatus.live]
    case isFalse => exact sound
  | status scope =>
    rw [inMemory]
    split
    case isTrue => exact timeout
    case isFalse => exact sound
  | complete output error =>
    rw [inMemory, completeRun]
    split
    case isTrue => exact timeout
    case isFalse =>
      split
      case isTrue => constructor <;> simp [RunStatus.live]
      case isFalse =>
        dsimp only
        split
        case h_1 => exact timeout
        case h_2 encoded text =>
          split
          case isTrue => constructor <;> simp [RunStatus.live]
          case isFalse small =>
            constructor
            case pending => simp [RunStatus.live]
            case completed => exact fun _ => ⟨encoded, text, not_lt.mp small⟩

theorem Stays.refl : run.Stays run :=
  fun _ => ⟨rfl, rfl, rfl⟩

theorem keeps_of_live (live : run.status.live = true) (call : RunCall) : run.keeps rt call := by
  cases call with
  | status scope => trivial
  | complete output error =>
    intro settled
    simp [live] at settled
  | cancel => trivial

theorem settlesAlike_of_settled (settled : run.status.live = false) (call : RunCall) :
    run.settlesAlike rt now call := by
  cases call with
  | status scope =>
    intro _ overdue
    simp [overdue_of_settled settled] at overdue
  | complete output error =>
    intro live
    simp [settled] at live
  | cancel => trivial

theorem agree_of_harmless (sound : run.Sound rt) {call : RunCall} (keeps : run.keeps rt call)
    (alike_ : run.settlesAlike rt now call) :
    run.inMemory rt now call = run.inPostgres rt now call := by
  cases live : run.status.live with
  | true => exact inMemory_eq_inPostgres live sound alike_
  | false => rw [inMemory_of_keeps live sound keeps, inPostgres_of_settled live]

theorem sound_run (config : RuntimeConfig) (inv : Invocation) (now : Instant) :
    (inv.run config now).Sound rt where
  pending _ := ⟨rfl, rfl⟩
  completed done := by cases done

end AppRun

open AppRun (inMemory inPostgres)

namespace AppRuntimeService

variable {rt : RuntimeHost} {config : RuntimeConfig} {svc : AppRuntimeService} {now : Instant}

theorem runs_step {handle : String} {run : AppRun} (stored : svc.runs.get? handle = some run)
    (call : RunCall) :
    (svc.step rt config (now, .run handle call)).runs =
        svc.runs.set handle (run.inMemory rt now call) ∨
      (svc.step rt config (now, .run handle call)).runs = svc.runs ∧
        run.inMemory rt now call = run := by
  cases call with
  | complete output error =>
    apply inl
    simp [step, complete, stored, inMemory]
  | status scope =>
    cases inScope : run.inScope now scope with
    | false =>
      apply inr
      simp [step, status, stored, inMemory, inScope]
    | true =>
      apply inl
      cases visitor : (run.applyTimeout now).ofVisitor scope <;>
        simp [step, status, stored, inMemory, inScope, visitor]
  | cancel =>
    cases live : run.status.live with
    | false =>
      apply inr
      simp [step, cancel, stored, inMemory, live]
    | true =>
      apply inl
      simp [step, cancel, stored, inMemory, live]

theorem get?_step (handle : String) (call : RunCall) (h : String) :
    (svc.step rt config (now, .run handle call)).runs.get? h =
      (svc.runs.get? h).map (fun run => if h = handle then run.inMemory rt now call else run) := by
  cases stored : svc.runs.get? handle with
  | some run =>
    apply Dict.get?_of_updated (f := fun run : AppRun => run.inMemory rt now call) stored
    exact runs_step stored call
  | none =>
    have same : svc.step rt config (now, .run handle call) = svc := by
      cases call <;> simp [step, status, complete, cancel, stored]
    rw [same]
    by_cases here : h = handle
    · simp [here, stored]
    · simp [here]

theorem runs_enforceInvocationLimits (inv : Invocation) :
    (svc.enforceInvocationLimits now inv).1.runs = svc.runs := by
  unfold enforceInvocationLimits
  split
  case isTrue => rfl
  case isFalse =>
    split
    case h_1 => rfl
    case h_2 => split <;> rfl

theorem get?_accept {handle h : String} {inv : Invocation} {run : AppRun}
    (stored : (svc.step rt config (now, .accept handle inv)).runs.get? h = some run) :
    svc.runs.get? h = some run ∨ h = handle ∧ run = inv.run config now := by
  have older (pruned : (svc.prune now).runs.get? h = some run) : svc.runs.get? h = some run := by
    rw [prune, Dict.get?_filter] at pruned
    exact (Option.filter_eq_some_iff.mp pruned).1
  simp only [step, accept] at stored
  split at stored
  case h_1 => exact inl stored
  case h_2 scopeHash requestHash _ =>
    split at stored
    case h_1 => exact inl (older stored)
    case h_2 =>
      have same : ((svc.prune now).enforceInvocationLimits now inv).1.runs =
          (svc.prune now).runs := runs_enforceInvocationLimits inv
      split at stored
      case h_1 svc' e limited =>
        rw [limited] at same
        rw [same] at stored
        exact inl (older stored)
      case h_2 svc' granted =>
        rw [granted] at same
        rw [Dict.get?_set, same] at stored
        split at stored
        case isTrue here =>
          cases stored
          exact inr ⟨here, rfl⟩
        case isFalse => exact inl (older stored)

end AppRuntimeService

namespace PostgresAppRuntimeService

variable {rt : RuntimeHost} {config : RuntimeConfig} {svc : PostgresAppRuntimeService}
  {now : Instant}
variable (handle : String)

theorem runs_write (row : RuntimeRow) (run : Option AppRun) :
    (svc.write now handle row run).runs = match run with
      | none => svc.runs
      | some run => svc.runs.set handle { row with run := run } := by
  cases run <;> rfl

theorem runs_step {handle : String} {row : RuntimeRow} (stored : svc.runs.get? handle = some row)
    (call : RunCall) :
    (svc.step rt config (now, .run handle call)).runs =
        svc.runs.set handle { row with run := row.run.inPostgres rt now call } ∨
      (svc.step rt config (now, .run handle call)).runs = svc.runs ∧
        { row with run := row.run.inPostgres rt now call } = row := by
  cases call with
  | status scope =>
    by_cases refused : row.run.inScope now scope = false ∨ row.run.ofVisitor scope = false
    · apply inr
      simp [step, status, stored, inPostgres, refused]
    · cases settled : settleTimeout now row.run with
      | none =>
        apply inr
        simp [step, status, stored, inPostgres, refused, settled, runs_write]
      | some run =>
        apply inl
        simp [step, status, stored, inPostgres, refused, settled, runs_write]
  | complete output error =>
    cases settled : settle rt now output error row.run with
    | error e =>
      apply inr
      simp [step, complete, stored, inPostgres, settled]
    | ok run =>
      cases run with
      | none =>
        apply inr
        simp [step, complete, stored, inPostgres, settled, runs_write]
      | some run =>
        apply inl
        simp [step, complete, stored, inPostgres, settled, runs_write]
  | cancel =>
    cases live : row.run.status.live with
    | false =>
      apply inr
      simp [step, cancel, stored, inPostgres, live]
    | true =>
      apply inl
      simp [step, cancel, stored, inPostgres, live, runs_write]

theorem get?_step (call : RunCall) (h : String) :
    (svc.step rt config (now, .run handle call)).runs.get? h = (svc.runs.get? h).map (fun row =>
      if h = handle then { row with run := row.run.inPostgres rt now call } else row) := by
  cases stored : svc.runs.get? handle with
  | some row =>
    apply Dict.get?_of_updated
      (f := fun row : RuntimeRow => { row with run := row.run.inPostgres rt now call }) stored
    exact runs_step stored call
  | none =>
    have same : svc.step rt config (now, .run handle call) = svc := by
      cases call <;> simp [step, status, complete, cancel, stored]
    rw [same]
    by_cases here : h = handle
    · simp [here, stored]
    · simp [here]

theorem runs_reserveLimit {workspaceId : Uuid} {operation message : String} {limit : Int}
    {expiresAt : Instant} {reserved : PostgresAppRuntimeService × Uuid}
    (h : reserveLimit svc now workspaceId operation limit expiresAt message = .ok reserved) :
    reserved.1.runs = svc.runs := by
  unfold reserveLimit at h
  dsimp only at h
  split at h
  case isTrue => cases h
  case isFalse =>
    cases h
    rfl

theorem runs_reserveLimits {inv : Invocation} {timeoutAt : Instant}
    {reserved : PostgresAppRuntimeService × List Uuid}
    (h : reserveLimits rt svc now inv timeoutAt = .ok reserved) : reserved.1.runs = svc.runs := by
  unfold reserveLimits at h
  obtain ⟨specs, _, h⟩ := bind_ok_iff.mp h
  obtain ⟨svc₁, windows, h⟩ := bind_ok_iff.mp h
  have same : svc₁.runs = svc.runs := by
    apply Lib.foldlM_ok_invariant (P := fun svc₁ => svc₁.runs = svc.runs) _ rfl windows
    intro svc₁ spec svc₂ same h
    obtain ⟨_, reserved, h⟩ := bind_ok_iff.mp h
    cases h
    exact (runs_reserveLimit reserved).trans same
  split at h
  case h_1 =>
    cases h
    exact same
  case h_2 =>
    obtain ⟨_, reserved, h⟩ := bind_ok_iff.mp h
    cases h
    exact (runs_reserveLimit reserved).trans same

theorem runs_accept (inv : Invocation) :
    (svc.step rt config (now, .accept handle inv)).runs = svc.runs ∨
      svc.runs.get? handle = none ∧ ∃ leases,
        (svc.step rt config (now, .accept handle inv)).runs =
          svc.runs.set handle ⟨inv.run config now, leases⟩ := by
  simp only [step, accept]
  split
  case h_1 => exact inl rfl
  case h_2 scopeHash requestHash _ =>
    split
    case h_1 => exact inl rfl
    case h_2 svc' result done =>
      unfold acceptIn at done
      dsimp only at done
      split at done
      case h_1 =>
        obtain ⟨_, _, done⟩ := bind_ok_iff.mp done
        cases done
        exact inl rfl
      case h_2 =>
        obtain ⟨⟨svc₁, leaseIds⟩, reserved, done⟩ := bind_ok_iff.mp done
        have same : svc₁.runs = svc.runs := runs_reserveLimits reserved
        dsimp only at done
        split at done
        case isTrue => cases done
        case isFalse new =>
          cases done
          rw [not_or, same, Dict.contains, Bool.not_eq_true, Option.isSome_eq_false_iff,
            Option.isNone_iff_eq_none] at new
          refine inr ⟨new.1, leaseIds, ?_⟩
          rw [same]

theorem get?_accept {handle h : String} {inv : Invocation} {row : RuntimeRow}
    (stored : (svc.step rt config (now, .accept handle inv)).runs.get? h = some row) :
    svc.runs.get? h = some row ∨ h = handle ∧ row.run = inv.run config now := by
  have outcome : (svc.step rt config (now, .accept handle inv)).runs = svc.runs ∨ _ :=
    runs_accept handle inv
  cases outcome with
  | inl same =>
    rw [same] at stored
    exact inl stored
  | inr added =>
    obtain ⟨_, leases, added⟩ := added
    rw [added] at stored
    obtain ⟨here, rfl⟩ | ⟨-, stored⟩ := Dict.of_get?_set stored
    · exact inr ⟨here, rfl⟩
    · exact inl stored

end PostgresAppRuntimeService

def PostgresAppRuntimeService.KeepsSettled (svc svc' : PostgresAppRuntimeService) : Prop :=
  ∀ h row, svc.runs.get? h = some row → ∃ row', svc'.runs.get? h = some row' ∧
    row.run.Stays row'.run

theorem PostgresAppRuntimeService.keepsSettled_step (rt : RuntimeHost) (config : RuntimeConfig)
    (svc : PostgresAppRuntimeService) (c : Instant × RuntimeCall) :
    svc.KeepsSettled (svc.step rt config c) := by
  intro h row stored
  obtain ⟨now, call⟩ := c
  cases call with
  | accept handle inv =>
    have outcome : (svc.step rt config (now, .accept handle inv)).runs = svc.runs ∨ _ :=
      runs_accept handle inv
    cases outcome with
    | inl same =>
      rw [same]
      exact ⟨row, stored, AppRun.Stays.refl⟩
    | inr added =>
      obtain ⟨absent, leases, added⟩ := added
      rw [added, Dict.get?_set]
      split
      case isTrue here =>
        rw [here, absent] at stored
        cases stored
      case isFalse => exact ⟨row, stored, AppRun.Stays.refl⟩
  | run handle call =>
    rw [get?_step, stored]
    refine ⟨_, rfl, ?_⟩
    split
    case isFalse => exact AppRun.Stays.refl
    case isTrue =>
      intro settled
      simp [AppRun.inPostgres_of_settled settled]

theorem PostgresCallers.keepsSettled_step (rt : RuntimeHost) (config : RuntimeConfig)
    (s : PostgresCallers) (turn : CallerStep) :
    s.service.KeepsSettled (s.step rt config turn).service := by
  have kept : s.service.KeepsSettled s.service :=
    fun _ row stored => ⟨row, stored, AppRun.Stays.refl⟩
  cases turn with
  | call => exact kept
  | turn caller =>
    unfold step
    dsimp only
    split
    case h_1 => exact kept
    case h_2 c _ => exact PostgresAppRuntimeService.keepsSettled_step rt config s.service c

namespace Runtimes

variable {rt : RuntimeHost} {config : RuntimeConfig} {s : Runtimes} {c : Instant × RuntimeCall}

def drawsFresh (s : Runtimes) (c : Instant × RuntimeCall) : Prop :=
  match c.2 with
  | .accept handle _ => s.memory.runs.get? handle = none ∧ s.postgres.runs.get? handle = none
  | .run _ _ => True

def harmless (rt : RuntimeHost) (s : Runtimes) (c : Instant × RuntimeCall) : Prop :=
  match c.2 with
  | .accept _ _ => True
  | .run handle call => ∀ run, s.memory.runs.get? handle = some run → run.keeps rt call ∧
      ∀ row, s.postgres.runs.get? handle = some row → run.settlesAlike rt c.1 call

structure Lifecycle (rt : RuntimeHost) (config : RuntimeConfig) (s : Runtimes)
    (c : Instant × RuntimeCall) : Prop where
  memory : ∀ h run run', s.memory.runs.get? h = some run →
    (s.step rt config c).memory.runs.get? h = some run' → run.Stays run'
  postgres : s.postgres.KeepsSettled (s.step rt config c).postgres
  alike : ∀ h run row, (s.step rt config c).memory.runs.get? h = some run →
    (s.step rt config c).postgres.runs.get? h = some row → run.status = row.run.status

structure Sound (rt : RuntimeHost) (s : Runtimes) : Prop where
  runs : ∀ h run, s.memory.runs.get? h = some run → run.Sound rt
  alike : ∀ h run row, s.memory.runs.get? h = some run → s.postgres.runs.get? h = some row →
    row.run = run

theorem sound_fresh : Sound rt {} where
  runs _ _ stored := nomatch stored
  alike _ _ _ stored := nomatch stored

theorem sound_accept {now : Instant} {handle : String} {inv : Invocation} (sound : s.Sound rt)
    (fresh : s.drawsFresh (now, .accept handle inv)) :
    (s.step rt config (now, .accept handle inv)).Sound rt := by
  obtain ⟨freshMemory, freshPostgres⟩ := fresh
  constructor
  case runs =>
    intro h run stored
    cases AppRuntimeService.get?_accept stored with
    | inl old => exact sound.runs h run old
    | inr new =>
      rw [new.2]
      exact AppRun.sound_run config inv now
  case alike =>
    intro h run row stored storedRow
    cases AppRuntimeService.get?_accept stored with
    | inl old =>
      cases PostgresAppRuntimeService.get?_accept storedRow with
      | inl oldRow => exact sound.alike h run row old oldRow
      | inr newRow =>
        rw [newRow.1, freshMemory] at old
        cases old
    | inr new =>
      cases PostgresAppRuntimeService.get?_accept storedRow with
      | inl oldRow =>
        rw [new.1, freshPostgres] at oldRow
        cases oldRow
      | inr newRow => rw [newRow.2, new.2]

theorem sound_call {now : Instant} {handle : String} {call : RunCall} (sound : s.Sound rt)
    (ok : s.harmless rt (now, .run handle call)) :
    (s.step rt config (now, .run handle call)).Sound rt := by
  constructor
  case runs =>
    intro h run' stored'
    rw [step, AppRuntimeService.get?_step, Option.map_eq_some_iff] at stored'
    obtain ⟨run, stored, rfl⟩ := stored'
    split
    case isTrue => exact AppRun.sound_inMemory (sound.runs h run stored) call
    case isFalse => exact sound.runs h run stored
  case alike =>
    intro h run' row' stored' storedRow'
    rw [step, AppRuntimeService.get?_step, Option.map_eq_some_iff] at stored'
    rw [step, PostgresAppRuntimeService.get?_step, Option.map_eq_some_iff] at storedRow'
    obtain ⟨run, stored, rfl⟩ := stored'
    obtain ⟨row, storedRow, rfl⟩ := storedRow'
    have same : row.run = run := sound.alike h run row stored storedRow
    split
    case isFalse => exact same
    case isTrue here =>
      rw [here] at stored storedRow
      obtain ⟨keeps, alike_⟩ := ok run stored
      rw [same]
      exact (AppRun.agree_of_harmless (sound.runs handle run stored) keeps
        (alike_ row storedRow)).symm

theorem sound_step (sound : s.Sound rt) (fresh : s.drawsFresh c) (ok : s.harmless rt c) :
    (s.step rt config c).Sound rt := by
  obtain ⟨now, call⟩ := c
  cases call with
  | accept handle inv => exact sound_accept sound fresh
  | run handle call => exact sound_call sound ok

theorem lifecycle_of_harmless (sound : s.Sound rt) (fresh : s.drawsFresh c)
    (ok : s.harmless rt c) : s.Lifecycle rt config c := by
  constructor
  case postgres => exact PostgresAppRuntimeService.keepsSettled_step rt config s.postgres c
  case alike =>
    intro h run row stored storedRow
    have sound' : (s.step rt config c).Sound rt := sound_step sound fresh ok
    rw [sound'.alike h run row stored storedRow]
  case memory =>
    intro h run run' stored stored'
    obtain ⟨now, call⟩ := c
    cases call with
    | accept handle inv =>
      cases AppRuntimeService.get?_accept stored' with
      | inl old =>
        rw [stored] at old
        cases old
        exact AppRun.Stays.refl
      | inr new =>
        rw [new.1, fresh.1] at stored
        cases stored
    | run handle call =>
      rw [step, AppRuntimeService.get?_step, stored] at stored'
      cases stored'
      split
      case isFalse => exact AppRun.Stays.refl
      case isTrue here =>
        intro settled
        rw [here] at stored
        have keeps := (ok run stored).1
        exact (AppRun.stays_inMemory_iff settled (sound.runs handle run stored) call).mpr keeps
          settled

theorem harmless_of_lifecycle (sound : s.Sound rt) (good : s.Lifecycle rt config c) :
    s.harmless rt c := by
  obtain ⟨now, call⟩ := c
  cases call with
  | accept handle inv => trivial
  | run handle call =>
    intro run stored
    have soundRun := sound.runs handle run stored
    have stored' : (s.step rt config (now, .run handle call)).memory.runs.get? handle =
        some (run.inMemory rt now call) := by
      simp [step, AppRuntimeService.get?_step, stored]
    cases live : run.status.live with
    | false =>
      have stays := good.memory handle run _ stored stored'
      refine ⟨(AppRun.stays_inMemory_iff live soundRun call).mp stays, ?_⟩
      intro _ _
      exact AppRun.settlesAlike_of_settled live call
    | true =>
      refine ⟨AppRun.keeps_of_live live call, ?_⟩
      intro row storedRow
      have storedRow' : (s.step rt config (now, .run handle call)).postgres.runs.get? handle =
          some { row with run := row.run.inPostgres rt now call } := by
        simp [step, PostgresAppRuntimeService.get?_step, storedRow]
      have same := good.alike handle _ _ stored' storedRow'
      rw [sound.alike handle run row stored storedRow] at same
      exact AppRun.settlesAlike_of_status live same

/-- For calls whose acceptances draw new tokens: settled runs stay and both services end in the
same statuses exactly where every call is harmless; and in Postgres settled runs stay through
every interleaving. -/
theorem runs_settle (rt : RuntimeHost) (config : RuntimeConfig)
    (calls : List (Instant × RuntimeCall)) (turns : List CallerStep)
    (fresh : AllSteps (step rt config) drawsFresh {} calls) :
    (AllSteps (step rt config) (Lifecycle rt config) {} calls ↔
      AllSteps (step rt config) (harmless rt) {} calls) ∧
    AllSteps (PostgresCallers.step rt config) (fun s turn =>
      s.service.KeepsSettled (s.step rt config turn).service) {} turns := by
  constructor
  · have both :
        AllSteps (step rt config) (fun s c => s.drawsFresh c ∧ s.Lifecycle rt config c) {} calls ↔
        AllSteps (step rt config) (fun s c => s.drawsFresh c ∧ s.harmless rt c) {} calls := by
      apply Lib.allSteps_iff_of_invariant (P := Sound rt)
      · intro s c sound
        apply and_congr_right
        intro fresh
        exact ⟨harmless_of_lifecycle sound, lifecycle_of_harmless sound fresh⟩
      · intro s c sound good
        exact sound_step sound good.1 (harmless_of_lifecycle sound good.2)
      · exact sound_fresh
    simpa only [Lib.allSteps_and_iff, fresh, true_and] using both
  · apply Lib.allSteps_of_forall
    intro s turn
    exact s.keepsSettled_step rt config turn

def sampleHost : RuntimeHost where
  canonicalJson value := match value with
    | .null => some "null"
    | _ => none
  hash text :=
    if text = "null" then "74234e98afe7498fb5daf1f36ac2d78acc339464f950703b8c019892f982b90b"
    else if text = "2|3|5|anonymous:ada|key" then
      "cc2abb2a8437a9b2e175bd6ed7391bbf53efacee2d24864efc2c0cee1080fa2e"
    else ""
  validates _ _ := true
  storesJson _ := true

def sampleInvocation : Invocation where
  binding := { id := 5, appId := 2, workspaceId := 1 }
  workspaceId := 1
  appId := 2
  releaseId := 3
  idempotencyKey := "key"
  runtimeGeneration := 7
  anonymousVisitorId := some "ada"

theorem runs_settle_completed : (AllSteps (step sampleHost {}) (Lifecycle sampleHost {}) {}
        [(0, .accept "token" sampleInvocation), (1, .run "token" (.complete .null none))] ↔
      AllSteps (step sampleHost {}) (harmless sampleHost) {}
        [(0, .accept "token" sampleInvocation), (1, .run "token" (.complete .null none))]) ∧
    AllSteps (PostgresCallers.step sampleHost {}) (fun s turn =>
      s.service.KeepsSettled (s.step sampleHost {} turn).service) {}
        [.call 0 0 (.accept "token" sampleInvocation), .turn 0] :=
  runs_settle sampleHost {} _ _ ⟨⟨rfl, rfl⟩, trivial, trivial⟩

theorem cancelled_run_completed : ¬ ∀ (rt : RuntimeHost) (config : RuntimeConfig)
    (calls : List (Instant × RuntimeCall)), AllSteps (step rt config) drawsFresh {} calls →
    AllSteps (step rt config) (Lifecycle rt config) {} calls := by
  intro all
  have fresh : AllSteps (step sampleHost {}) drawsFresh {} ([(0, .accept "token" sampleInvocation),
      (1, .run "token" .cancel)] ++ [(2, .run "token" (.complete .null none))]) :=
    ⟨⟨rfl, rfl⟩, trivial, trivial, trivial⟩
  have last := (all sampleHost {} _ fresh).last
  have cancelled : { sampleInvocation.run {} 0 with status := .cancelled }.Stays
      { sampleInvocation.run {} 0 with status := .completed } := last.memory "token" _ _ rfl rfl
  cases (cancelled rfl).1

end Runtimes

end Orcheo.HostedApps
