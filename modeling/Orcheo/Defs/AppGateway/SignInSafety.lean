import Mathlib.Data.List.TakeWhile
import Mathlib.Algebra.Order.BigOperators.Group.List
import Mathlib.Algebra.Order.Group.Int
import Mathlib.Algebra.Order.Group.Nat
import Orcheo.Lib.Run
import Orcheo.Defs.AppGateway.SignIn

/-! Signing in on an app's host stays on that host. -/

namespace Orcheo.AppGateway

open Lib (AllSteps Always Base64.Uncapital)
open Lib.Percent (unreserved isSlash blank target mem_quote quote_cons_of_kept head_quote quote)
open Json (field? str)
open String (toList_ofList ofList toList_append)

variable {sep : Char} {after before : String}

theorem splits_at {cs : List Char} (mem : sep ∈ cs) :
    cs = cs.takeWhile (· ≠ sep) ++ sep :: (cs.dropWhile (· ≠ sep)).drop 1 := by
  induction cs with
  | nil => cases mem
  | cons c cs ih =>
    by_cases here : c = sep
    · rw [List.takeWhile_cons, List.dropWhile_cons, if_neg (by simp [here]),
        if_neg (by simp [here]), here]
      rfl
    · rw [List.takeWhile_cons, List.dropWhile_cons, if_pos (by simp [here]),
        if_pos (by simp [here]), List.cons_append]
      exact congrArg (c :: ·) (ih ((List.mem_cons.mp mem).resolve_left (Ne.symm here)))

theorem rsplit_eq {text : String} (split : rsplit sep text = some (before, after)) :
    text.toList = before.toList ++ sep :: after.toList := by
  unfold rsplit at split
  dsimp only at split
  split at split
  next mem =>
    cases split
    have parts := congrArg List.reverse (splits_at mem)
    rw [List.reverse_append, List.reverse_reverse, List.reverse_cons] at parts
    rw [toList_ofList, toList_ofList]
    simpa using parts
  next => cases split

theorem rsplit_append (free : sep ∉ after.toList) :
    rsplit sep (before ++ ofList [sep] ++ after) = some (before, after) := by
  have chars : (before ++ ofList [sep] ++ after).toList.reverse =
      after.toList.reverse ++ sep :: before.toList.reverse := by
    rw [toList_append, toList_append, toList_ofList, List.reverse_append,
      List.reverse_append]
    rfl
  have other : ∀ c ∈ after.toList.reverse, (decide (c ≠ sep)) = true := by
    intro c mem
    apply decide_eq_true
    rintro rfl
    exact free (List.mem_reverse.mp mem)
  unfold rsplit
  dsimp only
  rw [chars, if_pos (List.mem_append_right _ List.mem_cons_self),
    List.takeWhile_append_of_pos other, List.dropWhile_append_of_pos other]
  simp

theorem cookie_eq {cookie : Option String}
    (split : rsplit sep (cookie.getD "") = some (before, after)) :
    cookie = some (before ++ ofList [sep] ++ after) := by
  have chars := rsplit_eq split
  cases cookie with
  | none => simp at chars
  | some text =>
    apply congrArg some
    apply String.toList_inj.mp
    rw [Option.getD_some] at chars
    rw [chars, toList_append, toList_append, toList_ofList,
      List.append_assoc]
    rfl

theorem mem_rstrip {c d : Char} {text : String} (mem : d ∈ (rstrip c text).toList) :
    d ∈ text.toList := by
  unfold rstrip at mem
  rw [toList_ofList, List.mem_reverse] at mem
  exact List.mem_reverse.mp ((List.dropWhile_suffix _).subset mem)

theorem compareDigest_eq {a b : String} {same : Bool} (compared : compareDigest a b = some same) :
    same = decide (a = b) := by
  unfold compareDigest at compared
  split at compared
  · exact (Option.some.inj compared).symm
  · cases compared

section Gateway

variable (rt : GatewayRuntime) (config : GatewayConfig)

def appHost (hostHeader : String) : Option String :=
  (canonicalAppHost rt config hostHeader).map (·.1)

variable {rt config}

variable {c : Char} {payload : Payload}

theorem mem_portless {rawHost name : String} (stripped : portless rt rawHost = some name)
    (mem : c ∈ name.toList) : c ∈ rawHost.toList := by
  unfold portless at stripped
  split at stripped
  next =>
    obtain ⟨⟨before, port⟩, split, stripped⟩ := Option.bind_eq_some_iff.mp stripped
    dsimp only at stripped
    split at stripped
    next =>
      cases stripped
      rw [rsplit_eq split]
      exact List.mem_append_left _ mem
    next => cases stripped
  next =>
    cases stripped
    exact mem

variable {hostHeader host : String}

theorem appHost_uncapital (known : appHost rt config hostHeader = some host)
    (mem : c ∈ host.toList) : Base64.Uncapital c := by
  obtain ⟨⟨candidate, label⟩, canonical, same⟩ := Option.map_eq_some_iff.mp known
  dsimp only at same
  subst same
  unfold canonicalAppHost at canonical
  obtain ⟨rawHost, stripped, canonical⟩ := Option.bind_eq_some_iff.mp canonical
  dsimp only at canonical
  split at canonical
  next => cases canonical
  next =>
    split at canonical
    next => cases canonical
    next =>
      split at canonical
      next => cases canonical
      next =>
        cases canonical
        exact Lib.Base64.uncapital_of_not
          (rt.lower_uncapital _ c (mem_portless stripped (mem_rstrip mem)))

theorem isSlash_of_kept (kept : unreserved c = true ∨ redirectSafe c = true ∨ c = '%')
    (other : c ≠ '/') : isSlash c = false := by
  unfold isSlash
  rw [Bool.or_eq_false_iff, decide_eq_false_iff_not, decide_eq_false_iff_not]
  refine ⟨other, ?_⟩
  rintro rfl
  revert kept
  decide

theorem visible_of_kept (kept : unreserved c = true ∨ redirectSafe c = true ∨ c = '%') :
    blank c = false := by
  unfold blank
  rw [decide_eq_false_iff_not]
  intro low
  have small : ∀ n : Fin 33, ¬(unreserved (Char.ofNat n.val) = true ∨
    redirectSafe (Char.ofNat n.val) = true ∨ Char.ofNat n.val = '%') := by decide +kernel
  have here := small ⟨c.toNat, by omega⟩
  rw [Char.ofNat_toNat] at here
  exact here kept

theorem target_location {returnTo : String} (path : isReturnPath returnTo = true) :
    target (rt.location returnTo).toList = .own := by
  unfold isReturnPath at path
  rw [Bool.and_eq_true, beq_iff_eq, Bool.not_eq_true', decide_eq_false_iff_not] at path
  obtain ⟨starts, single⟩ := path
  obtain ⟨rest, same⟩ : ∃ rest, returnTo.toList = '/' :: rest := by
    cases chars : returnTo.toList with
    | nil =>
      rw [chars] at starts
      cases starts
    | cons c rest =>
      rw [chars] at starts
      cases starts
      exact ⟨rest, rfl⟩
  rw [rt.location_quotes, toList_ofList]
  apply Lib.Percent.target_path
  · exact fun c mem => visible_of_kept (mem_quote mem)
  · rw [same, quote_cons_of_kept (by decide)]
    rfl
  · intro d head
    rw [same, quote_cons_of_kept (by decide), List.tail_cons] at head
    apply isSlash_of_kept (mem_quote (List.mem_of_mem_head? head))
    rintro rfl
    cases rest with
    | nil => cases head
    | cons e rest =>
      obtain first | first := head_quote head
      · apply single
        rw [same, ← first]
        exact ⟨rest, rfl⟩
      · cases first

theorem decode_ok {cookie : Option String} {now : Instant}
    (decoded : decodeAuthTransaction rt config cookie now = .ok payload) :
    ∃ encoded signature expiresAt, rsplit '.' (cookie.getD "") = some (encoded, signature) ∧
      compareDigest signature (rt.hmac config.gatewaySecret encoded) = some true ∧
      (urlsafeB64decode encoded).bind rt.loads = some (.obj payload) ∧
      (field? payload "expires_at").bind rt.float = some expiresAt ∧ now < expiresAt := by
  unfold decodeAuthTransaction at decoded
  split at decoded
  next => cases decoded
  next =>
    split at decoded
    next => cases decoded
    next encoded signature split =>
      split at decoded
      next => cases decoded
      next signed =>
        split at decoded
        next payload' read =>
          split at decoded
          next => cases decoded
          next expiresAt expires =>
            split at decoded
            next => cases decoded
            next early =>
              cases decoded
              exact ⟨encoded, signature, expiresAt, split, Decidable.not_not.mp signed, read,
                expires, Int.not_le.mp early⟩
        next => cases decoded

variable (rt config) in
structure Presents (request : FinishRequest) (exchange : Exchange) : Prop where
  decoded : decodeAuthTransaction rt config request.cookie request.now = .ok exchange.transaction
  here : appHost rt config request.hostHeader = some exchange.host
  host : field? exchange.transaction "host" = some (.str exchange.host)
  state : pyStr rt ((field? exchange.transaction "state").getD (.str "")) = request.state
  verifier : field? exchange.transaction "verifier" = some exchange.verifier
  redirectUri : field? exchange.transaction "redirect_uri" = some exchange.redirectUri
  code : exchange.code = request.code

theorem present_ok {request : FinishRequest} {exchange : Exchange}
    (presented : presentAppAuth rt config request = .ok exchange) :
    Presents rt config request exchange := by
  unfold presentAppAuth at presented
  split at presented
  next => cases presented
  next transaction decoded =>
    split at presented
    next => cases presented
    next host label canonical =>
      dsimp only at presented
      split at presented
      next => cases presented
      next named =>
        split at presented
        next => cases presented
        next => cases presented
        next compared =>
          have same := of_decide_eq_true (compareDigest_eq compared).symm
          split at presented
          next verifier redirectUri held bound =>
            split at presented
            next => cases presented
            next =>
              cases presented
              have known : appHost rt config request.hostHeader = some host := by
                unfold appHost
                rw [canonical]
                rfl
              exact ⟨decoded, known, Decidable.not_not.mp named, same, held, bound, rfl⟩
          next => cases presented

theorem entryLength_ge (entry : String × Json) : entry.1.length + 5 ≤ entryLength entry := by
  unfold entryLength
  split
  · dsimp only
    omega
  · exact Nat.le_refl _

theorem textLength_le {listed all : Payload} (nodup : listed.Nodup) (sub : listed ⊆ all) :
    textLength listed ≤ textLength all := by
  obtain ⟨picked, same, sublist⟩ := List.subperm_of_subset nodup sub
  unfold textLength
  rw [← (same.map entryLength).sum_nat]
  exact (sublist.map entryLength).sum_le_sum (fun n _ => Nat.zero_le n)

theorem textLength_three {first k₁ k₂ k₃ : String} {v₁ v₂ v₃ : Json}
    (f₁ : field? payload k₁ = some v₁) (f₂ : field? payload k₂ = some v₂)
    (f₃ : field? payload k₃ = some v₃) (ne₁ : k₁ ≠ first) (ne₂ : k₂ ≠ first)
    (ne₃ : k₃ ≠ first) (apart : [k₁, k₂, k₃].Nodup) :
    k₁.length + k₂.length + k₃.length + 15 ≤
      textLength (payload.filter (fun entry => entry.1 ≠ first)) := by
  have nodup : [(k₁, v₁), (k₂, v₂), (k₃, v₃)].Nodup := List.Nodup.of_map Prod.fst apart
  have sub : [(k₁, v₁), (k₂, v₂), (k₃, v₃)] ⊆
      payload.filter (fun entry => entry.1 ≠ first) := by
    intro entry mem
    simp only [List.mem_cons, List.not_mem_nil, or_false] at mem
    rw [List.mem_filter]
    obtain rfl | rfl | rfl := mem
    · exact ⟨Lib.Dict.mem_of_lookup f₁, decide_eq_true ne₁⟩
    · exact ⟨Lib.Dict.mem_of_lookup f₂, decide_eq_true ne₂⟩
    · exact ⟨Lib.Dict.mem_of_lookup f₃, decide_eq_true ne₃⟩
  have bound := textLength_le nodup sub
  have long₁ : k₁.length + 5 ≤ entryLength (k₁, v₁) := entryLength_ge (k₁, v₁)
  have long₂ : k₂.length + 5 ≤ entryLength (k₂, v₂) := entryLength_ge (k₂, v₂)
  have long₃ : k₃.length + 5 ≤ entryLength (k₃, v₃) := entryLength_ge (k₃, v₃)
  unfold textLength at bound ⊢
  simp only [List.map_cons, List.map_nil, List.sum_cons, List.sum_nil] at bound
  omega

theorem textLength_beside {e h v u : Json} (first : String)
    (expires : field? payload "expires_at" = some e)
    (host : field? payload "host" = some h)
    (verifier : field? payload "verifier" = some v)
    (redirectUri : field? payload "redirect_uri" = some u) :
    37 ≤ textLength (payload.filter (fun entry => entry.1 ≠ first)) := by
  by_cases isExpires : "expires_at" = first
  · rw [← isExpires]
    exact Nat.le_trans (by decide)
      (textLength_three host verifier redirectUri (by decide) (by decide) (by decide) (by decide))
  · by_cases isHost : "host" = first
    · rw [← isHost]
      exact Nat.le_trans (by decide) (textLength_three expires verifier redirectUri (by decide)
        (by decide) (by decide) (by decide))
    · by_cases isVerifier : "verifier" = first
      · rw [← isVerifier]
        exact Nat.le_trans (by decide) (textLength_three expires host redirectUri (by decide)
          (by decide) (by decide) (by decide))
      · exact Nat.le_trans (by decide)
          (textLength_three expires host verifier isExpires isHost isVerifier (by decide))

theorem not_visitor {draw : Draw} {e h v u : Json}
    (known : appHost rt config hostHeader = some host)
    (read : (urlsafeB64decode (visitorMessage host draw.val)).bind rt.loads = some (.obj payload))
    (expires : field? payload "expires_at" = some e)
    (named : field? payload "host" = some h)
    (verifier : field? payload "verifier" = some v)
    (redirectUri : field? payload "redirect_uri" = some u) : False := by
  obtain ⟨bytes, decoded, loaded⟩ := Option.bind_eq_some_iff.mp read
  have entries : payload ≠ [] := by
    rintro rfl
    cases named
  obtain ⟨first, opened, c, rest, same, low, long⟩ := rt.loads_object bytes payload loaded entries
  have beside := textLength_beside first expires named verifier redirectUri
  unfold urlsafeB64decode at decoded
  split at decoded
  next =>
    have chars : (visitorMessage host draw.val).toList = host.toList ++ (':' :: draw.val.toList) := by
      unfold visitorMessage
      rw [toList_append, toList_append, List.append_assoc]
      rfl
    rw [same, chars, List.append_assoc] at decoded
    have bound := Lib.Base64.length_after_quote
      (fun c mem => appHost_uncapital known mem) low (by omega) (by omega) decoded
    rw [List.countP_append, Lib.Base64.countP_padding, List.countP_cons] at bound
    have digits := List.countP_le_length (p := fun c => (Lib.Base64.value c).isSome)
      (l := draw.val.toList)
    rw [String.length_toList, draw.property] at digits
    have colon : (Lib.Base64.value ':').isSome = false := by decide
    rw [colon] at bound
    simp only [Bool.false_eq_true, if_false] at bound
    omega
  next => cases decoded

structure Issued where
  request : FinishRequest
  exchange : Exchange
  redirect : Redirect

structure SignIns where
  starts : List StartRequest := []
  visitors : List (String × Draw) := []
  pending : List (FinishRequest × Exchange) := []
  exchanged : List String := []
  issued : List Issued := []

inductive GatewayTurn
  | start (request : StartRequest)
  | visit (hostHeader : String) (cookie : Option String) (draw : Draw)
  | present (request : FinishRequest)
  /-- The backend answers one of the exchanges that are pending. -/
  | settle (i : Nat) (answer : Except HttpError Payload)

variable (rt config)

def startPayload (request : StartRequest) (host : String) : Payload :=
  (startTransaction rt request host).payload rt

namespace SignIns

variable (s : SignIns)

def started (request : StartRequest) : SignIns :=
  match startAppAuth rt config request with
  | .ok _ => { s with starts := request :: s.starts }
  | .error _ => s

def visited (hostHeader : String) (cookie : Option String) (draw : Draw) : SignIns :=
  match appHost rt config hostHeader with
  | none => s
  | some host => match resolveAnonymousVisitor rt config host cookie draw with
    | .ok (_, some _) => { s with visitors := (host, draw) :: s.visitors }
    | _ => s

def presented (request : FinishRequest) : SignIns :=
  match presentAppAuth rt config request with
  | .ok exchange => { s with pending := (request, exchange) :: s.pending }
  | .error _ => s

def spent (code : String) : Except HttpError Payload → List String
  | .ok _ => code :: s.exchanged
  | .error _ => s.exchanged

def settled (i : Nat) (answer : Except HttpError Payload) : SignIns :=
  match s.pending[i]? with
  | none => s
  | some (request, exchange) =>
    let s' := { s with
      pending := s.pending.eraseIdx i, exchanged := s.spent exchange.code answer }
    match finishAppAuth rt exchange answer with
    | .ok redirect => { s' with issued := ⟨request, exchange, redirect⟩ :: s.issued }
    | .error _ => s'

def step : GatewayTurn → SignIns
  | .start request => s.started rt config request
  | .visit hostHeader cookie draw => s.visited rt config hostHeader cookie draw
  | .present request => s.presented rt config request
  | .settle i answer => s.settled rt i answer

def Signed (message : String) : Prop :=
  (∃ request ∈ s.starts, ∃ host, appHost rt config request.hostHeader = some host ∧
    message = encodedPayload rt (startPayload rt request host)) ∨
  ∃ host draw, (host, draw) ∈ s.visitors ∧ message = visitorMessage host draw.val

/-- JSON and its numbers are read back as they were written, signatures are not forged, and the
backend takes every code once. -/
def Assumed : GatewayTurn → Prop
  | .start request =>
    rt.float (rt.number (request.now + seconds 300)) = some (request.now + seconds 300) ∧
    ∀ host, appHost rt config request.hostHeader = some host →
      rt.loads (rt.dumps (startPayload rt request host)) =
        some (.obj (startPayload rt request host))
  | .visit _ _ _ => True
  | .present request => ∀ encoded signature,
    rsplit '.' (request.cookie.getD "") = some (encoded, signature) →
    signature = rt.hmac config.gatewaySecret encoded → s.Signed rt config encoded
  | .settle i answer => ∀ request exchange, s.pending[i]? = some (request, exchange) →
    answer.isOk = true → exchange.code ∉ s.exchanged

structure Completes (request : FinishRequest) (exchange : Exchange) (start : StartRequest) :
    Prop where
  signed : ∃ redirect, startAppAuth rt config start = .ok redirect ∧
    redirect.authCookie = request.cookie
  host : appHost rt config start.hostHeader = some exchange.host
  here : appHost rt config request.hostHeader = some exchange.host
  state : request.state = start.state
  early : request.now < start.now + seconds 300
  exchange : exchange = ⟨exchange.host, request.code, .str start.verifier,
    .str (redirectUri rt start.hostHeader exchange.host), startPayload rt start exchange.host⟩

structure Safe (s : SignIns) : Prop where
  own : ∀ i ∈ s.issued, target i.redirect.location.toList = .own
  completes : ∀ i ∈ s.issued, ∃ start ∈ s.starts, Completes rt config i.request i.exchange start ∧
    i.redirect.location = rt.location start.returnTo
  once : (s.issued.map (·.exchange.code)).Nodup

variable {rt config}

theorem start_ok {request : StartRequest} {redirect : Redirect}
    (started : startAppAuth rt config request = .ok redirect) :
    ∃ host, appHost rt config request.hostHeader = some host ∧
      isReturnPath request.returnTo = true ∧
      redirect.authCookie = some (encodeAuthTransaction rt config (startPayload rt request host)) := by
  unfold startAppAuth at started
  split at started
  next => cases started
  next host label canonical =>
    split at started
    next => cases started
    next =>
      split at started
      next => cases started
      next =>
        split at started
        next => cases started
        next =>
          split at started
          next => cases started
          next path =>
            cases started
            refine ⟨host, ?_, by simpa using path, rfl⟩
            unfold appHost
            rw [canonical]
            rfl

theorem encoded_read {payload : Payload} {read : Json}
    (loaded : (urlsafeB64decode (encodedPayload rt payload)).bind rt.loads = some read) :
    rt.loads (rt.dumps payload) = some read := by
  have ascii : isAscii (encodedPayload rt payload) = true := by
    unfold isAscii encodedPayload
    rw [List.all_eq_true, toList_ofList]
    intro c mem
    exact decide_eq_true (Lib.Base64.ascii_encode (Lib.Base64.mem_of_mem_unpadded mem))
  unfold urlsafeB64decode at loaded
  rw [if_pos ascii] at loaded
  unfold encodedPayload at loaded
  rw [toList_ofList, Lib.Base64.decode_padded] at loaded
  exact loaded

@[simp] theorem started_exchanged (request : StartRequest) :
    (s.started rt config request).exchanged = s.exchanged := by
  unfold SignIns.started
  split <;> rfl

@[simp] theorem presented_exchanged (request : FinishRequest) :
    (s.presented rt config request).exchanged = s.exchanged := by
  unfold SignIns.presented
  split <;> rfl

variable (rt config) in
structure Inv (s : SignIns) : Prop where
  starts : ∀ start ∈ s.starts, (∃ redirect, startAppAuth rt config start = .ok redirect) ∧
    s.Assumed rt config (.start start)
  visitors : ∀ host draw, (host, draw) ∈ s.visitors →
    ∃ hostHeader, appHost rt config hostHeader = some host
  pending : ∀ request exchange, (request, exchange) ∈ s.pending →
    ∃ start ∈ s.starts, Completes rt config request exchange start
  spent : ∀ i ∈ s.issued, i.exchange.code ∈ s.exchanged
  safe : s.Safe rt config

variable {s : SignIns} {request : FinishRequest}

theorem completes_of_presents {exchange : Exchange}
    (inv : s.Inv rt config) (assumed : s.Assumed rt config (.present request))
    (presents : Presents rt config request exchange) :
    ∃ start ∈ s.starts, Completes rt config request exchange start := by
  obtain ⟨encoded, signature, expiresAt, split, compared, read, expires, early⟩ :=
    decode_ok presents.decoded
  have signature_eq := of_decide_eq_true (compareDigest_eq compared).symm
  obtain ⟨e, stated, number⟩ := Option.bind_eq_some_iff.mp expires
  obtain ⟨start, mem, host, known, rfl⟩ | ⟨host, draw, mem, rfl⟩ :=
    assumed encoded signature split signature_eq
  · obtain ⟨⟨redirect, begun⟩, reads, readsBack⟩ := inv.starts start mem
    have loaded := encoded_read read
    rw [readsBack host known] at loaded
    have payload : exchange.transaction = startPayload rt start host :=
      (Json.obj.inj (Option.some.inj loaded)).symm
    have named := presents.host
    rw [payload] at named stated
    have same : host = exchange.host := Json.str.inj (Option.some.inj named)
    subst same
    obtain ⟨host', known', _, cookie⟩ := start_ok begun
    rw [known] at known'
    cases known'
    refine ⟨start, mem, ⟨redirect, begun, ?_⟩, known, presents.here, ?_, ?_, ?_⟩
    · rw [cookie, cookie_eq split, signature_eq]
      rfl
    · have state := presents.state
      rw [payload] at state
      exact state.symm
    · cases stated
      have same := reads.symm.trans number
      cases same
      exact early
    · have verifier := presents.verifier
      have redirected := presents.redirectUri
      rw [payload] at verifier redirected
      have verifier : str start.verifier = exchange.verifier := Option.some.inj verifier
      have redirected : str (redirectUri rt start.hostHeader exchange.host) =
        exchange.redirectUri := Option.some.inj redirected
      rw [verifier, redirected, ← payload, ← presents.code]
  · obtain ⟨hostHeader, known⟩ := inv.visitors host draw mem
    exact (not_visitor known read stated presents.host presents.verifier
      presents.redirectUri).elim

theorem Inv.empty : Inv rt config {} where
  starts _ mem := by cases mem
  visitors _ _ mem := by cases mem
  pending _ _ mem := by cases mem
  spent _ mem := by cases mem
  safe := ⟨nofun, nofun, List.nodup_nil⟩

theorem Inv.started {request : StartRequest} (inv : s.Inv rt config)
    (assumed : s.Assumed rt config (.start request)) :
    (s.started rt config request).Inv rt config := by
  unfold SignIns.started
  cases begun : startAppAuth rt config request with
  | error e => exact inv
  | ok redirect =>
    have later {P : StartRequest → Prop} (before : ∃ start ∈ s.starts, P start) :
        ∃ start ∈ request :: s.starts, P start :=
      let ⟨start, mem, holds⟩ := before
      ⟨start, List.mem_cons_of_mem request mem, holds⟩
    refine ⟨?_, inv.visitors, fun r e mem => later (inv.pending r e mem), inv.spent,
      inv.safe.own, fun i mem => later (inv.safe.completes i mem), inv.safe.once⟩
    intro start mem
    obtain rfl | mem := List.mem_cons.mp mem
    · exact ⟨⟨redirect, begun⟩, assumed⟩
    · exact inv.starts start mem

theorem Inv.visited {hostHeader : String} {cookie : Option String} {draw : Draw}
    (inv : s.Inv rt config) : (s.visited rt config hostHeader cookie draw).Inv rt config := by
  unfold SignIns.visited
  cases known : appHost rt config hostHeader with
  | none => exact inv
  | some host =>
    dsimp only
    split
    next =>
      refine ⟨inv.starts, ?_, inv.pending, inv.spent, inv.safe.own, inv.safe.completes,
        inv.safe.once⟩
      intro host' draw' mem
      obtain same | mem := List.mem_cons.mp mem
      · cases same
        exact ⟨hostHeader, known⟩
      · exact inv.visitors host' draw' mem
    next => exact inv

theorem Inv.presented (inv : s.Inv rt config) (assumed : s.Assumed rt config (.present request)) :
    (s.presented rt config request).Inv rt config := by
  unfold SignIns.presented
  cases presented : presentAppAuth rt config request with
  | error e => exact inv
  | ok exchange =>
    have completes := completes_of_presents inv assumed (present_ok presented)
    refine ⟨inv.starts, inv.visitors, ?_, inv.spent, inv.safe.own, inv.safe.completes,
      inv.safe.once⟩
    intro request' exchange' mem
    obtain same | mem := List.mem_cons.mp mem
    · cases same
      exact completes
    · exact inv.pending request' exchange' mem

theorem finish_ok {exchange : Exchange} {answer : Except HttpError Payload} {redirect : Redirect}
    (finished : finishAppAuth rt exchange answer = .ok redirect) : answer.isOk = true ∧
      ∃ returnTo, field? exchange.transaction "return_to" = some returnTo ∧
        redirect.location = rt.location (pyStr rt returnTo) := by
  unfold finishAppAuth at finished
  split at finished
  next => cases finished
  next =>
    split at finished
    next =>
      split at finished
      next => cases finished
      next returnTo held =>
        cases finished
        exact ⟨rfl, returnTo, held, rfl⟩
    next => cases finished

theorem Inv.settled {i : Nat} {answer : Except HttpError Payload}
    (inv : s.Inv rt config) (assumed : s.Assumed rt config (.settle i answer)) :
    (s.settled rt i answer).Inv rt config := by
  unfold SignIns.settled
  cases found : s.pending[i]? with
  | none => exact inv
  | some asked =>
    obtain ⟨request, exchange⟩ := asked
    have pending : ∀ request exchange, (request, exchange) ∈ s.pending.eraseIdx i →
        ∃ start ∈ s.starts, Completes rt config request exchange start :=
      fun r e mem => inv.pending r e (List.eraseIdx_subset mem)
    have kept {code : String} (mem : code ∈ s.exchanged) :
        code ∈ s.spent exchange.code answer := by
      cases answer with
      | error e => exact mem
      | ok result => exact List.mem_cons_of_mem _ mem
    dsimp only
    cases finished : finishAppAuth rt exchange answer with
    | error e =>
      exact ⟨inv.starts, inv.visitors, pending, fun i mem => kept (inv.spent i mem),
        inv.safe.own, inv.safe.completes, inv.safe.once⟩
    | ok redirect =>
      obtain ⟨good, returnTo, held, location⟩ := finish_ok finished
      obtain ⟨start, mem, completes⟩ :=
        inv.pending request exchange (List.mem_of_getElem? found)
      have unspent := assumed request exchange found good
      rw [completes.exchange] at held
      cases held
      obtain ⟨_, begun, _⟩ := completes.signed
      obtain ⟨_, _, path, _⟩ := start_ok begun
      refine ⟨inv.starts, inv.visitors, pending, ?_, ?_, ?_, ?_⟩
      · intro issued mem
        obtain rfl | mem := List.mem_cons.mp mem
        · cases answer with
          | error e => cases good
          | ok result => exact List.mem_cons_self
        · exact kept (inv.spent issued mem)
      · intro issued mem
        obtain rfl | mem := List.mem_cons.mp mem
        · dsimp only
          rw [location]
          exact target_location path
        · exact inv.safe.own issued mem
      · intro issued member
        obtain rfl | member := List.mem_cons.mp member
        · exact ⟨start, mem, completes, location⟩
        · exact inv.safe.completes issued member
      · rw [List.map_cons, List.nodup_cons]
        refine ⟨?_, inv.safe.once⟩
        intro before
        obtain ⟨issued, mem, same⟩ := List.mem_map.mp before
        have taken := inv.spent issued mem
        rw [same] at taken
        exact unspent taken

theorem inv_step {turn : GatewayTurn} (inv : s.Inv rt config)
    (assumed : s.Assumed rt config turn) : (s.step rt config turn).Inv rt config := by
  cases turn with
  | start request => exact inv.started assumed
  | visit hostHeader cookie draw => exact inv.visited
  | present request => exact inv.presented assumed
  | settle i answer => exact inv.settled assumed

end SignIns

theorem signIn_stays {turns : List GatewayTurn}
    (assumed : AllSteps (SignIns.step rt config) (SignIns.Assumed rt config) {} turns) :
    Always (SignIns.step rt config) (SignIns.Safe rt config) {} turns :=
  AllSteps.always (I := SignIns.Inv rt config) (fun _ inv => inv.safe)
    (fun _ _ inv good => SignIns.inv_step inv good) SignIns.Inv.empty assumed

end Gateway

def signedText : Bytes :=
  ("\x7b\"expires_at\":1700000300.0,\"host\":\"notes.apps.io\"," ++
    "\"redirect_uri\":\"https://notes.apps.io/__orcheo/auth/callback\"," ++
    "\"return_to\":\"/\\\\evil.io\",\"state\":\"st4te\",\"verifier\":\"v3r1f1er\"\x7d"
    ).toList.map (fun c => UInt8.ofNat c.toNat)

def signedPayload : Payload :=
  [("expires_at", .float 4744917126052052992), ("host", .str "notes.apps.io"),
    ("redirect_uri", .str "https://notes.apps.io/__orcheo/auth/callback"),
    ("return_to", .str "/\\evil.io"), ("state", .str "st4te"), ("verifier", .str "v3r1f1er")]

theorem toLower_uncapital (c : Char) : ¬('A' ≤ c.toLower ∧ c.toLower ≤ 'Z') := by
  unfold Char.toLower
  split
  next capital =>
    rintro ⟨_, below⟩
    have high : (c.val + ('a'.val - 'A'.val)).toNat ≤ 90 := below
    have low : 65 ≤ c.val.toNat := capital.1
    have top : c.val.toNat ≤ 90 := capital.2
    have apart : ('a'.val - 'A'.val).toNat = 32 := rfl
    rw [UInt32.toNat_add, apart] at high
    omega
  next other => exact other

def notesRuntime : GatewayRuntime where
  toTextRuntime := Repository.TextRuntime.ascii
  lower_uncapital s c mem := by
    obtain ⟨d, _, rfl⟩ := List.mem_map.mp (by simpa [Repository.TextRuntime.ascii] using mem)
    exact toLower_uncapital d
  isdigit s := s.toList.all Char.isDigit
  sha256 _ := [17, 73, 108, 232, 213, 219, 6, 165, 210, 233, 237, 80, 231, 221, 218, 233, 175,
    158, 21, 191, 42, 5, 19, 90, 150, 183, 181, 22, 104, 49, 154, 122]
  hexdigest _ := "11496ce8d5db06a5d2e9ed50e7dddae9af9e15bf2a05135a96b7b51668319a7a"
  hmac _ _ := "f694a42399e64ddc245ca781b2e20f3cdd737b2692be2879531d83ccdac4d49a"
  dumps payload := if payload = signedPayload then signedText else []
  loads bytes := if bytes = signedText then some (.obj signedPayload) else none
  loads_object bytes payload loaded _ := by
    split at loaded
    next same =>
      cases loaded
      exact ⟨"expires_at", signedText.take 12, 58, signedText.drop 14,
        same.trans (by decide +kernel), by decide, by decide +kernel⟩
    next => cases loaded
  str _ := ""
  number t := if t = 1700000300000000 then .float 4744917126052052992 else .null
  float value := if value = .float 4744917126052052992 then some 1700000300000000 else none
  urlencode _ := "host=notes.apps.io" ++
    "&redirect_uri=https%3A%2F%2Fnotes.apps.io%2F__orcheo%2Fauth%2Fcallback" ++
    "&code_challenge=EUls6NXbBqXS6e1Q593a6a-eFb8qBRNalre1Fmgxmno" ++
    "&state=st4te"
  location url := ofList (quote redirectSafe url.toList)
  location_quotes _ := rfl

def notesConfig : GatewayConfig :=
  { baseDomain := "apps.io", backendUrl := "http://backend:8000",
    gatewaySecret := "gateway-secret", studioUrl := "https://studio.io" }

def notesStart : StartRequest :=
  { hostHeader := "Notes.apps.io", returnTo := "/\\evil.io",
    descriptor := .ok (some [("state", .str "active")]),
    verifier := "v3r1f1er",
    state := "st4te", now := 1700000000000000 }

def notesFinish : FinishRequest :=
  { hostHeader := "notes.apps.io:443",
    cookie := some (encodeAuthTransaction notesRuntime notesConfig signedPayload),
    code := "c0de", state := "st4te", now := 1700000299000000 }

def notesTurns : List GatewayTurn :=
  [.start notesStart, .present notesFinish, .settle 0 (.ok [("session_secret", .str "s3cret")])]

theorem notes_host :
    appHost notesRuntime notesConfig "Notes.apps.io" = some "notes.apps.io" := by
  decide +kernel

theorem notes_begun :
    ∃ redirect, startAppAuth notesRuntime notesConfig notesStart = .ok redirect := by
  have good : (startAppAuth notesRuntime notesConfig notesStart).isOk = true := by decide +kernel
  cases begun : startAppAuth notesRuntime notesConfig notesStart with
  | error e =>
    rw [begun] at good
    cases good
  | ok redirect => exact ⟨redirect, rfl⟩

theorem notes_payload :
    startPayload notesRuntime notesStart "notes.apps.io" = signedPayload := by
  decide +kernel

theorem notes_assumed : AllSteps (SignIns.step notesRuntime notesConfig)
    (SignIns.Assumed notesRuntime notesConfig) {} notesTurns := by
  refine ⟨⟨by decide +kernel, ?_⟩, ?_, ?_, trivial⟩
  · intro host known
    have same := Option.some.inj (known.symm.trans notes_host)
    rw [same, notes_payload]
    decide +kernel
  · intro encoded signature split _
    obtain ⟨redirect, begun⟩ := notes_begun
    refine Or.inl ⟨notesStart, ?_, "notes.apps.io", notes_host, ?_⟩
    · show notesStart ∈ (SignIns.started notesRuntime notesConfig {} notesStart).starts
      unfold SignIns.started
      rw [begun]
      exact List.mem_cons_self
    · have signed : rsplit '.' (encodeAuthTransaction notesRuntime notesConfig signedPayload) =
          some (encodedPayload notesRuntime signedPayload, notesRuntime.hmac "" "") :=
        rsplit_append (by decide)
      rw [notes_payload]
      exact (congrArg Prod.fst (Option.some.inj (signed.symm.trans split))).symm
  · intro request exchange _ _
    show exchange.code ∉ (SignIns.presented notesRuntime notesConfig
      (SignIns.started notesRuntime notesConfig {} notesStart) notesFinish).exchanged
    rw [SignIns.presented_exchanged, SignIns.started_exchanged]
    exact List.not_mem_nil

theorem signIn_stays_notes :
    Always (SignIns.step notesRuntime notesConfig) (SignIns.Safe notesRuntime notesConfig) {}
      notesTurns :=
  signIn_stays notesRuntime notesConfig notes_assumed

end Orcheo.AppGateway
