import Orcheo.Lib.Run

/-! Books of answers that are kept for repeated requests until they expire.  An answer is told
from others by a token that is drawn for it. -/

universe u v w x

namespace Orcheo.Lib

structure Entry (R : Type u) (T : Type v) (I : Type w) where
  request : R
  token : T
  expires : I

abbrev Book (K : Type x) (R : Type u) (T : Type v) (I : Type w) := K → Option (Entry R T I)

/-- When an operation takes place, and the key and the token that it may write. -/
structure Move (K : Type x) (T : Type v) (I : Type w) where
  now : I
  draw : Option (K × T) := none

namespace Book

variable {K : Type x} {R : Type u} {T : Type v} {I : Type w}

/-- An operation forgets only what has expired and writes only what it draws. -/
structure Advance [LT I] (b : Book K R T I) (m : Move K T I) (b' : Book K R T I) : Prop where
  retains : ∀ k e, b k = some e → m.now < e.expires → b' k = some e
  origin : ∀ k e, b' k = some e → b k = some e ∨ m.draw = some (k, e.token)

def empty : Book K R T I := fun _ => none

def drawn (ms : List (Move K T I)) : List T := ms.filterMap (fun m => m.draw.map Prod.snd)

/-- The tokens of a book were drawn, each for one key. -/
structure Tokens (used : List T) (b : Book K R T I) : Prop where
  used : ∀ k e, b k = some e → e.token ∈ used
  single : ∀ k k' e e', b k = some e → b k' = some e' → e.token = e'.token → k = k'

variable {b b' : Book K R T I} {ms ms' : List (Move K T I)} {used : List T}

theorem drawn_cons (m : Move K T I) : drawn (m :: ms) = drawn [m] ++ drawn ms := by
  rw [drawn, drawn, drawn, ← List.filterMap_append, List.singleton_append]

theorem Tokens.empty : Tokens used (empty : Book K R T I) := by
  constructor
  case used => intro k e stored; cases stored
  case single => intro k k' e e' stored; cases stored

variable [LT I]

theorem Advance.same (m : Move K T I) : Advance b m b where
  retains _ _ stored _ := stored
  origin _ _ stored := Or.inl stored

theorem Tokens.advance {m : Move K T I} (tokens : Tokens used b) (adv : Advance b m b')
    (fresh : ∀ t ∈ drawn [m], t ∉ used) : Tokens (used ++ drawn [m]) b' := by
  have new {k : K} {e : Entry R T I} (written : m.draw = some (k, e.token)) :
      e.token ∈ drawn [m] := by
    simp [drawn, written]
  constructor
  case used =>
    intro k e stored
    cases adv.origin k e stored with
    | inl old => exact List.mem_append_left _ (tokens.used k e old)
    | inr written => exact List.mem_append_right _ (new written)
  case single =>
    intro k k' e e' stored stored' same
    cases adv.origin k e stored with
    | inl old =>
      cases adv.origin k' e' stored' with
      | inl old' => exact tokens.single k k' e e' old old' same
      | inr written' =>
        have reused := tokens.used k e old
        rw [same] at reused
        exact absurd reused (fresh _ (new written'))
    | inr written =>
      cases adv.origin k' e' stored' with
      | inl old' =>
        have reused := tokens.used k' e' old'
        rw [← same] at reused
        exact absurd reused (fresh _ (new written))
      | inr written' =>
        rw [written, Option.some.injEq, Prod.mk.injEq] at written'
        exact written'.1

theorem Tokens.run (run : Run Advance b ms b') (tokens : Tokens used b)
    (fresh : (used ++ drawn ms).Nodup) : Tokens (used ++ drawn ms) b' := by
  induction run generalizing used with
  | nil => simpa [drawn] using tokens
  | @cons b m b₁ ms b' adv _ ih =>
    rw [drawn_cons, ← List.append_assoc] at fresh ⊢
    have first : (used ++ drawn [m]).Nodup := (List.nodup_append.mp fresh).1
    apply ih _ fresh
    apply tokens.advance adv
    intro t new old
    exact (List.nodup_append.mp first).2.2 t old t new rfl

theorem Advance.retained (run : Run Advance b ms b') {k : K} {e : Entry R T I}
    (stored : b k = some e) (early : ∀ m ∈ ms, m.now < e.expires) : b' k = some e := by
  induction run with
  | nil => exact stored
  | cons adv _ ih =>
    apply ih
    case stored => exact adv.retains k e stored (early _ List.mem_cons_self)
    case early => exact fun m mem => early m (List.mem_cons_of_mem _ mem)

theorem Advance.owned (run : Run Advance b ms b') {k : K} {t : T} (undrawn : t ∉ drawn ms)
    (owned : ∀ k' e, b k' = some e → e.token = t → k' = k) {k' : K} {e : Entry R T I}
    (stored : b' k' = some e) (token : e.token = t) : k' = k := by
  induction run with
  | nil => exact owned k' e stored token
  | @cons b m b₁ ms b' adv _ ih =>
    rw [drawn_cons, List.mem_append, not_or] at undrawn
    apply ih undrawn.2 _ stored
    intro k'' e' stored' token'
    cases adv.origin k'' e' stored' with
    | inl old => exact owned k'' e' old token'
    | inr written =>
      have drawnNow : t ∈ drawn [m] := by simp [drawn, written, token']
      exact absurd drawnNow undrawn.1

theorem key_of_token (first : Run Advance empty ms b) (later : Run Advance b ms' b')
    (fresh : (drawn ms ++ drawn ms').Nodup) {k k' : K} {e e' : Entry R T I}
    (stored : b k = some e) (stored' : b' k' = some e') (same : e'.token = e.token) : k' = k := by
  have tokens : Tokens ([] ++ drawn ms) b := Tokens.run first Tokens.empty (List.nodup_append.mp fresh).1
  have mem : e.token ∈ drawn ms := tokens.used k e stored
  apply Advance.owned later _ _ stored' same
  · intro again
    exact (List.nodup_append.mp fresh).2.2 _ mem _ again rfl
  · intro k'' e'' stored'' token
    exact tokens.single k'' k e'' e stored'' stored token

end Book

end Orcheo.Lib
