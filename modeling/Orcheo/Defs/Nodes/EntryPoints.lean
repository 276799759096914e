import Orcheo.Defs.Nodes.Decoding

/-! The two entry points resolve the fields of a node alike, a value without templates stays the
object it is, and a container changes at its templates only. -/

namespace Orcheo.Nodes

open Sandbox (Text CredentialReference Piece)
open Lib.Dict (lookup lookup_eq_none_iff lookup_eq_some_iff mem_of_lookup)

section Steps

variable {α β : Type} {x : Decode α} {f : α → Decode β} {n m : Nat}

theorem bind_ok {b : β} : (x >>= f) n = .ok (b, m) ↔
    ∃ a k, x n = .ok (a, k) ∧ f a k = .ok (b, m) := by
  change (do let (a, k) ← x n; f a k) = _ ↔ _
  cases x n with
  | error e =>
    constructor
    · intro h
      cases h
    · rintro ⟨_, _, ⟨⟩, _⟩
  | ok r =>
    constructor
    · intro h
      exact ⟨r.1, r.2, rfl, h⟩
    · rintro ⟨_, _, ⟨⟩, h⟩
      exact h

theorem bind_of_ok {a : α} {k : Nat} (h : x n = .ok (a, k)) : (x >>= f) n = f a k := by
  change (do let (a, k) ← x n; f a k) = _
  rw [h]
  rfl

theorem bind_of_error {e : DecodeError} (h : x n = .error e) : (x >>= f) n = .error e := by
  change (do let (a, k) ← x n; f a k) = _
  rw [h]
  rfl

theorem pure_ok {a b : α} : (pure a : Decode α) n = .ok (b, m) ↔ a = b ∧ n = m := by
  change (.ok (a, n) : Except DecodeError (α × Nat)) = _ ↔ _
  simp

end Steps

def Leaf.isTemplate (rt : Runtime) : Leaf → Bool
  | .reference _ => true
  | .str s => (Sandbox.parseCredentialReference rt.text s).isSome ||
      (Sandbox.containsTemplate s && ((Sandbox.singleTemplate rt.text s).isSome ||
        (Sandbox.pieces s).any Piece.isTemplate))
  | _ => false

mutual
def Obj.plain (rt : Runtime) : Obj → Bool
  | .leaf _ l => !l.isTemplate rt
  | .node _ _ items => plainItems rt items

def plainItems (rt : Runtime) : Items → Bool
  | [] => true
  | (_, x) :: items => x.plain rt && plainItems rt items
end

def Container.nested : Container → Bool
  | .model _ | .mapping .dict | .list | .tuple => true
  | _ => false

mutual
def Obj.nested : Obj → Bool
  | .leaf _ _ => true
  | .node _ kind items => kind.nested && nestedItems items

def nestedItems : Items → Bool
  | [] => true
  | (_, x) :: items => x.nested && nestedItems items
end

section Plain

variable {rt : Runtime} {state : Fields}

theorem anyChanged_self (items : Items) : anyChanged items items = false := by
  induction items with
  | nil => rfl
  | cons item items ih => simp [anyChanged, ih]

theorem copyOnWrite_self (value : Obj) (items : Items) (rebuild : Items → Decode Obj) :
    copyOnWrite value items items rebuild = pure value := by
  rw [copyOnWrite, anyChanged_self]
  rfl

theorem decodeContainer_self (value : Obj) (items : Items) (kind : Container) :
    decodeContainer rt value items items kind = pure value := by
  cases kind with
  | set frozen =>
    cases frozen with
    | true => exact copyOnWrite_self _ _ _
    | false => exact copyOnWrite_self _ _ _
  | _ => exact copyOnWrite_self _ _ _

theorem decodeStringValue_plain {ident : Nat} {s : Text}
    (plain : (Leaf.str s).isTemplate rt = false) :
    decodeStringValue rt state ident s = pure (.leaf ident (.str s)) := by
  rw [Leaf.isTemplate, Bool.or_eq_false_iff] at plain
  obtain ⟨noReference, noTemplate⟩ := plain
  unfold decodeStringValue
  cases reference : Sandbox.parseCredentialReference rt.text s with
  | some r => simp [reference] at noReference
  | none =>
    dsimp only
    split
    next => rfl
    next contains =>
      simp only [Bool.not_eq_false] at contains
      rw [contains, Bool.true_and, Bool.or_eq_false_iff] at noTemplate
      obtain ⟨noSingle, noPiece⟩ := noTemplate
      cases single : Sandbox.singleTemplate rt.text s with
      | some path => simp [single] at noSingle
      | none =>
        dsimp only
        rw [embedded]
        simp only [noPiece, Bool.false_eq_true, if_false]

theorem decodeLeaf_plain {ident : Nat} {l : Leaf} (plain : l.isTemplate rt = false) :
    decodeValue rt state (.leaf ident l) = pure (.leaf ident l) := by
  cases l with
  | reference r => cases plain
  | str s =>
    rw [decodeValue]
    exact decodeStringValue_plain plain
  | none | bool | int | float | other => rfl

mutual
theorem decodeValue_plain : ∀ (v : Obj), v.plain rt → decodeValue rt state v = pure v
  | .leaf ident l, plain => decodeLeaf_plain (by simpa [Obj.plain] using plain)
  | .node ident kind items, plain => by
    rw [Obj.plain] at plain
    rw [decodeValue, decodeItems_plain items plain, pure_bind, decodeContainer_self]

theorem decodeItems_plain : ∀ (items : Items), plainItems rt items →
    decodeItems rt state items = pure items
  | [], _ => rfl
  | (slot, x) :: items, plain => by
    rw [plainItems, Bool.and_eq_true] at plain
    rw [decodeItems, decodeValue_plain x plain.1, pure_bind, decodeItems_plain items plain.2,
      pure_bind]
end

end Plain

/-- A node, the state and the objects that are there: no two of them have one identity, and
those from `next` on are free. -/
structure Scene where
  rt : Runtime
  node : Runnable
  state : Fields
  live : Obj → Prop
  next : Nat
  below : ∀ a, live a → a.ident < next
  same : ∀ a b, live a → live b → a.ident = b.ident → a = b
  parts : ∀ ident kind items, live (.node ident kind items) → ∀ e ∈ items, live e.2
  fields : ∀ e ∈ node.fields, live e.2
  inState : ∀ e ∈ state, live e.2
  attributes : ∀ cls name a, rt.attr cls name = some a → live a
  credentials : ∀ r a, rt.resolve r = .ok a → live a

namespace Scene

variable (sc : Scene)

theorem live_lookup {K : Type} [DecidableEq K] {k : K} {es : List (K × Obj)} {a : Obj}
    (entries : ∀ e ∈ es, sc.live e.2) (found : lookup k es = some a) : sc.live a :=
  entries _ (mem_of_lookup found)

theorem member_live {value next : Obj} {part : Text} (there : sc.live value)
    (found : value.member sc.rt part = some next) : sc.live next := by
  cases value with
  | leaf => cases found
  | node ident kind fields =>
    have items := sc.parts _ _ _ there
    cases kind with
    | model cls =>
      cases field : lookup (Slot.field part) fields with
      | some a =>
        rw [Obj.member, field] at found
        exact sc.live_lookup items (field.trans found)
      | none =>
        rw [Obj.member, field] at found
        exact sc.attributes _ _ _ found
    | mapping kind =>
      cases kind with
      | other => cases found
      | dict | subclass => exact sc.live_lookup items found
    | list | tuple | set => cases found

theorem followPath_live {path : List Text} {value target : Obj} (there : sc.live value)
    (found : followPath sc.rt value path = some target) : sc.live target := by
  induction path generalizing value with
  | nil =>
    cases found
    exact there
  | cons part path ih =>
    rw [followPath] at found
    cases step : value.member sc.rt part with
    | none => simp [step] at found
    | some next =>
      rw [step] at found
      exact ih (sc.member_live there step) found

theorem fallback_live {part : Text} {a : Obj}
    (found : fallbackToNodeResults sc.state part = some a) : sc.live a := by
  unfold fallbackToNodeResults at found
  split at found
  next => cases found
  next =>
    split at found
    next => cases found
    next items _ results =>
      have there := sc.live_lookup sc.inState results
      split at found
      next => cases found
      next => exact sc.live_lookup (sc.parts _ _ _ there) found
    next => cases found

theorem path_live {path : Text} {a : Obj}
    (found : resolveStateTemplatePath sc.rt sc.state path = some a) : sc.live a := by
  unfold resolveStateTemplatePath at found
  split at found
  next => cases found
  next part rest _ =>
    cases first : lookup part sc.state with
    | some value =>
      rw [first] at found
      exact sc.followPath_live (sc.live_lookup sc.inState first) found
    | none =>
      rw [first, Option.none_or] at found
      cases fallback : fallbackToNodeResults sc.state part with
      | none => simp [fallback] at found
      | some value =>
        rw [fallback] at found
        exact sc.followPath_live (sc.fallback_live fallback) found

/-- What comes out of a step: an object that was there, or a new one. -/
def Gives (n : Nat) (d : Obj) (m : Nat) : Prop := n ≤ m ∧ (sc.live d ∨ n ≤ d.ident)

variable {sc} {n m : Nat} {d : Obj}

theorem gives_reference {r : CredentialReference}
    (resolved : resolveCredentialReference sc.rt r n = .ok (d, m)) : sc.Gives n d m := by
  unfold resolveCredentialReference at resolved
  cases answered : sc.rt.resolve r with
  | ok value =>
    rw [answered] at resolved
    obtain ⟨rfl, rfl⟩ := pure_ok.mp resolved
    exact ⟨le_rfl, .inl (sc.credentials _ _ answered)⟩
  | error e =>
    rw [answered] at resolved
    cases resolved

theorem gives_nested {value : Obj} (there : sc.live value)
    (resolved : resolveNestedCredentialString sc.rt value n = .ok (d, m)) : sc.Gives n d m := by
  unfold resolveNestedCredentialString at resolved
  cases placeholder : value.text.bind (Sandbox.parseCredentialReference sc.rt.text) with
  | none =>
    rw [placeholder] at resolved
    obtain ⟨rfl, rfl⟩ := pure_ok.mp resolved
    exact ⟨le_rfl, .inl there⟩
  | some reference =>
    rw [placeholder] at resolved
    exact gives_reference resolved

theorem replace_count {body text : Text}
    (replaced : replace sc.rt sc.state body n = .ok (text, m)) :
    n ≤ m := by
  unfold replace at replaced
  cases found : resolveStateTemplatePath sc.rt sc.state (Sandbox.strip sc.rt.text body) with
  | none =>
    rw [found] at replaced
    exact (pure_ok.mp replaced).2.le
  | some value =>
    rw [found] at replaced
    obtain ⟨resolved, k, nested, shown⟩ := bind_ok.mp replaced
    exact (gives_nested (sc.path_live found) nested).1.trans (pure_ok.mp shown).2.le

theorem substitute_count {pieces : List Piece} {text : Text}
    (substituted : substitute sc.rt sc.state pieces n = .ok (text, m)) : n ≤ m := by
  induction pieces generalizing n m text with
  | nil => exact (pure_ok.mp substituted).2.le
  | cons piece pieces ih =>
    cases piece with
    | char c =>
      obtain ⟨rest, k, later, joined⟩ := bind_ok.mp substituted
      exact (ih later).trans (pure_ok.mp joined).2.le
    | template body =>
      obtain ⟨replaced, k, first, substituted⟩ := bind_ok.mp substituted
      obtain ⟨rest, l, later, joined⟩ := bind_ok.mp substituted
      exact ((replace_count first).trans (ih later)).trans (pure_ok.mp joined).2.le

theorem gives_string {ident : Nat} {s : Text} (there : sc.live (.leaf ident (.str s)))
    (decoded : decodeStringValue sc.rt sc.state ident s n = .ok (d, m)) : sc.Gives n d m := by
  have kept (decoded : (pure (.leaf ident (.str s)) : Decode Obj) n = .ok (d, m)) :
      sc.Gives n d m := by
    obtain ⟨rfl, rfl⟩ := pure_ok.mp decoded
    exact ⟨le_rfl, .inl there⟩
  unfold decodeStringValue at decoded
  cases reference : Sandbox.parseCredentialReference sc.rt.text s with
  | some r =>
    rw [reference] at decoded
    exact gives_reference decoded
  | none =>
    rw [reference] at decoded
    dsimp only at decoded
    by_cases template : Sandbox.containsTemplate s = false
    · rw [if_pos template] at decoded
      exact kept decoded
    · rw [if_neg template] at decoded
      cases single : Sandbox.singleTemplate sc.rt.text s with
      | some path =>
        rw [single] at decoded
        cases found : resolveStateTemplatePath sc.rt sc.state path with
        | none =>
          simp only [found] at decoded
          exact kept decoded
        | some value =>
          simp only [found] at decoded
          exact gives_nested (sc.path_live found) decoded
      | none =>
        rw [single] at decoded
        simp only [embedded] at decoded
        split at decoded
        next =>
          obtain ⟨text, k, substituted, allocated⟩ := bind_ok.mp decoded
          cases allocated
          have count := substitute_count substituted
          exact ⟨count.trans (Nat.le_succ k), .inr count⟩
        next => exact kept decoded

theorem gives_leaf {ident : Nat} {l : Leaf} (there : sc.live (.leaf ident l))
    (decoded : decodeValue sc.rt sc.state (.leaf ident l) n = .ok (d, m)) : sc.Gives n d m := by
  cases l with
  | reference r => exact gives_reference decoded
  | str s =>
    rw [decodeValue] at decoded
    exact gives_string there decoded
  | none | bool | int | float | other =>
    obtain ⟨rfl, rfl⟩ := pure_ok.mp decoded
    exact ⟨le_rfl, .inl there⟩

theorem decodeContainer_ok {rt : Runtime} {value : Obj} {items decoded : Items} {kind : Container}
    (rebuilt : decodeContainer rt value items decoded kind n = .ok (d, m)) :
    (anyChanged items decoded = false ∧ d = value ∧ m = n) ∨
      (m = n + 1 ∧ ∃ kind' items', d = .node n kind' items' ∧
        (kind.nested = true → kind' = kind ∧ items' = decoded)) := by
  have cases_of {rebuild : Items → Decode Obj}
      (rebuilt : copyOnWrite value items decoded rebuild n = .ok (d, m)) :
      (anyChanged items decoded = false ∧ d = value ∧ m = n) ∨ rebuild decoded n = .ok (d, m) := by
    unfold copyOnWrite at rebuilt
    by_cases changed : anyChanged items decoded = true
    · rw [if_pos changed] at rebuilt
      exact .inr rebuilt
    · rw [if_neg changed] at rebuilt
      obtain ⟨rfl, rfl⟩ := pure_ok.mp rebuilt
      exact .inl ⟨by simpa using changed, rfl, rfl⟩
  have set_of {frozen : Bool} (built : newSet rt frozen decoded n = .ok (d, m)) :
      m = n + 1 ∧ ∃ kind' items', d = .node n kind' items' := by
    unfold newSet at built
    cases kept : rt.distinct decoded with
    | none =>
      rw [kept] at built
      cases built
    | some items' =>
      rw [kept] at built
      cases built
      exact ⟨rfl, _, _, rfl⟩
  cases kind with
  | set frozen =>
    cases frozen with
    | true =>
      refine (cases_of rebuilt).imp id fun built => ?_
      obtain ⟨count, kind', items', same⟩ := set_of built
      exact ⟨count, kind', items', same, nofun⟩
    | false =>
      refine (cases_of rebuilt).imp id fun built => ?_
      obtain ⟨count, kind', items', same⟩ := set_of built
      exact ⟨count, kind', items', same, nofun⟩
  | mapping kind =>
    refine (cases_of rebuilt).imp id fun built => ?_
    cases built
    refine ⟨rfl, _, _, rfl, fun nested => ?_⟩
    cases kind with
    | dict => exact ⟨rfl, rfl⟩
    | subclass | other => cases nested
  | model | list | tuple =>
    refine (cases_of rebuilt).imp id fun built => ?_
    cases built
    exact ⟨rfl, _, _, rfl, fun _ => ⟨rfl, rfl⟩⟩

theorem Gives.same {sc : Scene} {n m : Nat} {v d : Obj} (there : sc.live v) (free : sc.next ≤ n)
    (gives : sc.Gives n d m) (same : d.ident = v.ident) : d = v := by
  cases gives.2 with
  | inl live => exact sc.same d v live there same
  | inr new =>
    have := sc.below v there
    omega

mutual
theorem gives_value : ∀ (v : Obj) {n m : Nat} {d : Obj}, sc.live v → sc.next ≤ n →
    decodeValue sc.rt sc.state v n = .ok (d, m) → sc.Gives n d m
  | .leaf _ _, _, _, _, there, _, decoded => gives_leaf there decoded
  | .node ident kind items, _, _, _, there, free, decoded => by
    rw [decodeValue] at decoded
    obtain ⟨decodedItems, k, parts, rebuilt⟩ := bind_ok.mp decoded
    obtain ⟨count, _⟩ := gives_items items (sc.parts _ _ _ there) free parts
    rcases decodeContainer_ok rebuilt with ⟨_, rfl, rfl⟩ | ⟨rfl, _, _, rfl, _⟩
    · exact ⟨count, .inl there⟩
    · exact ⟨count.trans (Nat.le_succ _), .inr count⟩

theorem gives_items : ∀ (items : Items) {n m : Nat} {decoded : Items},
    (∀ e ∈ items, sc.live e.2) → sc.next ≤ n → decodeItems sc.rt sc.state items n = .ok
    (decoded, m) →
      n ≤ m ∧ (anyChanged items decoded = false → decoded = items)
  | [], _, _, _, _, _, decoded => by
    obtain ⟨rfl, rfl⟩ := pure_ok.mp decoded
    exact ⟨le_rfl, fun _ => rfl⟩
  | (slot, x) :: items, n, _, _, there, free, decoded => by
    obtain ⟨here, later⟩ := List.forall_mem_cons.mp there
    rw [decodeItems] at decoded
    obtain ⟨y, k, first, decoded⟩ := bind_ok.mp decoded
    obtain ⟨ys, l, rest, joined⟩ := bind_ok.mp decoded
    obtain ⟨rfl, rfl⟩ := pure_ok.mp joined
    have gives := gives_value x here free first
    obtain ⟨count, unchanged⟩ := gives_items items later (free.trans gives.1) rest
    refine ⟨gives.1.trans count, fun same => ?_⟩
    rw [anyChanged, Bool.or_eq_false_iff] at same
    rw [gives.same here free (by simpa using same.1), unchanged same.2]
end

end Scene

mutual
/-- The one value becomes the other: each template what it resolves to, everything else itself,
and each container one of the same kind with what its items become in the same places. -/
def Resolved (rt : Runtime) (state : Fields) : Obj → Obj → Prop
  | .leaf ident l, d =>
    if l.isTemplate rt then ∃ n m, decodeValue rt state (.leaf ident l) n = .ok (d, m)
    else d = .leaf ident l
  | .node _ kind items, .node _ kind' items' => kind' = kind ∧ ResolvedItems rt state items items'
  | .node _ _ _, .leaf _ _ => False

def ResolvedItems (rt : Runtime) (state : Fields) : Items → Items → Prop
  | [], [] => True
  | (slot, x) :: items, (slot', y) :: items' =>
    slot' = slot ∧ Resolved rt state x y ∧ ResolvedItems rt state items items'
  | _, _ => False
end

namespace Scene

variable {sc : Scene}

mutual
theorem resolved_value : ∀ (v : Obj) {n m : Nat} {d : Obj}, v.nested → sc.live v → sc.next ≤ n →
    decodeValue sc.rt sc.state v n = .ok (d, m) → Resolved sc.rt sc.state v d
  | .leaf ident l, n, m, d, _, _, _, decoded => by
    rw [Resolved]
    by_cases template : l.isTemplate sc.rt = true
    · rw [if_pos template]
      exact ⟨n, m, decoded⟩
    · rw [if_neg template]
      rw [decodeLeaf_plain (by simpa using template)] at decoded
      exact (pure_ok.mp decoded).1.symm
  | .node ident kind items, n, m, d, nested, there, free, decoded => by
    rw [Obj.nested, Bool.and_eq_true] at nested
    rw [decodeValue] at decoded
    obtain ⟨decodedItems, k, parts, rebuilt⟩ := bind_ok.mp decoded
    have resolved := resolved_items items nested.2 (sc.parts _ _ _ there) free parts
    rcases decodeContainer_ok rebuilt with ⟨unchanged, rfl, rfl⟩ | ⟨_, _, _, rfl, keeps⟩
    · rw [(gives_items items (sc.parts _ _ _ there) free parts).2 unchanged] at resolved
      rw [Resolved]
      exact ⟨rfl, resolved⟩
    · obtain ⟨rfl, rfl⟩ := keeps nested.1
      rw [Resolved]
      exact ⟨rfl, resolved⟩

theorem resolved_items : ∀ (items : Items) {n m : Nat} {decoded : Items}, nestedItems items →
    (∀ e ∈ items, sc.live e.2) → sc.next ≤ n → decodeItems sc.rt sc.state items n = .ok
    (decoded, m) →
      ResolvedItems sc.rt sc.state items decoded
  | [], _, _, _, _, _, _, decoded => by
    obtain ⟨rfl, rfl⟩ := pure_ok.mp decoded
    rw [ResolvedItems]
    trivial
  | (slot, x) :: items, _, _, _, nested, there, free, decoded => by
    rw [nestedItems, Bool.and_eq_true] at nested
    obtain ⟨here, later⟩ := List.forall_mem_cons.mp there
    rw [decodeItems] at decoded
    obtain ⟨y, k, first, decoded⟩ := bind_ok.mp decoded
    obtain ⟨ys, l, rest, joined⟩ := bind_ok.mp decoded
    obtain ⟨rfl, rfl⟩ := pure_ok.mp joined
    have count := (gives_value x here free first).1
    rw [ResolvedItems]
    exact ⟨rfl, resolved_value x nested.1 here free first,
      resolved_items items nested.2 later (free.trans count) rest⟩
end

end Scene

section Overlay

variable {updates fields : Fields} {key : Text} {value : Obj}

theorem lookup_absent (within : ∀ e ∈ updates, e.1 ∈ fields.map Prod.fst)
    (absent : key ∉ fields.map Prod.fst) : lookup key updates = none := by
  rw [lookup_eq_none_iff]
  intro mem
  obtain ⟨e, he, rfl⟩ := List.mem_map.mp mem
  exact absent (within e he)

theorem overlay_field : overlay updates ((key, value) :: fields) =
    (key, (lookup key updates).getD value) :: overlay updates fields := rfl

theorem overlay_cons (absent : key ∉ fields.map Prod.fst) :
    overlay ((key, value) :: updates) fields = overlay updates fields := by
  refine List.map_congr_left fun e he => ?_
  have other : key ≠ e.1 := fun same => absent (same ▸ List.mem_map_of_mem he)
  rw [lookup, if_neg other]

theorem lookup_overlay : lookup key (overlay updates fields) =
    (lookup key fields).map fun value => (lookup key updates).getD value := by
  induction fields with
  | nil => rfl
  | cons e fields ih =>
    change lookup key ((e.1, (lookup e.1 updates).getD e.2) :: overlay updates fields) = _
    rw [lookup, lookup]
    by_cases here : e.1 = key
    · rw [if_pos here, if_pos here, here]
      rfl
    · rw [if_neg here, if_neg here, ih]

end Overlay

namespace Scene

variable {sc : Scene}

theorem updates_agree (fields : Fields) {n : Nat} (keys : (fields.map Prod.fst).Nodup)
    (there : ∀ e ∈ fields, sc.live e.2) (free : sc.next ≤ n) :
    (∃ e, sc.node.decodedUpdates sc.rt sc.state fields n = .error e ∧
      sc.node.computeRunUpdates sc.rt sc.state fields n = .error e) ∨
    ∃ decoded changed m, sc.node.decodedUpdates sc.rt sc.state fields n = .ok (decoded, m) ∧
      sc.node.computeRunUpdates sc.rt sc.state fields n = .ok (changed, m) ∧
      overlay changed fields = overlay decoded fields ∧
      ∀ e ∈ decoded ++ changed, e.1 ∈ fields.map Prod.fst := by
  induction fields generalizing n with
  | nil => exact .inr ⟨[], [], n, rfl, rfl, rfl, nofun⟩
  | cons field fields ih =>
    obtain ⟨key, value⟩ := field
    rw [List.map_cons, List.nodup_cons] at keys
    obtain ⟨absent, keys⟩ := keys
    obtain ⟨here, later⟩ := List.forall_mem_cons.mp there
    rw [Runnable.decodedUpdates, Runnable.computeRunUpdates]
    by_cases skipped : sc.node.deferred.contains key = true
    · rw [if_pos skipped, if_pos skipped]
      refine (ih keys later free).imp id ?_
      rintro ⟨decoded, changed, m, all, some, same, within⟩
      refine ⟨decoded, changed, m, all, some, ?_, ?_⟩
      · have noDecoded := lookup_absent (fun e he => within e (List.mem_append_left _ he)) absent
        have noChanged := lookup_absent (fun e he => within e (List.mem_append_right _ he)) absent
        rw [overlay_field, overlay_field, same, noDecoded, noChanged]
      · exact fun e he => List.mem_cons_of_mem _ (within e he)
    · rw [if_neg skipped, if_neg skipped]
      cases first : decodeValue sc.rt sc.state value n with
      | error e => exact .inl ⟨e, bind_of_error first, bind_of_error first⟩
      | ok r =>
        obtain ⟨d, k⟩ := r
        rw [bind_of_ok first, bind_of_ok first]
        have gives := gives_value value here free first
        rcases ih keys later (free.trans gives.1) with
          ⟨e, all, some⟩ | ⟨decoded, changed, m, all, some, same, within⟩
        · exact .inl ⟨e, bind_of_error all, bind_of_error some⟩
        · rw [bind_of_ok all, bind_of_ok some]
          refine .inr ⟨_, _, m, rfl, rfl, ?_, ?_⟩
          · have noChanged :=
              lookup_absent (fun e he => within e (List.mem_append_right _ he)) absent
            have whole : overlay ((key, d) :: decoded) ((key, value) :: fields) =
                (key, d) :: overlay decoded fields := by
              rw [overlay_field, lookup, if_pos rfl, overlay_cons absent]
              rfl
            rw [whole, ← same]
            by_cases unchanged : d.ident = value.ident
            · rw [if_pos unchanged, overlay_field, noChanged, gives.same here free unchanged]
              rfl
            · rw [if_neg unchanged, overlay_field, lookup, if_pos rfl, overlay_cons absent]
              rfl
          · have inside : ∀ e ∈ decoded ++ changed, e.1 ∈ key :: fields.map Prod.fst :=
              fun e he => List.mem_cons_of_mem _ (within e he)
            intro e he
            rcases List.mem_append.mp he with he | he
            · rcases List.mem_cons.mp he with rfl | he
              · exact List.mem_cons_self
              · exact inside e (List.mem_append_left _ he)
            · split at he
              next => exact inside e (List.mem_append_right _ he)
              next =>
                rcases List.mem_cons.mp he with rfl | he
                · exact List.mem_cons_self
                · exact inside e (List.mem_append_right _ he)

theorem decodedUpdates_lookup {rt : Runtime} {node : Runnable} {state : Fields} {key : Text}
    {raw : Obj} (now : key ∉ node.deferred) {fields decoded : Fields} {n m : Nat}
    (there : lookup key fields = some raw)
    (all : node.decodedUpdates rt state fields n = .ok (decoded, m)) :
    ∃ k d l, decodeValue rt state raw k = .ok (d, l) ∧ lookup key decoded = some d := by
  induction fields generalizing n decoded with
  | nil => cases there
  | cons field fields ih =>
    obtain ⟨name, value⟩ := field
    rw [Runnable.decodedUpdates] at all
    rw [lookup] at there
    by_cases here : name = key
    · rw [if_pos here] at there
      cases there
      rw [if_neg (fun listed => now (here ▸ List.contains_iff_mem.mp listed))] at all
      obtain ⟨d, k, first, all⟩ := bind_ok.mp all
      obtain ⟨updates, l, _, joined⟩ := bind_ok.mp all
      obtain ⟨rfl, rfl⟩ := pure_ok.mp joined
      exact ⟨n, d, k, first, by rw [lookup, if_pos here]⟩
    · rw [if_neg here] at there
      by_cases skipped : node.deferred.contains name = true
      · rw [if_pos skipped] at all
        exact ih there all
      · rw [if_neg skipped] at all
        obtain ⟨_, k, _, all⟩ := bind_ok.mp all
        obtain ⟨updates, l, rest, joined⟩ := bind_ok.mp all
        obtain ⟨rfl, rfl⟩ := pure_ok.mp joined
        obtain ⟨k, d, l, decodes, found⟩ := ih there rest
        exact ⟨k, d, l, decodes, by rw [lookup, if_neg here, found]⟩

theorem decodedUpdates_deferred {rt : Runtime} {node : Runnable} {state : Fields} {key : Text}
    (later : key ∈ node.deferred) {fields decoded : Fields} {n m : Nat}
    (all : node.decodedUpdates rt state fields n = .ok (decoded, m)) :
    lookup key decoded = none := by
  induction fields generalizing n decoded with
  | nil =>
    cases all
    rfl
  | cons field fields ih =>
    obtain ⟨name, value⟩ := field
    rw [Runnable.decodedUpdates] at all
    by_cases skipped : node.deferred.contains name = true
    · rw [if_pos skipped] at all
      exact ih all
    · rw [if_neg skipped] at all
      obtain ⟨_, k, _, all⟩ := bind_ok.mp all
      obtain ⟨updates, l, rest, joined⟩ := bind_ok.mp all
      obtain ⟨rfl, rfl⟩ := pure_ok.mp joined
      have other : name ≠ key :=
        fun same => skipped (List.contains_iff_mem.mpr (same ▸ later))
      rw [lookup, if_neg other, ih rest]

end Scene

section Selected

variable {rt : Runtime} {state : Fields}

/-- A step that gives the same, whatever has been allocated before. -/
def Steady {α : Type} (x : Decode α) : Prop :=
  ∃ r : Except DecodeError α, ∀ n, x n = r.map (·, n)

theorem Steady.pure {α : Type} (a : α) : Steady (pure a : Decode α) := ⟨.ok a, fun _ => rfl⟩

theorem Steady.bind {α β : Type} {x : Decode α} {f : α → Decode β} (hx : Steady x)
    (hf : ∀ a, Steady (f a)) : Steady (x >>= f) := by
  obtain ⟨r, hx⟩ := hx
  cases r with
  | error e => exact ⟨.error e, fun n => bind_of_error (hx n)⟩
  | ok a =>
    obtain ⟨r, hf⟩ := hf a
    exact ⟨r, fun n => (bind_of_ok (hx n)).trans (hf n)⟩

theorem steady_reference (r : CredentialReference) : Steady (resolveCredentialReference rt r) := by
  unfold resolveCredentialReference
  cases rt.resolve r with
  | ok value => exact Steady.pure value
  | error e => exact ⟨.error (.credential e), fun _ => rfl⟩

theorem steady_nested (value : Obj) : Steady (resolveNestedCredentialString rt value) := by
  unfold resolveNestedCredentialString
  cases value.text.bind (Sandbox.parseCredentialReference rt.text) with
  | none => exact Steady.pure value
  | some reference => exact steady_reference reference

theorem steady_replace (body : Text) : Steady (replace rt state body) := by
  unfold replace
  cases resolveStateTemplatePath rt state (Sandbox.strip rt.text body) with
  | none => exact Steady.pure _
  | some value => exact (steady_nested value).bind fun _ => Steady.pure _

theorem steady_substitute (rt : Runtime) (state : Fields) (pieces : List Piece) :
    Steady (substitute rt state pieces) := by
  induction pieces with
  | nil => exact Steady.pure _
  | cons piece pieces ih =>
    cases piece with
    | char c => exact ih.bind fun _ => Steady.pure _
    | template body => exact (steady_replace body).bind fun _ => ih.bind fun _ => Steady.pure _

theorem decodeStringValue_text {ident : Nat} {s : Text} {n m n' m' : Nat} {d d' : Obj}
    (decoded : decodeStringValue rt state ident s n = .ok (d, m))
    (again : decodeStringValue rt state ident s n' = .ok (d', m')) : d.text = d'.text := by
  have settled {x : Decode Obj} (steady : Steady x) (decoded : x n = .ok (d, m))
      (again : x n' = .ok (d', m')) : d.text = d'.text := by
    obtain ⟨r, run⟩ := steady
    rw [run] at decoded again
    cases r with
    | error e => cases decoded
    | ok a =>
      cases decoded
      cases again
      rfl
  unfold decodeStringValue at decoded again
  cases reference : Sandbox.parseCredentialReference rt.text s with
  | some r =>
    rw [reference] at decoded again
    exact settled (steady_reference r) decoded again
  | none =>
    rw [reference] at decoded again
    dsimp only at decoded again
    by_cases template : Sandbox.containsTemplate s = false
    · rw [if_pos template] at decoded again
      exact settled (Steady.pure _) decoded again
    · rw [if_neg template] at decoded again
      cases single : Sandbox.singleTemplate rt.text s with
      | some path =>
        rw [single] at decoded again
        cases found : resolveStateTemplatePath rt state path with
        | none =>
          simp only [found] at decoded again
          exact settled (Steady.pure _) decoded again
        | some value =>
          simp only [found] at decoded again
          exact settled (steady_nested value) decoded again
      | none =>
        rw [single] at decoded again
        simp only [embedded] at decoded again
        by_cases any : (Sandbox.pieces s).any Piece.isTemplate = true
        · rw [if_pos any] at decoded again
          obtain ⟨text, k, first, allocated⟩ := bind_ok.mp decoded
          obtain ⟨text', k', second, allocated'⟩ := bind_ok.mp again
          obtain ⟨r, run⟩ := steady_substitute rt state (Sandbox.pieces s)
          rw [run] at first second
          cases allocated
          cases allocated'
          cases r with
          | error e => cases first
          | ok a =>
            cases first
            cases second
            rfl
        · rw [if_neg any] at decoded again
          exact settled (Steady.pure _) decoded again

end Selected

def eraseFields (fields : Fields) : Fields := fields.map fun e => (e.1, e.2.erase)

def outcome (r : Except DecodeError (Fields × Nat)) : Except DecodeError Fields :=
  r.map fun r => eraseFields r.1

theorem erase_text (x : Obj) : x.erase.text = x.text := by
  cases x with
  | leaf ident l => rw [Obj.erase]; cases l <;> rfl
  | node ident kind items => rw [Obj.erase]; rfl

theorem leaf_of_text {x : Obj} {s : Text} (h : x.text = some s) :
    ∃ ident, x = .leaf ident (.str s) := by
  unfold Obj.text at h
  split at h
  next ident _ =>
    cases h
    exact ⟨ident, rfl⟩
  next => cases h

theorem erase_of_text {x : Obj} {s : Text} (h : x.text = some s) : x.erase = .leaf 0 (.str s) := by
  obtain ⟨ident, rfl⟩ := leaf_of_text h
  rw [Obj.erase]

theorem lookup_eraseFields (key : Text) (fields : Fields) :
    lookup key (eraseFields fields) = (lookup key fields).map Obj.erase := by
  induction fields with
  | nil => rfl
  | cons e fields ih =>
    change lookup key ((e.1, e.2.erase) :: eraseFields fields) = _
    rw [lookup, lookup]
    by_cases here : e.1 = key
    · rw [if_pos here, if_pos here]
      rfl
    · rw [if_neg here, if_neg here, ih]

theorem overlay_nil (fields : Fields) : overlay [] fields = fields := by
  unfold overlay
  simp [lookup]

theorem overlay_keys (updates fields : Fields) :
    (overlay updates fields).map Prod.fst = fields.map Prod.fst := by
  unfold overlay
  rw [List.map_map]
  rfl

theorem erase_overlay {key : Text} {value current : Obj} {fields : Fields}
    (keys : (fields.map Prod.fst).Nodup) (found : lookup key fields = some current)
    (same : value.erase = current.erase) :
    eraseFields (overlay [(key, value)] fields) = eraseFields fields := by
  unfold eraseFields overlay
  rw [List.map_map]
  refine List.map_congr_left fun e he => ?_
  by_cases here : key = e.1
  · have current' : e.2 = current := by
      have there := (lookup_eq_some_iff e.1 e.2 fields keys).mpr he
      rw [← here, found] at there
      exact (Option.some.inj there).symm
    simp [lookup, here, same, current']
  · simp [lookup, here]

namespace Scene

variable (sc : Scene) (config : Option Obj)

def aiModel : Text := "ai_model".toList

def resolvedForRun : Except DecodeError (Fields × Nat) :=
  sc.node.resolvedForRun sc.rt sc.state config sc.next

def decodeVariables : Except DecodeError (Fields × Nat) :=
  sc.node.decodeVariables sc.rt sc.state config sc.next

/-- All fields resolve, and the field of the AI model is a template with the very text of the
selected model that does not resolve to this text. -/
def Overridden : Prop :=
  ∃ ident selected, lookup aiModel sc.node.fields = some (.leaf ident (.str selected)) ∧
    chatkitSelectedModel sc.rt config = some selected ∧ aiModel ∉ sc.node.deferred ∧
    (∃ updates, sc.node.decodedUpdates sc.rt sc.state sc.node.fields sc.next = .ok updates) ∧
    ∀ n d m, decodeStringValue sc.rt sc.state ident selected n = .ok (d, m) →
      d.text ≠ some selected

theorem runtimeRunUpdates_eq {rt : Runtime} {config : Option Obj} {fields : Fields} {current : Obj}
    {selected : Text} (found : lookup aiModel fields = some current)
    (chosen : chatkitSelectedModel rt config = some selected) (n : Nat) :
    runtimeRunUpdates rt config fields n = if current.text = some selected then .ok ([], n)
      else .ok ([(aiModel, .leaf n (.str selected))], n + 1) := by
  unfold aiModel at found
  unfold runtimeRunUpdates
  rw [found, chosen]
  dsimp only
  split
  next => rfl
  next => rfl

theorem runtimeRunUpdates_none {rt : Runtime} {config : Option Obj} {fields : Fields}
    (none : lookup aiModel fields = none ∨ chatkitSelectedModel rt config = none) (n : Nat) :
    runtimeRunUpdates rt config fields n = .ok ([], n) := by
  unfold runtimeRunUpdates
  rcases none with none | none
  · unfold aiModel at none
    rw [none]
    rfl
  · rw [none]
    cases lookup "ai_model".toList fields with
    | none => rfl
    | some current => rfl

variable {sc config}

theorem overridden_iff {raw : Obj} {selected : Text} {decoded : Fields} {m : Nat}
    (found : lookup aiModel sc.node.fields = some raw)
    (chosen : chatkitSelectedModel sc.rt config = some selected)
    (all : sc.node.decodedUpdates sc.rt sc.state sc.node.fields sc.next = .ok (decoded, m)) :
    sc.Overridden config ↔ raw.text = some selected ∧
      ((lookup aiModel decoded).getD raw).text ≠ some selected := by
  constructor
  · rintro ⟨ident, selected', there, chosen', now, _, apart⟩
    cases there.symm.trans found
    cases chosen'.symm.trans chosen
    obtain ⟨k, d, l, decodes, there⟩ := decodedUpdates_lookup now found all
    rw [there]
    rw [decodeValue] at decodes
    exact ⟨rfl, apart k d l decodes⟩
  · rintro ⟨same, apart⟩
    have now : aiModel ∉ sc.node.deferred := by
      intro later
      rw [decodedUpdates_deferred later all] at apart
      exact apart same
    obtain ⟨k, d, l, decodes, there⟩ := decodedUpdates_lookup now found all
    obtain ⟨ident, rfl⟩ := leaf_of_text same
    rw [there] at apart
    rw [decodeValue] at decodes
    refine ⟨ident, selected, found, chosen, now, ⟨_, all⟩, fun n d' m' again => ?_⟩
    rw [decodeStringValue_text again decodes]
    exact apart

theorem agree_iff :
    outcome (sc.resolvedForRun config) = outcome (sc.decodeVariables config) ↔
      ¬ sc.Overridden config := by
  rcases updates_agree sc.node.fields sc.node.keys sc.fields le_rfl with
    ⟨e, all, part⟩ | ⟨decoded, changed, m, all, part, same, _⟩
  · have resolved : sc.resolvedForRun config = .error e := bind_of_error part
    have decodes : sc.decodeVariables config = .error e := bind_of_error all
    refine iff_of_true (by rw [resolved, decodes]) ?_
    rintro ⟨_, _, _, _, _, ⟨_, decodes⟩, _⟩
    cases decodes.symm.trans all
  · have resolved : sc.resolvedForRun config =
        (do let updates ← runtimeRunUpdates sc.rt config sc.node.fields
            return overlay updates (overlay decoded sc.node.fields) : Decode Fields) m := by
      rw [← same]
      exact bind_of_ok part
    have decodes : sc.decodeVariables config =
        (do let updates ← runtimeRunUpdates sc.rt config (overlay decoded sc.node.fields)
            return overlay updates (overlay decoded sc.node.fields) : Decode Fields) m :=
      bind_of_ok all
    rw [resolved, decodes]
    have idle (none : lookup aiModel sc.node.fields = none ∨
        chatkitSelectedModel sc.rt config = none) : ¬ sc.Overridden config := by
      rintro ⟨ident, selected, found, chosen, _⟩
      rcases none with none | none
      · cases none.symm.trans found
      · cases none.symm.trans chosen
    cases found : lookup aiModel sc.node.fields with
    | none =>
      have absent : lookup aiModel (overlay decoded sc.node.fields) = none := by
        rw [lookup_overlay, found]
        rfl
      rw [bind_of_ok (runtimeRunUpdates_none (.inl found) m),
        bind_of_ok (runtimeRunUpdates_none (.inl absent) m)]
      exact iff_of_true rfl (idle (.inl found))
    | some raw =>
      cases chosen : chatkitSelectedModel sc.rt config with
      | none =>
        rw [bind_of_ok (runtimeRunUpdates_none (.inr chosen) m),
          bind_of_ok (runtimeRunUpdates_none (.inr chosen) m)]
        exact iff_of_true rfl (idle (.inr chosen))
      | some selected =>
        have current : lookup aiModel (overlay decoded sc.node.fields) =
            some ((lookup aiModel decoded).getD raw) := by
          rw [lookup_overlay, found]
          rfl
        have keys : ((overlay decoded sc.node.fields).map Prod.fst).Nodup := by
          rw [overlay_keys]
          exact sc.node.keys
        rw [overridden_iff found chosen all]
        have first := runtimeRunUpdates_eq found chosen m
        have second := runtimeRunUpdates_eq current chosen m
        by_cases raws : raw.text = some selected
        · rw [if_pos raws] at first
          by_cases settled : ((lookup aiModel decoded).getD raw).text = some selected
          · rw [if_pos settled] at second
            rw [bind_of_ok first, bind_of_ok second]
            exact iff_of_true rfl fun h => h.2 settled
          · rw [if_neg settled] at second
            rw [bind_of_ok first, bind_of_ok second, overlay_nil]
            refine iff_of_false (fun agree => settled ?_) fun h => h ⟨raws, settled⟩
            have set : lookup aiModel (overlay [(aiModel, .leaf m (.str selected))]
                (overlay decoded sc.node.fields)) = some (.leaf m (.str selected)) := by
              rw [lookup_overlay, current, lookup, if_pos rfl]
              rfl
            have fields : eraseFields (overlay decoded sc.node.fields) = eraseFields (overlay
                [(aiModel, .leaf m (.str selected))] (overlay decoded sc.node.fields)) :=
              Except.ok.inj agree
            have values : (lookup aiModel (overlay decoded sc.node.fields)).map Obj.erase =
                some (Obj.leaf m (.str selected)).erase := by
              rw [← lookup_eraseFields, fields, lookup_eraseFields, set]
              rfl
            rw [current] at values
            rw [← erase_text, Option.some.inj values, erase_text]
            rfl
        · rw [if_neg raws] at first
          refine iff_of_true ?_ fun h => raws h.1
          by_cases settled : ((lookup aiModel decoded).getD raw).text = some selected
          · rw [if_pos settled] at second
            rw [bind_of_ok first, bind_of_ok second, overlay_nil]
            refine congrArg Except.ok (erase_overlay keys current ?_)
            rw [erase_of_text settled, Obj.erase]
          · rw [if_neg settled] at second
            rw [bind_of_ok first, bind_of_ok second]

/-- The two entry points give the same values, values without templates stay the objects they
are, and containers change at their templates only, unless the selected model is overridden. -/
theorem decoding_agrees_iff (sc : Scene) (config : Option Obj) :
    (outcome (sc.resolvedForRun config) = outcome (sc.decodeVariables config) ∧
      (∀ v n, v.plain sc.rt → decodeValue sc.rt sc.state v n = .ok (v, n)) ∧
      ∀ v n d m, v.nested → sc.live v → sc.next ≤ n →
        decodeValue sc.rt sc.state v n = .ok (d, m) → Resolved sc.rt sc.state v d) ↔
      ¬ sc.Overridden config := by
  rw [← agree_iff]
  refine and_iff_left ⟨?_, ?_⟩
  · intro v n plain
    rw [decodeValue_plain v plain]
    rfl
  · intro v n d m nested there free decoded
    exact resolved_value v nested there free decoded

end Scene

section Selected

def plainRuntime : Runtime where
  text := {
    isspace := (· == ' ')
    lower := id
    showInt := fun _ => []
    showFloat := fun _ => []
    showKey := fun _ => []
    parseUuid := fun _ => none
    attr := fun _ _ => none }
  attr _ _ := none
  distinct := some
  resolve r := .error (.referenceNotFound r.identifier)

def modelTemplate : Text := "{{m}}".toList

def templatedNode : Runnable where
  fields := [(Scene.aiModel, .leaf 0 (.str modelTemplate))]
  keys := by decide

def templatedScene : Scene where
  rt := plainRuntime
  node := templatedNode
  state := [("m".toList, .leaf 1 (.str "gpt".toList))]
  live a := a = .leaf 0 (.str modelTemplate) ∨ a = .leaf 1 (.str "gpt".toList)
  next := 2
  below := by
    rintro a (rfl | rfl)
    · exact Nat.zero_lt_two
    · exact Nat.one_lt_two
  same := by
    rintro a b (rfl | rfl) (rfl | rfl) idents
    · rfl
    · cases idents
    · cases idents
    · rfl
  parts := by
    rintro ident kind items (there | there)
    · cases there
    · cases there
  fields := by
    intro e he
    cases List.mem_singleton.mp he
    exact .inl rfl
  inState := by
    intro e he
    cases List.mem_singleton.mp he
    exact .inr rfl
  attributes := by
    intro cls name a found
    cases found
  credentials := by
    intro r a found
    cases found

def selecting (model : Text) : Obj :=
  .node 0 (.mapping .dict) [(.key (.str "configurable".toList), .node 0 (.mapping .dict)
    [(.key (.str "chatkit_model".toList), .leaf 0 (.str model))])]

theorem selected_template_apart : ¬ ∀ (sc : Scene) (config : Option Obj),
    outcome (sc.resolvedForRun config) = outcome (sc.decodeVariables config) := by
  intro agree
  have resolves : decodeStringValue plainRuntime templatedScene.state 0 modelTemplate 2 =
      .ok (.leaf 1 (.str "gpt".toList), 2) := by
    rfl
  refine Scene.agree_iff.mp (agree templatedScene (some (selecting modelTemplate))) ?_
  refine ⟨0, modelTemplate, rfl, rfl, List.not_mem_nil, ⟨_, rfl⟩, fun n d m decoded => ?_⟩
  rw [decodeStringValue_text decoded resolves]
  decide

end Selected

end Orcheo.Nodes
