/-! Base64 in the alphabet of URLs, as it is written with padding and as it is read by a lenient
reader, which skips what is no digit. -/

namespace Orcheo.Lib.Base64

def alphabet : List Char :=
  "ABCDEFGHIJKLMNOPQRSTUVWXYZabcdefghijklmnopqrstuvwxyz0123456789-_".toList

def digit (n : Nat) : Char := alphabet.getD n 'A'

/-- The digits of the standard alphabet are read as well. -/
def value (c : Char) : Option Nat :=
  if 'A' ≤ c ∧ c ≤ 'Z' then some (c.toNat - 65)
  else if 'a' ≤ c ∧ c ≤ 'z' then some (c.toNat - 71)
  else if '0' ≤ c ∧ c ≤ '9' then some (c.toNat + 4)
  else if c = '-' ∨ c = '+' then some 62
  else if c = '_' ∨ c = '/' then some 63
  else none

def encode : List UInt8 → List Char
  | a :: b :: c :: bytes =>
    digit (a.toNat / 4) :: digit (a.toNat % 4 * 16 + b.toNat / 16) ::
      digit (b.toNat % 16 * 4 + c.toNat / 64) :: digit (c.toNat % 64) :: encode bytes
  | [a, b] =>
    [digit (a.toNat / 4), digit (a.toNat % 4 * 16 + b.toNat / 16), digit (b.toNat % 16 * 4), '=']
  | [a] => [digit (a.toNat / 4), digit (a.toNat % 4 * 16), '=', '=']
  | [] => []

/-- Reads on within a group of four digits, with the bits that are left of those before. -/
def decodeFrom (group left pads : Nat) : List Char → Option (List UInt8)
  | [] => if group = 0 then some [] else none
  | c :: cs =>
    if c = '=' then
      if 2 ≤ group ∧ 3 ≤ group + pads then some []
      else decodeFrom group left (if 2 ≤ group then pads + 1 else pads) cs
    else match value c, group with
      | none, _ => decodeFrom group left pads cs
      | some v, 0 => decodeFrom 1 v 0 cs
      | some v, 1 => (decodeFrom 2 (v % 16) 0 cs).map (UInt8.ofNat (left * 4 + v / 16) :: ·)
      | some v, 2 => (decodeFrom 3 (v % 4) 0 cs).map (UInt8.ofNat (left * 16 + v / 4) :: ·)
      | some v, _ => (decodeFrom 0 0 0 cs).map (UInt8.ofNat (left * 64 + v) :: ·)

variable (text : List Char)

def decode : Option (List UInt8) := decodeFrom 0 0 0 text

def unpadded : List Char := (text.reverse.dropWhile (· = '=')).reverse

def padding : List Char := List.replicate ((4 - text.length % 4) % 4) '='

theorem value_digit {n : Nat} (small : n < 64) : value (digit n) = some n := by
  have all : ∀ n : Fin 64, value (digit n.val) = some n.val := by decide +kernel
  exact all ⟨n, small⟩

variable {c : Char}

theorem ne_pad {v : Nat} (found : value c = some v) : c ≠ '=' := by
  intro same
  rw [same] at found
  cases found

section Steps

variable {c : Char} {v group left pads : Nat} {cs : List Char}

theorem decodeFrom_skip (unpadding : c ≠ '=') (found : value c = none) :
    decodeFrom group left pads (c :: cs) = decodeFrom group left pads cs := by
  conv => lhs; unfold decodeFrom
  rw [if_neg unpadding]
  simp only [found]

section

variable (found : value c = some v)
include found

theorem decodeFrom_first :
    decodeFrom 0 left pads (c :: cs) = decodeFrom 1 v 0 cs := by
  conv => lhs; unfold decodeFrom
  rw [if_neg (ne_pad found)]
  simp only [found]

theorem decodeFrom_second : decodeFrom 1 left pads (c :: cs) =
    (decodeFrom 2 (v % 16) 0 cs).map (UInt8.ofNat (left * 4 + v / 16) :: ·) := by
  conv => lhs; unfold decodeFrom
  rw [if_neg (ne_pad found)]
  simp only [found]

theorem decodeFrom_third : decodeFrom 2 left pads (c :: cs) =
    (decodeFrom 3 (v % 4) 0 cs).map (UInt8.ofNat (left * 16 + v / 4) :: ·) := by
  conv => lhs; unfold decodeFrom
  rw [if_neg (ne_pad found)]
  simp only [found]

theorem decodeFrom_fourth : decodeFrom 3 left pads (c :: cs) =
    (decodeFrom 0 0 0 cs).map (UInt8.ofNat (left * 64 + v) :: ·) := by
  conv => lhs; unfold decodeFrom
  rw [if_neg (ne_pad found)]
  simp only [found]

end

end Steps

theorem ofNat_eq {a : UInt8} {n : Nat} (same : n = a.toNat) : UInt8.ofNat n = a := by
  rw [same, UInt8.ofNat_toNat]

variable (bytes : List UInt8)

theorem decode_encode : decode (encode bytes) = some bytes := by
  unfold decode
  induction bytes using encode.induct with
  | case1 a b c bytes ih =>
    have small (x : UInt8) : x.toNat < 256 := x.toNat_lt
    have := small a
    have := small b
    have := small c
    rw [encode, decodeFrom_first (value_digit (by omega)),
      decodeFrom_second (value_digit (by omega)), decodeFrom_third (value_digit (by omega)),
      decodeFrom_fourth (value_digit (by omega)), ih]
    simp only [Option.map_some]
    rw [ofNat_eq (a := a) (by omega), ofNat_eq (a := b) (by omega), ofNat_eq (a := c) (by omega)]
  | case2 a b =>
    have := a.toNat_lt
    have := b.toNat_lt
    rw [encode, decodeFrom_first (value_digit (by omega)),
      decodeFrom_second (value_digit (by omega)), decodeFrom_third (value_digit (by omega))]
    have stops : decodeFrom 3 (b.toNat % 16 * 4 % 4) 0 ['='] = some [] := rfl
    rw [stops]
    simp only [Option.map_some]
    rw [ofNat_eq (a := a) (by omega), ofNat_eq (a := b) (by omega)]
  | case3 a =>
    have := a.toNat_lt
    rw [encode, decodeFrom_first (value_digit (by omega)),
      decodeFrom_second (value_digit (by omega))]
    have stops : decodeFrom 2 (a.toNat % 4 * 16 % 16) 0 ['=', '='] = some [] := rfl
    rw [stops]
    simp only [Option.map_some]
    rw [ofNat_eq (a := a) (by omega)]
  | case4 => rfl

theorem digit_mem (n : Nat) : digit n ∈ alphabet := by
  unfold digit
  by_cases small : n < alphabet.length
  · rw [List.getD_eq_getElem?_getD, List.getElem?_eq_getElem small]
    exact List.getElem_mem small
  · rw [List.getD_eq_getElem?_getD, List.getElem?_eq_none (by omega)]
    exact List.mem_cons_self

theorem mem_encode {bytes : List UInt8} (mem : c ∈ encode bytes) :
    c ∈ alphabet ∨ c = '=' := by
  induction bytes using encode.induct with
  | case1 a b d bytes ih =>
    rw [encode] at mem
    simp only [List.mem_cons] at mem
    obtain rfl | rfl | rfl | rfl | mem := mem
    · exact Or.inl (digit_mem _)
    · exact Or.inl (digit_mem _)
    · exact Or.inl (digit_mem _)
    · exact Or.inl (digit_mem _)
    · exact ih mem
  | case2 a b =>
    simp only [encode, List.mem_cons, List.not_mem_nil, or_false] at mem
    obtain rfl | rfl | rfl | here := mem
    · exact Or.inl (digit_mem _)
    · exact Or.inl (digit_mem _)
    · exact Or.inl (digit_mem _)
    · exact Or.inr here
  | case3 a =>
    simp only [encode, List.mem_cons, List.not_mem_nil, or_false, or_self] at mem
    obtain rfl | rfl | here := mem
    · exact Or.inl (digit_mem _)
    · exact Or.inl (digit_mem _)
    · exact Or.inr here
  | case4 => cases mem

theorem ascii_encode {bytes : List UInt8} (mem : c ∈ encode bytes) : c.toNat < 128 := by
  have all : alphabet.all (fun c => c.toNat < 128) = true := by decide +kernel
  cases mem_encode mem with
  | inl digit => exact of_decide_eq_true (List.all_eq_true.mp all c digit)
  | inr pad =>
    rw [pad]
    decide

theorem mem_of_mem_unpadded {text : List Char} (mem : c ∈ unpadded text) :
    c ∈ text := by
  have mem := (List.dropWhile_suffix _).subset (List.mem_reverse.mp mem)
  exact List.mem_reverse.mp mem

theorem encode_eq : ∃ body k, encode bytes = body ++ List.replicate k '=' ∧
    (∀ c ∈ body, c ≠ '=') ∧ (body.length + k) % 4 = 0 ∧ k < 4 := by
  induction bytes using encode.induct with
  | case1 a b c bytes ih =>
    obtain ⟨body, k, same, digits, whole, short⟩ := ih
    have := a.toNat_lt
    have := b.toNat_lt
    have := c.toNat_lt
    refine ⟨digit (a.toNat / 4) :: digit (a.toNat % 4 * 16 + b.toNat / 16) ::
      digit (b.toNat % 16 * 4 + c.toNat / 64) :: digit (c.toNat % 64) :: body, k, ?_, ?_, ?_, short⟩
    · rw [encode, same]
      rfl
    · simp only [List.mem_cons]
      rintro d (rfl | rfl | rfl | rfl | mem)
      · exact ne_pad (value_digit (by omega))
      · exact ne_pad (value_digit (by omega))
      · exact ne_pad (value_digit (by omega))
      · exact ne_pad (value_digit (by omega))
      · exact digits d mem
    · simp only [List.length_cons]
      omega
  | case2 a b =>
    have := a.toNat_lt
    have := b.toNat_lt
    refine ⟨[digit (a.toNat / 4), digit (a.toNat % 4 * 16 + b.toNat / 16),
      digit (b.toNat % 16 * 4)], 1, rfl, ?_, by simp, by omega⟩
    simp only [List.mem_cons, List.not_mem_nil, or_false]
    rintro d (rfl | rfl | rfl) <;> exact ne_pad (value_digit (by omega))
  | case3 a =>
    have := a.toNat_lt
    refine ⟨[digit (a.toNat / 4), digit (a.toNat % 4 * 16)], 2, rfl, ?_, by simp, by omega⟩
    simp only [List.mem_cons, List.not_mem_nil, or_false]
    rintro d (rfl | rfl) <;> exact ne_pad (value_digit (by omega))
  | case4 => exact ⟨[], 0, rfl, nofun, rfl, by omega⟩

theorem unpadded_append {body : List Char} {k : Nat} (digits : ∀ c ∈ body, c ≠ '=') :
    unpadded (body ++ List.replicate k '=') = body := by
  unfold unpadded
  rw [List.reverse_append, List.reverse_replicate, List.dropWhile_append_of_pos]
  · have stays : body.reverse.dropWhile (· = '=') = body.reverse := by
      cases rev : body.reverse with
      | nil => rfl
      | cons c cs =>
        have mem : c ∈ body := by
          rw [← List.mem_reverse, rev]
          exact List.mem_cons_self
        rw [List.dropWhile_cons, if_neg (by simpa using digits c mem)]
    rw [stays, List.reverse_reverse]
  · intro c mem
    simpa using List.eq_of_mem_replicate mem

theorem decode_padded :
    decode (unpadded (encode bytes) ++ padding (unpadded (encode bytes))) = some bytes := by
  obtain ⟨body, k, same, digits, whole, short⟩ := encode_eq bytes
  have pads : padding body = List.replicate k '=' := by
    unfold padding
    congr 1
    omega
  have read := decode_encode bytes
  rw [same] at read ⊢
  rw [unpadded_append digits, pads]
  exact read

/-- What a group has given when so many of its digits are read, four times over. -/
def given (group : Nat) : Nat := 4 * (group - 1)

theorem length_decodeFrom {cs : List Char} : ∀ {group left pads : Nat} {bytes : List UInt8},
    group < 4 → decodeFrom group left pads cs = some bytes →
    4 * bytes.length + given group ≤ 3 * (cs.countP (fun c => (value c).isSome) + group) := by
  induction cs with
  | nil =>
    intro group left pads bytes small read
    rw [decodeFrom] at read
    split at read
    next zero =>
      cases read
      rw [zero]
      exact Nat.zero_le _
    next => cases read
  | cons c cs ih =>
    intro group left pads bytes small read
    rw [List.countP_cons]
    by_cases pad : c = '='
    · unfold decodeFrom at read
      rw [if_pos pad] at read
      split at read
      next =>
        cases read
        simp only [given, List.length_nil]
        omega
      next =>
        have bound := ih small read
        omega
    · cases found : value c with
      | none =>
        rw [decodeFrom_skip pad found] at read
        have bound := ih small read
        omega
      | some v =>
        rw [Option.isSome_some, if_pos rfl]
        have place : group = 0 ∨ group = 1 ∨ group = 2 ∨ group = 3 := by omega
        obtain here | here | here | here := place
        · rw [here, decodeFrom_first found] at read
          have bound := ih (by omega) read
          simp only [given] at bound ⊢
          omega
        · rw [here, decodeFrom_second found] at read
          obtain ⟨rest, read, same⟩ := Option.map_eq_some_iff.mp read
          have bound := ih (by omega) read
          rw [← same, List.length_cons]
          simp only [given] at bound ⊢
          omega
        · rw [here, decodeFrom_third found] at read
          obtain ⟨rest, read, same⟩ := Option.map_eq_some_iff.mp read
          have bound := ih (by omega) read
          rw [← same, List.length_cons]
          simp only [given] at bound ⊢
          omega
        · rw [here, decodeFrom_fourth found] at read
          obtain ⟨rest, read, same⟩ := Option.map_eq_some_iff.mp read
          have bound := ih (by omega) read
          rw [← same, List.length_cons]
          simp only [given] at bound ⊢
          omega

theorem countP_padding : (padding text).countP (fun c => (value c).isSome) = 0 := by
  rw [List.countP_eq_zero]
  intro c mem
  rw [List.eq_of_mem_replicate mem]
  decide

/-- A digit of more than the capital letters stand for, where it is one. -/
def Uncapital (c : Char) : Prop := ∀ v, value c = some v → 26 ≤ v ∧ v < 64

theorem uncapital_of_not (small : ¬('A' ≤ c ∧ c ≤ 'Z')) : Uncapital c := by
  intro v found
  unfold value at found
  rw [if_neg small] at found
  split at found
  next letter =>
    have low : 97 ≤ c.toNat := letter.1
    have high : c.toNat ≤ 122 := letter.2
    cases found
    omega
  next =>
    split at found
    next number =>
      have low : 48 ≤ c.toNat := number.1
      have high : c.toNat ≤ 57 := number.2
      cases found
      omega
    next =>
      split at found
      next =>
        cases found
        omega
      next =>
        split at found <;> cases found
        omega

section Uncapital

variable {small cs : List Char} (uncapital : ∀ c ∈ small, Uncapital c)

include uncapital

theorem length_after_low {c : UInt8} {rest : List UInt8} (low : c.toNat ≤ 58) :
    ∀ {group left pads : Nat}, group = 0 ∨ group = 1 ∧ 26 ≤ left ∧ left < 64 →
    decodeFrom group left pads (small ++ cs) = some (c :: rest) →
    4 * rest.length ≤ 3 * (cs.countP (fun c => (value c).isSome) + 1) := by
  induction small with
  | nil =>
    intro group left pads place read
    have bound := length_decodeFrom (by omega) read
    rw [List.length_cons, List.nil_append] at bound
    omega
  | cons d small ih =>
    intro group left pads place read
    have ih := @ih (fun c mem => uncapital c (List.mem_cons_of_mem d mem))
    rw [List.cons_append] at read
    by_cases pad : d = '='
    · unfold decodeFrom at read
      rw [if_pos pad, if_neg (by omega)] at read
      exact ih place read
    · cases found : value d with
      | none =>
        rw [decodeFrom_skip pad found] at read
        exact ih place read
      | some v =>
        have high := uncapital d List.mem_cons_self v found
        obtain here | ⟨here, above, below⟩ := place
        · rw [here, decodeFrom_first found] at read
          exact ih (Or.inr ⟨rfl, high⟩) read
        · rw [here, decodeFrom_second found] at read
          obtain ⟨bytes, _, same⟩ := Option.map_eq_some_iff.mp read
          have head := congrArg UInt8.toNat (List.cons.inj same).1
          rw [UInt8.toNat_ofNat'] at head
          omega

omit uncapital in
theorem emitted {bytes : Option (List UInt8)} {n : Nat} {opened tail : List UInt8}
    (read : bytes.map (UInt8.ofNat n :: ·) = some (opened ++ 34 :: tail)) :
    opened = [] ∧ n % 256 = 34 ∧ bytes = some tail ∨
      ∃ b opened', opened = b :: opened' ∧ bytes = some (opened' ++ 34 :: tail) := by
  obtain ⟨_, further, same⟩ := Option.map_eq_some_iff.mp read
  cases opened with
  | nil =>
    have head := congrArg UInt8.toNat (List.cons.inj same).1
    rw [UInt8.toNat_ofNat'] at head
    exact Or.inl ⟨rfl, head, further.trans (congrArg some (List.cons.inj same).2)⟩
  | cons b opened =>
    exact Or.inr ⟨b, opened, rfl, further.trans (congrArg some (List.cons.inj same).2)⟩

theorem length_after_quote {opened rest : List UInt8} {c : UInt8} (low : c.toNat ≤ 58) :
    ∀ {group left pads : Nat}, group < 4 → (group = 1 → 26 ≤ left ∧ left < 64) →
    decodeFrom group left pads (small ++ cs) = some (opened ++ 34 :: c :: rest) →
    4 * rest.length ≤ 3 * (cs.countP (fun c => (value c).isSome) + 1) := by
  induction small generalizing opened with
  | nil =>
    intro group left pads place _ read
    have bound := length_decodeFrom place read
    simp only [given, List.length_append, List.length_cons, List.nil_append] at bound
    omega
  | cons d small ih =>
    intro group left pads place carried read
    have later : ∀ c ∈ small, Uncapital c := fun c mem => uncapital c (List.mem_cons_of_mem d mem)
    have ih := @ih later
    rw [List.cons_append] at read
    by_cases pad : d = '='
    · unfold decodeFrom at read
      rw [if_pos pad] at read
      split at read
      next => cases opened <;> cases read
      next => exact ih place carried read
    · cases found : value d with
      | none =>
        rw [decodeFrom_skip pad found] at read
        exact ih place carried read
      | some v =>
        have high := uncapital d List.mem_cons_self v found
        have cases : group = 0 ∨ group = 1 ∨ group = 2 ∨ group = 3 := by omega
        obtain here | here | here | here := cases
        · rw [here, decodeFrom_first found] at read
          exact ih (by omega) (fun _ => high) read
        -- the first byte of a group is too high, and the second has another half
        · rw [here, decodeFrom_second found] at read
          have carried := carried here
          obtain ⟨-, head, -⟩ | ⟨b, opened', rfl, further⟩ := emitted read
          · omega
          · exact ih (by omega) (by omega) further
        · rw [here, decodeFrom_third found] at read
          obtain ⟨-, head, -⟩ | ⟨b, opened', rfl, further⟩ := emitted read
          · omega
          · exact ih (by omega) (by omega) further
        · rw [here, decodeFrom_fourth found] at read
          obtain ⟨-, -, further⟩ | ⟨b, opened', rfl, further⟩ := emitted read
          · exact length_after_low later low (Or.inl rfl) further
          · exact ih (by omega) (by omega) further

end Uncapital

end Orcheo.Lib.Base64
