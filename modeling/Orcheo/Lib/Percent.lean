/-! Percent-encoding of text, and how browsers read a reference from the page that it stands on. -/

namespace Orcheo.Lib.Percent

/-- What is never quoted: the letters and digits of ASCII, and four other characters. -/
def unreserved (c : Char) : Bool := c.isAlphanum || c = '_' || c = '.' || c = '-' || c = '~'

def hexDigit (n : Nat) : Char := "0123456789ABCDEF".toList.getD n '0'

def escape (b : UInt8) : List Char := ['%', hexDigit (b.toNat / 16), hexDigit (b.toNat % 16)]

def quoteChar (safe : Char → Bool) (c : Char) : List Char :=
  if unreserved c || safe c then [c] else (String.utf8EncodeChar c).flatMap escape

def quote (safe : Char → Bool) (text : List Char) : List Char := text.flatMap (quoteChar safe)

variable {safe : Char → Bool}

theorem unreserved_hexDigit {n : Nat} (small : n < 16) : unreserved (hexDigit n) = true := by
  have all : ∀ n : Fin 16, unreserved (hexDigit n.val) = true := by decide
  exact all ⟨n, small⟩

variable {c : Char} {text : List Char}

theorem mem_escape {b : UInt8} (mem : c ∈ escape b) : unreserved c = true ∨ c = '%' := by
  have := b.toNat_lt
  simp only [escape, List.mem_cons, List.not_mem_nil, or_false] at mem
  obtain here | here | here := mem
  · exact Or.inr here
  · rw [here]
    exact Or.inl (unreserved_hexDigit (by omega))
  · rw [here]
    exact Or.inl (unreserved_hexDigit (by omega))

theorem mem_quote (mem : c ∈ quote safe text) :
    unreserved c = true ∨ safe c = true ∨ c = '%' := by
  obtain ⟨d, _, mem⟩ := List.mem_flatMap.mp mem
  unfold quoteChar at mem
  split at mem
  next kept =>
    rw [List.mem_singleton.mp mem]
    exact (Bool.or_eq_true_iff.mp kept).imp id Or.inl
  next =>
    obtain ⟨b, _, mem⟩ := List.mem_flatMap.mp mem
    exact (mem_escape mem).imp id Or.inr

theorem quote_cons_of_kept (kept : safe c = true) :
    quote safe (c :: text) = c :: quote safe text := by
  unfold quote quoteChar
  rw [List.flatMap_cons, if_pos (by simp [kept])]
  rfl

theorem head_quote {d : Char} (head : (quote safe (c :: text)).head? = some d) :
    d = c ∨ d = '%' := by
  unfold quote quoteChar at head
  rw [List.flatMap_cons] at head
  split at head
  next =>
    cases head
    exact Or.inl rfl
  next =>
    cases bytes : String.utf8EncodeChar c with
    | nil =>
      have none := String.length_utf8EncodeChar c
      rw [bytes] at none
      exact absurd none.symm (Nat.ne_of_gt c.utf8Size_pos)
    | cons b bs =>
      rw [bytes] at head
      cases head
      exact Or.inr rfl

def hexValue (c : Char) : Option Nat :=
  if '0' ≤ c ∧ c ≤ '9' then some (c.toNat - 48)
  else if 'A' ≤ c ∧ c ≤ 'F' then some (c.toNat - 55)
  else if 'a' ≤ c ∧ c ≤ 'f' then some (c.toNat - 87)
  else none

/-- A percent sign that no two hexadecimal digits follow stands for itself. -/
def unescape : List Char → List UInt8
  | [] => []
  | [c] => [UInt8.ofNat c.toNat]
  | [c, d] => [UInt8.ofNat c.toNat, UInt8.ofNat d.toNat]
  | c :: d :: e :: text => match decide (c = '%'), hexValue d, hexValue e with
    | true, some high, some low => UInt8.ofNat (16 * high + low) :: unescape text
    | _, _, _ => UInt8.ofNat c.toNat :: unescape (d :: e :: text)

section Unquote

variable (decode : List UInt8 → List Char)

def unquoteRun (run : List Char) : List Char := if run = [] then [] else decode (unescape run)

/-- Each run of ASCII is unquoted by itself. -/
def unquoteFrom (run : List Char) : List Char → List Char
  | [] => unquoteRun decode run
  | c :: text =>
    if c.toNat < 128 then unquoteFrom (run ++ [c]) text
    else unquoteRun decode run ++ c :: unquoteFrom [] text

def unquote (text : List Char) : List Char :=
  if '%' ∈ text then unquoteFrom decode [] text else text

theorem unquote_of_not_mem {text : List Char} (plain : '%' ∉ text) :
    unquote decode text = text := if_neg plain

end Unquote

/-- Control characters and spaces, which are taken off both ends. -/
def blank (c : Char) : Bool := decide (c.toNat ≤ 32)

/-- Tabs and ends of lines, which are taken out wherever they stand. -/
def removed (c : Char) : Bool := c = '\t' || c = '\n' || c = '\x0d'

def cleaned (reference : List Char) : List Char :=
  (((reference.dropWhile blank).reverse.dropWhile blank).reverse).filter (fun c => !removed c)

/-- A backslash is read as a slash. -/
def isSlash (c : Char) : Bool := c = '/' || c = '\\'

inductive Target
  /-- the host of the page -/
  | own
  | authority (text : List Char)
  | absolute (scheme rest : List Char)
  deriving DecidableEq

def schemeChar (c : Char) : Bool := c.isAlphanum || c = '+' || c = '-' || c = '.'

/-- A scheme before a colon, with what comes after it. -/
def scheme? (text : List Char) : Option (List Char × List Char) :=
  match text.dropWhile schemeChar with
  | ':' :: rest =>
    if text.head?.any Char.isAlpha then some (text.takeWhile schemeChar, rest) else none
  | _ => none

/-- Where a browser goes from a page of the web. -/
def target (reference : List Char) : Target :=
  match scheme? (cleaned reference), cleaned reference with
  | some (scheme, rest), _ => .absolute scheme rest
  | none, a :: b :: rest =>
    if isSlash a && isSlash b then
      .authority ((rest.dropWhile isSlash).takeWhile (fun c => !isSlash c && c ≠ '?' && c ≠ '#'))
    else .own
  | none, _ => .own

theorem cleaned_eq (visible : ∀ c ∈ text, blank c = false) :
    cleaned text = text := by
  have stays {cs : List Char} (visible : ∀ c ∈ cs, blank c = false) : cs.dropWhile blank = cs := by
    cases cs with
    | nil => rfl
    | cons c cs => rw [List.dropWhile_cons, if_neg (by simp [visible c List.mem_cons_self])]
  unfold cleaned
  rw [stays visible, stays (fun c mem => visible c (List.mem_reverse.mp mem)), List.reverse_reverse,
    List.filter_eq_self]
  intro c mem
  have seen := visible c mem
  unfold removed
  unfold blank at seen
  rw [Bool.not_eq_true', Bool.or_eq_false_iff, Bool.or_eq_false_iff]
  refine ⟨⟨?_, ?_⟩, ?_⟩ <;>
    · rw [decide_eq_false_iff_not]
      rintro rfl
      cases seen

theorem target_path (visible : ∀ c ∈ text, blank c = false)
    (path : text.head? = some '/') (single : ∀ d, text.tail.head? = some d → isSlash d = false) :
    target text = .own := by
  obtain ⟨rest, same⟩ : ∃ rest, text = '/' :: rest := by
    cases text with
    | nil => cases path
    | cons c rest =>
      cases path
      exact ⟨rest, rfl⟩
  unfold target
  rw [cleaned_eq visible, same]
  have schemeless : scheme? ('/' :: rest) = none := rfl
  rw [schemeless]
  rw [same] at single
  cases rest with
  | nil => rfl
  | cons d rest =>
    have apart := single d rfl
    simp [apart]

end Orcheo.Lib.Percent
