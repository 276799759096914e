import Mathlib.Data.List.Basic

/-! Text as lines: where Python's strings and its parser break them, and what `textwrap` makes of
their indentation. -/

namespace Orcheo.Lib.Lines

open List (nil_append nil_prefix mem_cons_self mem_cons_of_mem append_assoc append_nil)

abbrev Line := List Char

/-- The characters of `str.isspace`. -/
def isspace (c : Char) : Bool :=
  let n := c.toNat
  (9 ≤ n && n ≤ 13) || (28 ≤ n && n ≤ 32) || n = 0x85 || n = 0xa0 || n = 0x1680 ||
    (0x2000 ≤ n && n ≤ 0x200a) || n = 0x2028 || n = 0x2029 || n = 0x202f || n = 0x205f || n = 0x3000

/-- Where `str.splitlines` breaks. -/
def isLineBoundary (c : Char) : Bool :=
  let n := c.toNat
  (10 ≤ n && n ≤ 13) || (28 ≤ n && n ≤ 30) || n = 0x85 || n = 0x2028 || n = 0x2029

/-- Where the parser breaks. -/
def isNewline (c : Char) : Bool := c = '\n' || c = '\r'

/-- What `textwrap` and the tokenizer count as indentation. -/
def isBlank (c : Char) : Bool := c = ' ' || c = '\t'

/-- The lines with what ends each; a carriage return and a line feed end one line together. -/
def chunks (boundary : Char → Bool) : List Char → List (Line × List Char)
  | [] => []
  | c :: cs =>
    if boundary c then
      if c = '\r' ∧ cs.head? = some '\n' then
        ([], ['\r', '\n']) :: (chunks boundary cs).tail
      else ([], [c]) :: chunks boundary cs
    else match chunks boundary cs with
      | [] => [([c], [])]
      | (l, last) :: more => (c :: l, last) :: more

def lines (boundary : Char → Bool) (text : List Char) : List Line :=
  (chunks boundary text).map Prod.fst

abbrev splitlines : List Char → List Line := lines isLineBoundary

abbrev physicalLines : List Char → List Line := lines isNewline

def joined (ls : List Line) : List Char := ['\n'].intercalate ls

def indentation (l : Line) : Line := l.takeWhile isBlank

def isBlankLine (l : Line) : Bool := l.all isBlank

def commonPrefix : Line → Line → Line
  | a :: as, b :: bs => if a = b then a :: commonPrefix as bs else []
  | _, _ => []

/-- The indentation that the lines share, those aside that are blank. -/
def margin (ls : List Line) : Line :=
  match (ls.filter (fun l => !isBlankLine l)).map indentation with
  | [] => []
  | first :: others => others.foldl commonPrefix first

def dedentLine (m l : Line) : Line := if isBlankLine l then [] else l.drop m.length

/-- `textwrap.dedent` -/
def dedent (text : List Char) : List Char :=
  let ls := text.splitOn '\n'
  joined (ls.map (dedentLine (margin ls)))

def indentLine (before l : Line) : Line := if l.all isspace then l else before ++ l

/-- `textwrap.indent` -/
def indent (before : Line) (text : List Char) : List Char :=
  (chunks isLineBoundary text).flatMap fun c => indentLine before c.1 ++ c.2

section Without

variable {p : Char → Bool}

theorem without {l : Line} (all : l.all (fun c => !p c) = true) : ∀ c ∈ l, p c = false := by
  simpa using all

theorem without_lines {ls : List Line} (all : ls.all (·.all (fun c => !p c)) = true) :
    ∀ l ∈ ls, ∀ c ∈ l, p c = false :=
  fun l hl => without (List.all_eq_true.mp all l hl)

end Without

theorem isspace_of_blank {c : Char} (h : isBlank c = true) : isspace c = true := by
  rcases Bool.or_eq_true_iff.mp h with same | same
  · rw [of_decide_eq_true same]
    rfl
  · rw [of_decide_eq_true same]
    rfl

theorem commonPrefix_left (a b : Line) : commonPrefix a b <+: a := by
  fun_induction commonPrefix a b with
  | case1 a as bs ih => exact List.cons_prefix_cons.mpr ⟨rfl, ih⟩
  | case2 a as b bs apart => exact nil_prefix
  | case3 a b _ => exact nil_prefix

theorem commonPrefix_right (a b : Line) : commonPrefix a b <+: b := by
  fun_induction commonPrefix a b with
  | case1 a as bs ih => exact List.cons_prefix_cons.mpr ⟨rfl, ih⟩
  | case2 a as b bs apart => exact nil_prefix
  | case3 a b _ => exact nil_prefix

theorem foldl_commonPrefix (first : Line) (others : List Line) :
    others.foldl commonPrefix first <+: first ∧
      ∀ i ∈ others, others.foldl commonPrefix first <+: i := by
  induction others generalizing first with
  | nil => exact ⟨List.prefix_refl first, fun i hi => absurd hi List.not_mem_nil⟩
  | cons second others ih =>
    obtain ⟨before, each⟩ := ih (commonPrefix first second)
    refine ⟨before.trans (commonPrefix_left first second), fun i hi => ?_⟩
    rcases List.mem_cons.mp hi with rfl | hi
    · exact before.trans (commonPrefix_right first i)
    · exact each i hi

theorem margin_indentation {ls : List Line} {l : Line} (hl : l ∈ ls)
    (written : isBlankLine l = false) :
    margin ls <+: indentation l := by
  have mem : indentation l ∈ (ls.filter (fun l => !isBlankLine l)).map indentation :=
    List.mem_map_of_mem (List.mem_filter.mpr ⟨hl, by rw [written]; rfl⟩)
  unfold margin
  cases given : (ls.filter (fun l => !isBlankLine l)).map indentation with
  | nil =>
    rw [given] at mem
    cases mem
  | cons first others =>
    rw [given] at mem
    obtain ⟨before, each⟩ := foldl_commonPrefix first others
    rcases List.mem_cons.mp mem with same | later
    · rw [same]
      exact before
    · exact each _ later

theorem margin_append {ls : List Line} {l : Line} (hl : l ∈ ls) (written : isBlankLine l = false) :
    l = margin ls ++ l.drop (margin ls).length :=
  List.prefix_iff_eq_append.mp
    ((margin_indentation hl written).trans (List.takeWhile_prefix isBlank)) |>.symm

theorem indentation_blank (l : Line) : ∀ c ∈ indentation l, isBlank c = true :=
  fun c hc => List.all_eq_true.mp List.all_takeWhile c hc

theorem margin_blank (ls : List Line) : ∀ c ∈ margin ls, isBlank c = true := by
  intro c hc
  unfold margin at hc
  cases given : (ls.filter (fun l => !isBlankLine l)).map indentation with
  | nil =>
    rw [given] at hc
    cases hc
  | cons first others =>
    rw [given] at hc
    have mem : first ∈ (ls.filter (fun l => !isBlankLine l)).map indentation := by simp [given]
    obtain ⟨l, -, rfl⟩ := List.mem_map.mp mem
    exact indentation_blank l c ((foldl_commonPrefix _ others).1.subset hc)

section Joined

variable {boundary : Char → Bool}

variable {l : Line} {ls : List Line}

theorem chunks_line (breaks : boundary '\n' = true)
    (clear : ∀ c ∈ l, boundary c = false) (rest : List Char) :
    chunks boundary (l ++ '\n' :: rest) = (l, ['\n']) :: chunks boundary rest := by
  induction l with
  | nil =>
    rw [nil_append, chunks, if_pos breaks, if_neg]
    rintro ⟨same, -⟩
    exact absurd same (by decide)
  | cons c l ih =>
    have apart : boundary c = false := clear c mem_cons_self
    rw [List.cons_append, chunks, if_neg (by rw [apart]; decide),
      ih fun d hd => clear d (mem_cons_of_mem c hd)]

theorem chunks_last (clear : ∀ c ∈ l, boundary c = false) (written : l ≠ []) :
    chunks boundary l = [(l, [])] := by
  induction l with
  | nil => exact absurd rfl written
  | cons c l ih =>
    have apart : boundary c = false := clear c mem_cons_self
    rw [chunks, if_neg (by rw [apart]; decide)]
    cases l with
    | nil => rfl
    | cons d l => rw [ih (fun e he => clear e (mem_cons_of_mem c he)) (by simp)]

theorem joined_cons_cons (l l' : Line) (ls : List Line) :
    joined (l :: l' :: ls) = l ++ '\n' :: joined (l' :: ls) := by
  unfold joined
  rw [List.intercalate_cons_cons, append_assoc]
  rfl

theorem joined_singleton (l : Line) : joined [l] = l := List.intercalate_singleton

theorem joined_append {ls' : List Line} (h : ls ≠ []) (h' : ls' ≠ []) :
    joined (ls ++ ls') = joined ls ++ '\n' :: joined ls' := by
  induction ls with
  | nil => exact absurd rfl h
  | cons l ls ih =>
    cases ls with
    | nil =>
      obtain ⟨l', ls', rfl⟩ := List.exists_cons_of_ne_nil h'
      rw [joined_singleton]
      exact joined_cons_cons l l' ls'
    | cons k ls =>
      change joined (l :: k :: (ls ++ ls')) = _
      rw [joined_cons_cons, joined_cons_cons, append_assoc]
      exact congrArg (l ++ '\n' :: ·) (ih (by simp))

theorem joined_flatten {pieces : List (List Line)} (filled : ∀ ls ∈ pieces, ls ≠ []) :
    joined (pieces.map joined) = joined pieces.flatten := by
  induction pieces with
  | nil => rfl
  | cons ls pieces ih =>
    have later := ih fun k hk => filled k (mem_cons_of_mem ls hk)
    cases pieces with
    | nil =>
      rw [List.map_singleton, joined_singleton, List.flatten_singleton]
    | cons k pieces =>
      have rest : (k :: pieces).flatten ≠ [] := by
        rw [List.flatten_cons]
        exact List.append_ne_nil_of_left_ne_nil (filled k (by simp)) _
      rw [List.flatten_cons, joined_append (filled ls mem_cons_self) rest, ← later]
      exact joined_cons_cons _ _ _

theorem lines_joined_feed (breaks : boundary '\n' = true)
    (clear : ∀ l ∈ ls, ∀ c ∈ l, boundary c = false) (h : ls ≠ []) :
    lines boundary (joined ls ++ ['\n']) = ls := by
  induction ls with
  | nil => exact absurd rfl h
  | cons l ls ih =>
    have first := clear l mem_cons_self
    cases ls with
    | nil =>
      rw [joined_singleton, lines, chunks_line breaks first]
      rfl
    | cons l' ls =>
      have later := ih (fun k hk => clear k (mem_cons_of_mem l hk)) (by simp)
      rw [joined_cons_cons, append_assoc, List.cons_append, lines, chunks_line breaks first]
      exact congrArg (l :: ·) later

theorem indent_joined (before : Line)
    (clear : ∀ l ∈ ls, ∀ c ∈ l, isLineBoundary c = false) (written : ∀ l ∈ ls.getLast?, l ≠ []) :
    indent before (joined ls) = joined (ls.map (indentLine before)) := by
  induction ls with
  | nil => rfl
  | cons l ls ih =>
    cases ls with
    | nil =>
      rw [joined_singleton, indent, chunks_last (clear l mem_cons_self) (written l rfl)]
      change (indentLine before l ++ []) ++ [] = joined [indentLine before l]
      rw [append_nil, append_nil, joined_singleton]
    | cons l' ls =>
      have later := ih (fun k hk => clear k (mem_cons_of_mem l hk)) (fun k hk =>
        written k (by rwa [List.getLast?_cons_cons]))
      rw [joined_cons_cons, indent, chunks_line (by decide) (clear l mem_cons_self)]
      change (indentLine before l ++ ['\n']) ++ indent before (joined (l' :: ls)) = _
      rw [later, append_assoc]
      exact (joined_cons_cons _ _ _).symm

theorem dedent_joined (clear : ∀ l ∈ ls, '\n' ∉ l) (written : ls ≠ []) :
    dedent (joined ls) = joined (ls.map (dedentLine (margin ls))) := by
  have pieces : (joined ls).splitOn '\n' = ls := List.splitOn_intercalate '\n' clear written
  unfold dedent
  rw [pieces]

theorem joined_head (h : ls.head? = some l) :
    ∃ rest, joined ls = l ++ rest := by
  obtain ⟨ls, rfl⟩ := List.head?_eq_some_iff.mp h
  cases ls with
  | nil => exact ⟨[], by rw [joined_singleton, append_nil]⟩
  | cons l' ls => exact ⟨_, joined_cons_cons l l' ls⟩

theorem joined_last (h : ls.getLast? = some l) :
    ∃ rest, joined ls = rest ++ l := by
  obtain ⟨ls, rfl⟩ := List.getLast?_eq_some_iff.mp h
  by_cases empty : ls = []
  · exact ⟨[], by rw [empty, nil_append, joined_singleton, nil_append]⟩
  · refine ⟨joined ls ++ ['\n'], ?_⟩
    rw [joined_append empty (by simp), joined_singleton, append_assoc]
    rfl

end Joined

theorem isLineBoundary_of_newline {c : Char} (h : isNewline c = true) :
    isLineBoundary c = true := by
  rcases Bool.or_eq_true_iff.mp h with same | same
  · rw [of_decide_eq_true same]
    rfl
  · rw [of_decide_eq_true same]
    rfl

section Cons

variable {boundary : Char → Bool} {c : Char} {text : List Char}

theorem lines_boundary (breaks : boundary c = true)
    (single : ¬ (c = '\r' ∧ text.head? = some '\n')) :
    lines boundary (c :: text) = [] :: lines boundary text := by
  rw [lines, chunks, if_pos breaks, if_neg single]
  rfl

theorem lines_pair (return_breaks : boundary '\r' = true) (feed_breaks : boundary '\n' = true)
    (first : text.head? = some '\n') : lines boundary ('\r' :: text) = lines boundary text := by
  obtain ⟨rest, rfl⟩ : ∃ rest, text = '\n' :: rest := List.head?_eq_some_iff.mp first
  have feed : chunks boundary ('\n' :: rest) = ([], ['\n']) :: chunks boundary rest :=
    chunks_line (l := []) feed_breaks (fun c hc => absurd hc List.not_mem_nil) rest
  rw [lines, lines, chunks, if_pos return_breaks, if_pos ⟨rfl, first⟩, feed]
  rfl

def precede (c : Char) : List Line → List Line
  | [] => [[c]]
  | l :: ls => (c :: l) :: ls

theorem lines_other (inside : boundary c = false) :
    lines boundary (c :: text) = precede c (lines boundary text) := by
  unfold lines
  rw [chunks, if_neg (by rw [inside]; decide)]
  cases chunks boundary text with
  | nil => rfl
  | cons chunk more => rfl

theorem precede_take {n : Nat} {ls ls' : List Line} (h : ls.take (n + 1) = ls'.take (n + 1)) :
    (precede c ls).take (n + 1) = (precede c ls').take (n + 1) := by
  cases ls with
  | nil =>
    cases ls' with
    | nil => rfl
    | cons l' ls' => cases h
  | cons l ls =>
    cases ls' with
    | nil => cases h
    | cons l' ls' =>
      obtain ⟨rfl, rest⟩ := List.cons.inj h
      exact congrArg ((c :: l) :: ·) rest

theorem precede_first (n : Nat) (ls : List Line) :
    ∃ l ∈ (precede c ls).take (n + 1), c ∈ l := by
  cases ls with
  | nil => exact ⟨[c], by simp [precede], mem_cons_self⟩
  | cons l ls => exact ⟨c :: l, by simp [precede], mem_cons_self⟩

theorem precede_mem {n : Nat} {ls : List Line} {l : Line} (hl : l ∈ ls.take (n + 1)) :
    ∃ l' ∈ (precede c ls).take (n + 1), l ⊆ l' := by
  cases ls with
  | nil => cases hl
  | cons first ls =>
    rcases List.mem_cons.mp hl with rfl | later
    · exact ⟨c :: l, mem_cons_self, List.subset_cons_self c l⟩
    · exact ⟨l, mem_cons_of_mem _ later, List.Subset.refl l⟩

end Cons

theorem splitlines_take {text : List Char} {n : Nat}
    (clear : ∀ l ∈ (physicalLines text).take n, ∀ c ∈ l, isLineBoundary c = false) :
    (splitlines text).take n = (physicalLines text).take n := by
  induction text generalizing n with
  | nil => rfl
  | cons c text ih =>
    cases n with
    | zero => rfl
    | succ n =>
      by_cases breaks : isNewline c = true
      · have both := isLineBoundary_of_newline breaks
        by_cases pair : c = '\r' ∧ text.head? = some '\n'
        · obtain ⟨rfl, first⟩ := pair
          rw [splitlines, physicalLines, lines_pair (by decide) (by decide) first,
            lines_pair (by decide) (by decide) first]
          refine ih fun l hl => clear l ?_
          rwa [physicalLines, lines_pair (by decide) (by decide) first]
        · rw [physicalLines, lines_boundary breaks pair] at clear
          rw [splitlines, physicalLines, lines_boundary both pair, lines_boundary breaks pair,
            List.take_succ_cons, List.take_succ_cons]
          exact congrArg ([] :: ·) (ih fun l hl => clear l (mem_cons_of_mem [] hl))
      · have inside : isNewline c = false := by simpa using breaks
        rw [physicalLines, lines_other inside] at clear
        obtain ⟨first, there, mem⟩ := precede_first (c := c) n (lines isNewline text)
        rw [splitlines, physicalLines, lines_other inside, lines_other (clear first there c mem)]
        refine precede_take (ih fun l hl d hd => ?_)
        obtain ⟨l', hl', sub⟩ := precede_mem (c := c) hl
        exact clear l' hl' d (sub hd)

end Orcheo.Lib.Lines
