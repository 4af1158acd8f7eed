import MatrixSdk.Rust.Bytes

/-!
# The string operations of the armor parser

`decrypt_key_export` recognises an armored export with four operations of Rust's
`str`: it trims the text at both ends before looking for the marker lines
(`trim_start`, `trim_end`, `starts_with`, `ends_with`), and it cuts the text into
`lines` to drop the marker lines before gluing the rest back with `collect`. The
export side glues its three lines with `join("\n")`. They are modelled here on the
characters of a `String`, as Rust defines them:

* whitespace is Unicode's `White_Space` property (`MatrixSdk.Str.isWhitespace`),
  not only the ASCII blanks;
* `lines` is `split_terminator('\n')` – a last empty piece is dropped – followed by
  the removal of one trailing `'\r'` from every line.

The one law the armor needs is `MatrixSdk.Str.lines_join`: cutting the join of
lines that hold no line break gives the lines back.
-/

namespace MatrixSdk

namespace Str

/-- `char::is_whitespace`: the characters with Unicode's `White_Space`
property. -/
def isWhitespace (c : Char) : Bool :=
  let n := c.toNat
  (0x9 ≤ n && n ≤ 0xd) || n == 0x20 || n == 0x85 || n == 0xa0 || n == 0x1680 ||
    (0x2000 ≤ n && n ≤ 0x200a) || n == 0x2028 || n == 0x2029 || n == 0x202f ||
    n == 0x205f || n == 0x3000

/-- `str::trim_start`. -/
def trimStart (s : String) : String := ⟨s.data.dropWhile isWhitespace⟩

/-- `str::trim_end`. -/
def trimEnd (s : String) : String := ⟨(s.data.reverse.dropWhile isWhitespace).reverse⟩

/-- `str::starts_with` with a string pattern. -/
def startsWith (s p : String) : Bool := p.data.isPrefixOf s.data

/-- `str::ends_with` with a string pattern. -/
def endsWith (s p : String) : Bool := p.data.isSuffixOf s.data

/-- `str::split_terminator(c)`: the pieces between the occurrences of `c`, the
last one dropped when it is empty. -/
def splitTerminator (c : Char) (l : List Char) : List (List Char) :=
  let parts := l.splitOn c
  if parts.getLast? = some [] then parts.dropLast else parts

/-- The map `str::lines` puts after the split: one trailing `'\r'` is removed. -/
def stripCr (l : List Char) : List Char :=
  if l.getLast? = some '\r' then l.dropLast else l

/-- `str::lines`. -/
def lines (s : String) : List String :=
  (splitTerminator '\n' s.data).map fun l => ⟨stripCr l⟩

/-- `Iterator::collect::<String>()` over string slices: their concatenation. -/
def collect (parts : List String) : String := ⟨(parts.map String.data).flatten⟩

/-- `[..].join(sep)` over strings. -/
def join (sep : String) (parts : List String) : String :=
  ⟨sep.data.intercalate (parts.map String.data)⟩

/-! ### Trimming -/

theorem trimStart_append {w : String} (hw : ∀ c ∈ w.data, isWhitespace c = true)
    (s : String) : trimStart (w ++ s) = trimStart s := by
  simp only [trimStart, String.data_append, List.dropWhile_append,
    List.dropWhile_eq_nil_iff.mpr hw, List.isEmpty_nil, if_true]

theorem trimEnd_append {w : String} (hw : ∀ c ∈ w.data, isWhitespace c = true)
    (s : String) : trimEnd (s ++ w) = trimEnd s := by
  have hr : ∀ c ∈ w.data.reverse, isWhitespace c = true := fun c hc =>
    hw c (List.mem_reverse.mp hc)
  simp only [trimEnd, String.data_append, List.reverse_append, List.dropWhile_append,
    List.dropWhile_eq_nil_iff.mpr hr, List.isEmpty_nil, if_true]

/-! ### Prefixes and suffixes -/

theorem startsWith_append (p s : String) : startsWith (p ++ s) p = true := by
  simp [startsWith]

/-- A string does not start with a pattern whose first character it never holds. -/
theorem startsWith_eq_false {s p : String} {c : Char} {l : List Char} (hp : p.data = c :: l)
    (hc : c ∉ s.data) : startsWith s p = false := by
  rw [startsWith, hp, Bool.eq_false_iff]
  intro h
  obtain ⟨t, ht⟩ := (List.isPrefixOf_iff_prefix.mp h)
  exact hc (ht ▸ by simp)

/-- A string does not start with a pattern it parts from: after a common stretch, the
next characters differ. -/
theorem startsWith_of_ne_at {s p : String} {l m n : List Char} {c d : Char}
    (hs : s.data = l ++ c :: m) (hp : p.data = l ++ d :: n) (h : c ≠ d) :
    startsWith s p = false := by
  rw [startsWith, hs, hp]
  clear hs hp
  induction l with
  | nil => simp [List.isPrefixOf, Ne.symm h]
  | cons a l ih => simpa [List.isPrefixOf] using ih

/-- A text that starts with a pattern whose first character is not a blank still
starts with it once trimmed. -/
theorem startsWith_trimStart {x p : String} {c : Char} {l r : List Char} (hp : p.data = c :: l)
    (hc : isWhitespace c = false) (hx : x.data = p.data ++ r) :
    startsWith (trimStart x) p = true := by
  simp [trimStart, startsWith, hx, hp, List.dropWhile_cons, hc]

/-- A text that ends with a pattern whose last character is not a blank still ends
with it once trimmed. -/
theorem endsWith_trimEnd {x p : String} {c : Char} {l r : List Char} (hp : p.data = l ++ [c])
    (hc : isWhitespace c = false) (hx : x.data = r ++ p.data) :
    endsWith (trimEnd x) p = true := by
  simp [trimEnd, endsWith, hx, hp, List.dropWhile_cons, hc]

/-! ### Lines -/

theorem stripCr_of_ne {l : List Char} (h : l.getLast? ≠ some '\r') : stripCr l = l := by
  simp [stripCr, h]

theorem stripCr_concat_cr (l : List Char) : stripCr (l ++ ['\r']) = l := by
  simp [stripCr]

theorem map_stripCr {ls : List String} (hcr : ∀ l ∈ ls, l.data.getLast? ≠ some '\r') :
    ls.map (fun l => (⟨stripCr l.data⟩ : String)) = ls := by
  conv_rhs => rw [← List.map_id ls]
  refine List.map_congr_left fun l hl => ?_
  simp [stripCr_of_ne (hcr l hl)]

/-- Cutting a join into lines gives the lines back, each without one trailing
carriage return, when no line holds a line break and the last line is not empty. -/
theorem lines_join_stripCr {ls : List String} (hne : ls ≠ [])
    (hnl : ∀ l ∈ ls, '\n' ∉ l.data) (hlast : ls.getLast? ≠ some "") :
    lines (join "\n" ls) = ls.map fun l => (⟨stripCr l.data⟩ : String) := by
  have hsplit : (['\n'].intercalate (ls.map String.data)).splitOn '\n' = ls.map String.data :=
    List.splitOn_intercalate _ _ (by simpa using hnl) (by simpa using hne)
  have hend : (ls.map String.data).getLast? ≠ some [] := by
    rw [List.getLast?_map]
    intro h
    obtain ⟨l, hl, hl0⟩ := Option.map_eq_some'.mp h
    exact hlast (hl.trans (congrArg _ (String.ext_iff.mpr hl0)))
  simp only [lines, join, splitTerminator, hsplit, if_neg hend, List.map_map]
  rfl

/-- A line break at the end closes the last line and opens none: the empty piece
after it is the one `split_terminator` drops. -/
theorem lines_join_newline_stripCr {ls : List String} (hnl : ∀ l ∈ ls, '\n' ∉ l.data) :
    lines (join "\n" (ls ++ [""])) = ls.map fun l => (⟨stripCr l.data⟩ : String) := by
  have hsplit : (['\n'].intercalate ((ls ++ [""]).map String.data)).splitOn '\n' =
      ls.map String.data ++ [[]] := by
    rw [List.splitOn_intercalate _ _ (by simpa [or_imp, forall_and] using hnl) (by simp)]
    simp
  simp only [lines, join, splitTerminator, hsplit, List.getLast?_concat, if_true,
    List.dropLast_concat, List.map_map]
  rfl

/-- **Cutting a join into lines gives the lines back**, when no line holds a
line break or ends with a carriage return, and the last line is not empty. -/
theorem lines_join {ls : List String} (hne : ls ≠ [])
    (hnl : ∀ l ∈ ls, '\n' ∉ l.data) (hcr : ∀ l ∈ ls, l.data.getLast? ≠ some '\r')
    (hlast : ls.getLast? ≠ some "") : lines (join "\n" ls) = ls := by
  rw [lines_join_stripCr hne hnl hlast, map_stripCr hcr]

theorem lines_join_newline {ls : List String} (hnl : ∀ l ∈ ls, '\n' ∉ l.data)
    (hcr : ∀ l ∈ ls, l.data.getLast? ≠ some '\r') : lines (join "\n" (ls ++ [""])) = ls := by
  rw [lines_join_newline_stripCr hnl, map_stripCr hcr]

/-! ### Joining -/

theorem join_singleton (sep a : String) : join sep [a] = a := by
  simp [join, String.ext_iff, List.intercalate]

theorem join_cons (sep a : String) {l : List String} (hl : l ≠ []) :
    join sep (a :: l) = a ++ sep ++ join sep l := by
  obtain ⟨b, l, rfl⟩ := List.exists_cons_of_ne_nil hl
  simp [join, String.ext_iff, List.intercalate, List.intersperse_cons_cons]

theorem join_concat (sep : String) {l : List String} (hl : l ≠ []) (a : String) :
    join sep (l ++ [a]) = join sep l ++ sep ++ a := by
  induction l with
  | nil => exact absurd rfl hl
  | cons b l ih =>
    cases l with
    | nil => rw [List.singleton_append, join_cons sep b (by simp), join_singleton, join_singleton]
    | cons c l =>
      rw [List.cons_append, join_cons sep b (by simp), ih (by simp), join_cons sep b (by simp)]
      simp only [String.append_assoc]

/-- Lines joined by CRLF are the lines, all but the last ended by a carriage
return, joined by LF. -/
theorem join_crlf (l : List String) (a : String) :
    join "\r\n" (l ++ [a]) = join "\n" (l.map (· ++ "\r") ++ [a]) := by
  induction l with
  | nil => rfl
  | cons b l ih =>
    rw [List.cons_append, join_cons _ b (by simp), ih, List.map_cons, List.cons_append,
      join_cons _ _ (by simp)]
    simp only [String.append_assoc, show "\r" ++ "\n" = "\r\n" by decide]

/-- Lines joined by LF or by CRLF, **with a last line end**, are cut back into the
lines, when no line holds a line break or ends with a carriage return; empty lines,
the last one included, are kept. -/
theorem lines_join_terminated {ls : List String} {t : String} (ht : t = "\n" ∨ t = "\r\n")
    (hne : ls ≠ []) (hnl : ∀ l ∈ ls, '\n' ∉ l.data)
    (hcr : ∀ l ∈ ls, l.data.getLast? ≠ some '\r') : lines (join t ls ++ t) = ls := by
  rw [← String.append_empty (join t ls ++ t), ← join_concat t hne]
  rcases ht with rfl | rfl
  · exact lines_join_newline hnl hcr
  · rw [join_crlf, lines_join_newline_stripCr (by simpa using hnl)]
    simp [Function.comp_def, stripCr_concat_cr]

/-- Lines joined by LF or by CRLF, **without a last line end**, are cut back into
the lines, when no line holds a line break or ends with a carriage return, and the
last line is not empty. -/
theorem lines_join_unterminated {ls : List String} {t : String} (ht : t = "\n" ∨ t = "\r\n")
    (hne : ls ≠ []) (hnl : ∀ l ∈ ls, '\n' ∉ l.data)
    (hcr : ∀ l ∈ ls, l.data.getLast? ≠ some '\r') (hlast : ls.getLast? ≠ some "") :
    lines (join t ls) = ls := by
  rcases ht with rfl | rfl
  · exact lines_join hne hnl hcr hlast
  · obtain ⟨init, a, rfl⟩ : ∃ init a, ls = init ++ [a] :=
      ⟨_, _, (List.dropLast_append_getLast hne).symm⟩
    have ha : a.data.getLast? ≠ some '\r' := hcr a (by simp)
    rw [join_crlf, lines_join_stripCr (by simp) ?_ (by simpa using hlast)]
    · simp [Function.comp_def, stripCr_of_ne ha, stripCr_concat_cr]
    · simpa [or_imp, forall_and] using hnl

@[simp] theorem collect_nil : collect [] = "" := rfl

@[simp] theorem collect_cons (s : String) (parts : List String) :
    collect (s :: parts) = s ++ collect parts := by
  simp [collect, String.ext_iff]

@[simp] theorem collect_append (a b : List String) :
    collect (a ++ b) = collect a ++ collect b := by
  simp [collect, String.ext_iff]

theorem collect_replicate_empty (k : Nat) : collect (List.replicate k "") = "" := by
  induction k with
  | zero => rfl
  | succ k ih => rw [List.replicate_succ, collect_cons, ih]; rfl

/-- Empty lines in front of a join: one line end each. -/
theorem join_replicate_append (t : String) (k : Nat) {l : List String} (hl : l ≠ []) :
    join t (List.replicate k "" ++ l) = collect (List.replicate k t) ++ join t l := by
  induction k with
  | zero => simp
  | succ k ih =>
    rw [List.replicate_succ, List.cons_append, join_cons _ _ (by simp [hl]), ih,
      List.replicate_succ, collect_cons]
    simp [String.append_assoc]

/-- Empty lines behind a join: one line end each. -/
theorem join_append_replicate (t : String) {l : List String} (hl : l ≠ []) (j : Nat) :
    join t (l ++ List.replicate j "") = join t l ++ collect (List.replicate j t) := by
  induction j with
  | zero => simp
  | succ j ih =>
    rw [List.replicate_succ', ← List.append_assoc, join_concat _ (by simp [hl]), ih,
      List.replicate_succ', collect_append]
    simp [String.append_assoc]

theorem mem_collect {parts : List String} {l : String} {c : Char} (hl : l ∈ parts)
    (hc : c ∈ l.data) : c ∈ (collect parts).data :=
  List.mem_flatten.mpr ⟨l.data, List.mem_map_of_mem _ hl, hc⟩

end Str

end MatrixSdk
