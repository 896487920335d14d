import Mathlib.Data.List.Basic
import Mathlib.Data.List.Infix

/-! The `str` methods the sources search and cut strings with, on a string's
characters. `str::find` with a string pattern answers a byte offset, and the
sources only ever slice at that offset and at the pattern's byte length past it,
so counting characters cuts at the same places; where a source compares the
offset of a `char` with a number, `findByte` counts bytes. Where bytes matter,
a string is taken as its UTF-8 bytes. -/

namespace AnywhereMesh

abbrev Bytes := List UInt8

/-- A string's bytes, as `str::as_bytes` gives them. -/
def utf8 (s : String) : Bytes := s.data.flatMap String.utf8EncodeChar

theorem utf8_append (a b : String) : utf8 (a ++ b) = utf8 a ++ utf8 b :=
  List.flatMap_append _ _ _

theorem toUInt8_toNat (b : UInt8) : b.toNat.toUInt8 = b :=
  UInt8.toNat.inj (UInt8.toNat_ofNat_of_lt b.toNat_lt_size)

/-- `str::find` with a string pattern: where `needle` first occurs in `hay`. -/
def findSub (needle : List Char) : List Char → Option ℕ
  | [] => if needle.isPrefixOf [] then some 0 else none
  | c :: cs => if needle.isPrefixOf (c :: cs) then some 0 else (findSub needle cs).map (· + 1)

/-- `str::find` with a `char` pattern: the byte offset of its first occurrence. -/
def findByte (ch : Char) : List Char → Option ℕ
  | [] => none
  | c :: cs => if c = ch then some 0 else (findByte ch cs).map (c.utf8Size + ·)

/-- `str::replacen(pat, to, 1)`. -/
def replaceFirst (s pat rep : List Char) : List Char :=
  match findSub pat s with
  | some i => s.take i ++ rep ++ s.drop (i + pat.length)
  | none => s

/-- `str::trim_end_matches` with a `char` pattern. -/
def trimEndMatches (ch : Char) (s : List Char) : List Char :=
  (s.reverse.dropWhile (· = ch)).reverse

/-! ### `find` -/

theorem findSub_of_isPrefixOf {needle hay : List Char} (h : needle.isPrefixOf hay = true) :
    findSub needle hay = some 0 := by
  cases hay <;> simp [findSub, h]

/-- What `find` answers is an occurrence. -/
theorem prefix_drop_of_findSub {needle hay : List Char} {pos : ℕ} (h : findSub needle hay = some pos) :
    needle <+: hay.drop pos := by
  induction hay generalizing pos with
  | nil =>
    simp only [findSub] at h
    split at h <;> cases h
    next hp => simpa using hp
  | cons c cs ih =>
    simp only [findSub] at h
    split at h
    · next hp => cases h; simpa using hp
    · obtain ⟨pos, hpos, rfl⟩ := Option.map_eq_some'.mp h
      exact ih hpos

/-- `find` answers the first occurrence: none is before it. -/
theorem findSub_le {needle hay : List Char} {k : ℕ} (h : needle <+: hay.drop k) :
    ∃ pos ≤ k, findSub needle hay = some pos := by
  induction hay generalizing k with
  | nil => exact ⟨0, k.zero_le, by simpa [findSub] using h⟩
  | cons c cs ih =>
    by_cases hp : needle.isPrefixOf (c :: cs)
    · exact ⟨0, k.zero_le, findSub_of_isPrefixOf hp⟩
    · cases k with
      | zero => simp_all
      | succ k =>
        obtain ⟨pos, hle, hpos⟩ := ih (by simpa using h)
        exact ⟨pos + 1, by omega, by simp [findSub, hp, hpos]⟩

theorem replaceFirst_of_isPrefixOf {s pat : List Char} (rep : List Char)
    (h : pat.isPrefixOf s = true) : replaceFirst s pat rep = rep ++ s.drop pat.length := by
  simp [replaceFirst, findSub_of_isPrefixOf h]

/-! ### `split` -/

/-- `split(x)` cuts a list at every `x`: the first piece, then each later one
after its `x`; no piece holds an `x`. -/
theorem splitOn_eq_cons {x : Char} {xs p : List Char} {ps : List (List Char)}
    (h : xs.splitOn x = p :: ps) :
    xs = p ++ (ps.map (x :: ·)).flatten ∧ x ∉ p ∧ ∀ l ∈ ps, x ∉ l := by
  induction xs generalizing p ps with
  | nil =>
    simp only [List.splitOn_nil, List.cons.injEq] at h
    obtain ⟨rfl, rfl⟩ := h
    simp
  | cons c cs ih =>
    obtain ⟨q, qs, hq⟩ := List.exists_cons_of_ne_nil (List.splitOnP_ne_nil (· == x) cs)
    have ih := ih hq
    simp only [List.splitOn, List.splitOnP_cons] at h hq
    split at h
    · next hc =>
      rw [hq, List.cons.injEq] at h
      obtain ⟨rfl, rfl⟩ := h
      refine ⟨?_, List.not_mem_nil x, ?_⟩
      · simp [eq_of_beq hc, ← ih.1]
      · simpa using ⟨ih.2.1, ih.2.2⟩
    · next hc =>
      rw [hq, List.modifyHead_cons, List.cons.injEq] at h
      obtain ⟨rfl, rfl⟩ := h
      refine ⟨by simp [← ih.1], ?_, ih.2.2⟩
      simp only [List.mem_cons, ih.2.1, or_false]
      rintro rfl
      exact hc (beq_self_eq_true x)

end AnywhereMesh
