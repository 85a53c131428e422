import IrohWebRtc.Lib.Bytes
import Mathlib.Algebra.BigOperators.Group.List.Basic

/-!
# Texts and their UTF-8 bytes

A text has bytes, and some bytes have a text.  The two directions are those of Lean's own strings;
what is added is the lossy direction, which gives every byte string a text and is not injective.

* `utf8Bytes s`: the bytes of a text, `size cs` of them (`length_utf8Bytes_ofList`).
* `fromUtf8 bs`: the text with those bytes, where there is one (`fromUtf8_eq_some`).
* `fromUtf8Lossy bs`: the text of `bs` with every maximal ill-formed subsequence replaced by
  `U+FFFD`.  On the bytes of a text it is that text (`fromUtf8Lossy_utf8Bytes`).

A program that compares two byte strings by their lossy texts may find them equal when they are
not.  So a lossy text is a value of its own here, and no lemma goes back from it to the bytes.
-/

namespace Utf8

/-- The UTF-8 bytes of a text. -/
def utf8Bytes (s : String) : List UInt8 := s.toByteArray.data.toList

/-- The text with the bytes `bs`, when `bs` is well formed. -/
def fromUtf8 (bs : List UInt8) : Option String := String.fromUTF8? ⟨bs.toArray⟩

/-- The text of a string that is known to be well formed. -/
def chunkText (bs : List UInt8) : String := (fromUtf8 bs).getD ""

def isContinuation (b : UInt8) : Bool := 0x80 ≤ b && b ≤ 0xBF

/-- Whether `c` may follow the leading byte `b` of a sequence of three or four bytes. -/
def secondByteOk (b c : UInt8) : Bool :=
  if b = 0xE0 then 0xA0 ≤ c && c ≤ 0xBF
  else if b = 0xED then 0x80 ≤ c && c ≤ 0x9F
  else if b = 0xF0 then 0x90 ≤ c && c ≤ 0xBF
  else if b = 0xF4 then 0x80 ≤ c && c ≤ 0x8F
  else isContinuation c

/-- How many of the bytes after the leading byte `b` belong to its sequence, and whether the
sequence is complete. -/
def trailing (b : UInt8) (rest : List UInt8) : ℕ × Bool :=
  if b < 0x80 then (0, true)
  else if 0xC2 ≤ b && b ≤ 0xDF then
    if isContinuation (rest.getD 0 0) then (1, true) else (0, false)
  else if 0xE0 ≤ b && b ≤ 0xEF then
    if secondByteOk b (rest.getD 0 0) then
      if isContinuation (rest.getD 1 0) then (2, true) else (1, false)
    else (0, false)
  else if 0xF0 ≤ b && b ≤ 0xF4 then
    if secondByteOk b (rest.getD 0 0) then
      if isContinuation (rest.getD 1 0) then
        if isContinuation (rest.getD 2 0) then (3, true) else (2, false)
      else (1, false)
    else (0, false)
  else (0, false)

/-- The text of `bs`, one sequence after the other, with `U+FFFD` for the incomplete ones. -/
def replaceIllFormed (bs : List UInt8) : String :=
  match bs with
  | [] => ""
  | b :: rest =>
    match trailing b rest with
    | (n, true) => chunkText (b :: rest.take n) ++ replaceIllFormed (rest.drop n)
    | (n, false) => "\uFFFD" ++ replaceIllFormed (rest.drop n)
termination_by bs.length
decreasing_by all_goals simp only [List.length_drop, List.length_cons]; omega

/-- The text of `bs`, with ill-formed subsequences replaced. -/
def fromUtf8Lossy (bs : List UInt8) : String :=
  match fromUtf8 bs with
  | some s => s
  | none => replaceIllFormed bs

theorem fromUtf8_eq_some {bs : List UInt8} {s : String} :
    fromUtf8 bs = some s ↔ bs = utf8Bytes s := by
  rw [fromUtf8, String.fromUTF8?]
  split
  · rename_i h
    rw [Option.some.injEq]
    constructor
    · rintro rfl
      simp [utf8Bytes, String.fromUTF8]
    · intro hbs
      apply String.toByteArray_inj.mp
      simp [String.fromUTF8, hbs, utf8Bytes]
  · rename_i h
    refine iff_of_false (by simp) fun hbs => h ?_
    rw [hbs, utf8Bytes]
    simpa using s.isValidUTF8

@[simp] theorem fromUtf8_utf8Bytes (s : String) : fromUtf8 (utf8Bytes s) = some s :=
  fromUtf8_eq_some.mpr rfl

@[simp] theorem fromUtf8Lossy_utf8Bytes (s : String) : fromUtf8Lossy (utf8Bytes s) = s := by
  rw [fromUtf8Lossy, fromUtf8_utf8Bytes]

theorem utf8Bytes_injective : Function.Injective utf8Bytes := by
  intro s t h
  have hs := fromUtf8_utf8Bytes s
  rw [h, fromUtf8_utf8Bytes] at hs
  exact (Option.some.inj hs).symm

/-! ## Sizes -/

/-- How many bytes some characters have. -/
def size (cs : List Char) : ℕ := (cs.map Char.utf8Size).sum

@[simp] theorem size_nil : size [] = 0 := rfl

@[simp] theorem size_cons (c : Char) (cs : List Char) : size (c :: cs) = c.utf8Size + size cs := by
  rw [size, size, List.map_cons, List.sum_cons]

@[simp] theorem size_append (cs ds : List Char) : size (cs ++ ds) = size cs + size ds := by
  rw [size, size, size, List.map_append, List.sum_append]

theorem size_flatMap {α : Type*} (f : α → List Char) (xs : List α) :
    size (xs.flatMap f) = (xs.map fun x => size (f x)).sum := by
  induction xs with
  | nil => rfl
  | cons x xs ih => rw [List.flatMap_cons, size_append, ih, List.map_cons, List.sum_cons]

theorem length_utf8Bytes_ofList (cs : List Char) :
    (utf8Bytes (String.ofList cs)).length = size cs := by
  have hbytes : utf8Bytes (String.ofList cs) = cs.flatMap String.utf8EncodeChar := by
    simp [utf8Bytes, List.utf8Encode]
  rw [hbytes, List.length_flatMap, size]
  simp

end Utf8
