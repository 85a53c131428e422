import IrohWebRtc.Lib.Utf8
import Mathlib.Data.List.DropRight

/-!
# Base64

Three bytes are four symbols of an alphabet of sixty-four; one or two bytes at the end are two or
three.  The two alphabets in use differ in their last two symbols, so the alphabet is a parameter,
and what is needed of it is that every symbol has the value of its place.

A decoder that takes the symbols of some bytes and nothing else has to look at the bits that are
left over at the end, of which there are two or four: they are zero in every encoding, and a text
in which they are not encodes nothing.  Without this check several texts would stand for the same
bytes.

* `encode`, `pad`: the symbols of some bytes, and what fills them up to a multiple of four.
* `decode`: the bytes of symbols without padding.  The bits that are left over must be zero.
* `decode_encode`: decoding undoes encoding.
* `decode_eq_some_iff`: only encodings are decoded.
* `decodePadded`: the bytes of symbols with their padding, which must be the right one.
-/

namespace Base64

open Utf8

def commonSymbols : List Char :=
  "ABCDEFGHIJKLMNOPQRSTUVWXYZabcdefghijklmnopqrstuvwxyz0123456789".toList

/-- The alphabet of `STANDARD`. -/
def standard : List Char := commonSymbols ++ ['+', '/']

/-- The alphabet of `URL_SAFE`. -/
def urlSafe : List Char := commonSymbols ++ ['-', '_']

variable (alphabet : List Char)

def symbol (n : ℕ) : Char := alphabet.getD n 'A'

def value (c : Char) : Option ℕ := alphabet.idxOf? c

/-- The symbols of some bytes. -/
def encode : List UInt8 → List Char
  | [] => []
  | [a] => [symbol alphabet (a.toNat / 4), symbol alphabet (a.toNat % 4 * 16)]
  | [a, b] =>
    [symbol alphabet (a.toNat / 4), symbol alphabet (a.toNat % 4 * 16 + b.toNat / 16),
      symbol alphabet (b.toNat % 16 * 4)]
  | a :: b :: c :: bs =>
    symbol alphabet (a.toNat / 4) :: symbol alphabet (a.toNat % 4 * 16 + b.toNat / 16) ::
      symbol alphabet (b.toNat % 16 * 4 + c.toNat / 64) :: symbol alphabet (c.toNat % 64) ::
        encode bs

/-- Some symbols, filled up to a multiple of four. -/
def pad (cs : List Char) : List Char := cs ++ List.replicate ((4 - cs.length % 4) % 4) '='

/-- The bytes of some symbols. -/
def decode : List Char → Option (List UInt8)
  | [] => some []
  | [_] => none
  | [c, d] =>
    (value alphabet c).bind fun x => (value alphabet d).bind fun y =>
      if y % 16 = 0 then some [UInt8.ofNat (x * 4 + y / 16)] else none
  | [c, d, e] =>
    (value alphabet c).bind fun x => (value alphabet d).bind fun y =>
      (value alphabet e).bind fun z =>
        if z % 4 = 0 then
          some [UInt8.ofNat (x * 4 + y / 16), UInt8.ofNat (y % 16 * 16 + z / 4)]
        else none
  | c :: d :: e :: f :: cs =>
    (value alphabet c).bind fun x => (value alphabet d).bind fun y =>
      (value alphabet e).bind fun z => (value alphabet f).bind fun w =>
        (decode cs).map fun bs => UInt8.ofNat (x * 4 + y / 16) ::
          UInt8.ofNat (y % 16 * 16 + z / 4) :: UInt8.ofNat (z % 4 * 64 + w) :: bs

/-- The bytes of some symbols and the padding that `pad` gives them. -/
def decodePadded (cs : List Char) : Option (List UInt8) :=
  let body := cs.rdropWhile (· = '=')
  if pad body = cs then decode alphabet body else none

/-! ## Encodings -/

variable {alphabet}

/-- The symbols of an encoding are those of the alphabet. -/
theorem mem_of_mem_encode (hlength : alphabet.length = 64) {bs : List UInt8} {c : Char}
    (h : c ∈ encode alphabet bs) : c ∈ alphabet := by
  have hsymbol : ∀ n < 64, symbol alphabet n ∈ alphabet := by
    intro n hn
    rw [symbol, List.getD, List.getElem?_eq_getElem (hlength ▸ hn), Option.getD_some]
    exact List.getElem_mem _
  fun_induction encode alphabet bs with
  | case1 => exact absurd h List.not_mem_nil
  | case2 a =>
    have ha := a.toNat_lt
    simp only [List.mem_cons, List.not_mem_nil, or_false] at h
    rcases h with rfl | rfl <;> exact hsymbol _ (by omega)
  | case3 a b =>
    have ha := a.toNat_lt
    have hb := b.toNat_lt
    simp only [List.mem_cons, List.not_mem_nil, or_false] at h
    rcases h with rfl | rfl | rfl <;> exact hsymbol _ (by omega)
  | case4 a b c bs ih =>
    have ha := a.toNat_lt
    have hb := b.toNat_lt
    have hc := c.toNat_lt
    simp only [List.mem_cons] at h
    rcases h with rfl | rfl | rfl | rfl | h
    · exact hsymbol _ (by omega)
    · exact hsymbol _ (by omega)
    · exact hsymbol _ (by omega)
    · exact hsymbol _ (by omega)
    · exact ih h

theorem length_encode (bs : List UInt8) :
    (encode alphabet bs).length = (4 * bs.length + 2) / 3 := by
  fun_induction encode alphabet bs with
  | case1 => simp
  | case2 a => simp
  | case3 a b => simp
  | case4 a b c bs ih =>
    simp only [List.length_cons, ih]
    omega

/-- **Decoding undoes encoding**, in an alphabet in which every symbol has its value. -/
theorem decode_encode (hvalue : ∀ n < 64, value alphabet (symbol alphabet n) = some n)
    (bs : List UInt8) : decode alphabet (encode alphabet bs) = some bs := by
  have hbyte : ∀ {n : ℕ} {a : UInt8}, n = a.toNat → UInt8.ofNat n = a := by
    rintro _ a rfl
    exact UInt8.ofNat_toNat
  fun_induction encode alphabet bs with
  | case1 => rfl
  | case2 a =>
    have ha := a.toNat_lt
    have hzero : a.toNat % 4 * 16 % 16 = 0 := by omega
    simp only [decode, hvalue (a.toNat / 4) (by omega), hvalue (a.toNat % 4 * 16) (by omega),
      Option.bind_some, if_pos hzero, Option.some.injEq, List.cons.injEq, and_true]
    exact hbyte (by omega)
  | case3 a b =>
    have ha := a.toNat_lt
    have hb := b.toNat_lt
    have hzero : b.toNat % 16 * 4 % 4 = 0 := by omega
    simp only [decode, hvalue (a.toNat / 4) (by omega),
      hvalue (a.toNat % 4 * 16 + b.toNat / 16) (by omega), hvalue (b.toNat % 16 * 4) (by omega),
      Option.bind_some, if_pos hzero, Option.some.injEq, List.cons.injEq, and_true]
    exact ⟨hbyte (by omega), hbyte (by omega)⟩
  | case4 a b c bs ih =>
    have ha := a.toNat_lt
    have hb := b.toNat_lt
    have hc := c.toNat_lt
    simp only [decode, hvalue (a.toNat / 4) (by omega),
      hvalue (a.toNat % 4 * 16 + b.toNat / 16) (by omega),
      hvalue (b.toNat % 16 * 4 + c.toNat / 64) (by omega), hvalue (c.toNat % 64) (by omega), ih,
      Option.bind_some, Option.map_some, Option.some.injEq, List.cons.injEq, and_true]
    exact ⟨hbyte (by omega), hbyte (by omega), hbyte (by omega)⟩

/-! ## Decodings -/

theorem symbol_of_value {c : Char} {x : ℕ} (h : value alphabet c = some x) :
    x < alphabet.length ∧ symbol alphabet x = c := by
  obtain ⟨hlt, hget, -⟩ := List.idxOf?_eq_some_iff.mp h
  refine ⟨hlt, ?_⟩
  rw [symbol, List.getD, List.getElem?_eq_getElem hlt, Option.getD_some]
  exact hget

/-- **Only encodings are decoded.** -/
theorem encode_decode (hlength : alphabet.length ≤ 64) {cs : List Char} {bs : List UInt8}
    (h : decode alphabet cs = some bs) : encode alphabet bs = cs := by
  have hsymbol : ∀ {c : Char} {x : ℕ}, value alphabet c = some x →
      x < 64 ∧ ∀ n, n = x → symbol alphabet n = c := by
    intro c x hvalue
    obtain ⟨hlt, hsymbol⟩ := symbol_of_value hvalue
    exact ⟨Nat.lt_of_lt_of_le hlt hlength, fun n hn => hn ▸ hsymbol⟩
  have hbyte : ∀ {n : ℕ}, n < 256 → (UInt8.ofNat n).toNat = n := fun hn =>
    UInt8.toNat_ofNat_of_lt' hn
  fun_induction decode alphabet cs generalizing bs with
  | case1 =>
    obtain rfl := Option.some.inj h
    rfl
  | case2 => cases h
  | case3 c d =>
    obtain ⟨x, hc, h⟩ := Option.bind_eq_some_iff.mp h
    obtain ⟨y, hd, h⟩ := Option.bind_eq_some_iff.mp h
    split_ifs at h with hzero
    obtain rfl := Option.some.inj h
    obtain ⟨hx, hc⟩ := hsymbol hc
    obtain ⟨hy, hd⟩ := hsymbol hd
    rw [encode, hbyte (by omega), hc _ (by omega), hd _ (by omega)]
  | case4 c d e =>
    obtain ⟨x, hc, h⟩ := Option.bind_eq_some_iff.mp h
    obtain ⟨y, hd, h⟩ := Option.bind_eq_some_iff.mp h
    obtain ⟨z, he, h⟩ := Option.bind_eq_some_iff.mp h
    split_ifs at h with hzero
    obtain rfl := Option.some.inj h
    obtain ⟨hx, hc⟩ := hsymbol hc
    obtain ⟨hy, hd⟩ := hsymbol hd
    obtain ⟨hz, he⟩ := hsymbol he
    rw [encode, hbyte (by omega), hbyte (by omega), hc _ (by omega), hd _ (by omega),
      he _ (by omega)]
  | case5 c d e f cs ih =>
    obtain ⟨x, hc, h⟩ := Option.bind_eq_some_iff.mp h
    obtain ⟨y, hd, h⟩ := Option.bind_eq_some_iff.mp h
    obtain ⟨z, he, h⟩ := Option.bind_eq_some_iff.mp h
    obtain ⟨w, hf, h⟩ := Option.bind_eq_some_iff.mp h
    obtain ⟨bs', hrest, rfl⟩ := Option.map_eq_some_iff.mp h
    obtain ⟨hx, hc⟩ := hsymbol hc
    obtain ⟨hy, hd⟩ := hsymbol hd
    obtain ⟨hz, he⟩ := hsymbol he
    obtain ⟨hw, hf⟩ := hsymbol hf
    rw [encode, hbyte (by omega), hbyte (by omega), hbyte (by omega), hc _ (by omega),
      hd _ (by omega), he _ (by omega), hf _ (by omega), ih hrest]

theorem decode_eq_some_iff (hlength : alphabet.length ≤ 64)
    (hvalue : ∀ n < 64, value alphabet (symbol alphabet n) = some n) {cs : List Char}
    {bs : List UInt8} : decode alphabet cs = some bs ↔ encode alphabet bs = cs :=
  ⟨encode_decode hlength, fun h => h ▸ decode_encode hvalue bs⟩

/-- What is appended to a text that does not end with `=` is dropped again. -/
theorem rdropWhile_pad {cs : List Char} (h : '=' ∉ cs) :
    (pad cs).rdropWhile (· = '=') = cs := by
  have hdrop : ∀ n, (cs ++ List.replicate n '=').rdropWhile (· = '=') = cs := by
    intro n
    induction n with
    | zero =>
      rw [List.replicate_zero, List.append_nil, List.rdropWhile_eq_self_iff]
      intro hne hlast
      exact h (of_decide_eq_true hlast ▸ List.getLast_mem hne)
    | succ n ih =>
      rw [List.replicate_succ', ← List.append_assoc,
        List.rdropWhile_concat, if_pos (decide_eq_true rfl), ih]
  exact hdrop _

theorem decodePadded_pad_encode (hlength : alphabet.length = 64)
    (hvalue : ∀ n < 64, value alphabet (symbol alphabet n) = some n) (hmark : '=' ∉ alphabet)
    (bs : List UInt8) : decodePadded alphabet (pad (encode alphabet bs)) = some bs := by
  have hsymbols : ∀ c ∈ encode alphabet bs, c ∈ alphabet := fun c => mem_of_mem_encode hlength
  have hbody := rdropWhile_pad fun hmem => hmark (hsymbols _ hmem)
  rw [decodePadded, hbody, if_pos rfl, decode_encode hvalue]

theorem value_symbol_standard : ∀ n < 64, value standard (symbol standard n) = some n := by
  decide +kernel

theorem value_symbol_urlSafe : ∀ n < 64, value urlSafe (symbol urlSafe n) = some n := by
  decide +kernel

end Base64
