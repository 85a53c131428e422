import IrohWebRtc.Lib.Bytes
import IrohWebRtc.Lib.Utf8
import Mathlib.Tactic.Common

/-!
# JSON

JSON values whose numbers are naturals, in the compact form without whitespace, and readers of
that form.

Programs read JSON with a library that reads much more than this: whitespace, escapes that are not
needed, numbers of all kinds.  What they rely on, as far as they exchange messages with
themselves, is that the library reads what it has written.  `JsonReader` asks for this and for
nothing else, and `parse` is a reader that shows that the demand can be met.

* `print v`: the compact form of a value.  A string escapes the quotation mark, the backslash and
  the control characters; everything else stands for itself.
* `parse cs`: the value with the compact form `cs`, with `parse_print`.
* `size_print_obj`, `size_print_arr`, `size_printString`: how many bytes the compact form has.
* `JsonReader`: a reader that undoes `print` on the values it is made for, those of bounded depth
  whose numbers have at most 64 bits.

Negative and fractional numbers are not values here.  An object is a list of fields, so a key may
occur twice, and a decoder can find out.
-/

open Bytes Utf8

/-- A JSON value whose numbers are naturals. -/
inductive Json where
  | null
  | bool (b : Bool)
  | num (n : ℕ)
  | str (s : String)
  | arr (items : List Json)
  | obj (fields : List (String × Json))

namespace Json

/-! ## Printing -/

/-- A character inside of a string. -/
def escape (c : Char) : List Char :=
  if c = '"' then ['\\', '"']
  else if c = '\\' then ['\\', '\\']
  else if c = '\n' then ['\\', 'n']
  else if c = '\r' then ['\\', 'r']
  else if c = '\t' then ['\\', 't']
  else if c = Char.ofNat 0x08 then ['\\', 'b']
  else if c = Char.ofNat 0x0c then ['\\', 'f']
  else if c.toNat < 0x20 then
    ['\\', 'u', '0', '0', Nat.digitChar (c.toNat / 16), Nat.digitChar (c.toNat % 16)]
  else [c]

def printString (s : String) : List Char := '"' :: (s.toList.flatMap escape ++ ['"'])

mutual

/-- The compact form. -/
def print : Json → List Char
  | null => ['n', 'u', 'l', 'l']
  | bool true => ['t', 'r', 'u', 'e']
  | bool false => ['f', 'a', 'l', 's', 'e']
  | num n => Nat.toDigits 10 n
  | str s => printString s
  | arr [] => ['[', ']']
  | arr (v :: vs) => '[' :: (print v ++ printItems vs)
  | obj [] => ['\x7b', '\x7d']
  | obj ((key, v) :: fields) =>
    '\x7b' :: (printString key ++ ':' :: (print v ++ printFields fields))

/-- What follows the first item of an array. -/
def printItems : List Json → List Char
  | [] => [']']
  | v :: vs => ',' :: (print v ++ printItems vs)

/-- What follows the first field of an object. -/
def printFields : List (String × Json) → List Char
  | [] => ['\x7d']
  | (key, v) :: fields => ',' :: (printString key ++ ':' :: (print v ++ printFields fields))

end

/-- The bytes of the compact form. -/
def toBytes (v : Json) : List UInt8 := utf8Bytes (String.ofList v.print)

/-! ## Parsing -/

/-- The character with four hexadecimal digits, when they are one. -/
def unescapeHex (a b c d : Char) : Option Char :=
  match hexValue a, hexValue b, hexValue c, hexValue d with
  | some a, some b, some c, some d =>
    let n := ((a * 16 + b) * 16 + c) * 16 + d
    if n.isValidChar then some (Char.ofNat n) else none
  | _, _, _, _ => none

/-- The character of an escape of two characters. -/
def unescape (c : Char) : Option Char :=
  if c = '"' ∨ c = '\\' ∨ c = '/' then some c
  else if c = 'n' then some '\n'
  else if c = 'r' then some '\r'
  else if c = 't' then some '\t'
  else if c = 'b' then some (Char.ofNat 0x08)
  else if c = 'f' then some (Char.ofNat 0x0c)
  else none

/-- A string after its opening mark, and what comes after it. -/
def parseString : List Char → Option (List Char × List Char)
  | [] => none
  | '"' :: rest => some ([], rest)
  | '\\' :: 'u' :: a :: b :: c :: d :: rest =>
    (unescapeHex a b c d).bind fun x => (parseString rest).map fun (s, rest) => (x :: s, rest)
  | '\\' :: c :: rest =>
    (unescape c).bind fun x => (parseString rest).map fun (s, rest) => (x :: s, rest)
  | c :: rest =>
    if c.toNat < 0x20 ∨ c = '\\' then none
    else (parseString rest).map fun (s, rest) => (c :: s, rest)

/-- A key with its colon. -/
def parseKey : List Char → Option (String × List Char)
  | '"' :: rest =>
    match parseString rest with
    | some (s, ':' :: rest) => some (String.ofList s, rest)
    | _ => none
  | _ => none

mutual

/-- A value, and what comes after it. -/
def parseValue : ℕ → List Char → Option (Json × List Char)
  | 0, _ => none
  | _ + 1, [] => none
  | fuel + 1, c :: rest =>
    if c.isDigit then
      let digits := (c :: rest).takeWhile Char.isDigit
      some (num (Nat.ofDigitChars 10 digits 0), rest.dropWhile Char.isDigit)
    else
      match c, rest with
      | 'n', 'u' :: 'l' :: 'l' :: rest => some (null, rest)
      | 't', 'r' :: 'u' :: 'e' :: rest => some (bool true, rest)
      | 'f', 'a' :: 'l' :: 's' :: 'e' :: rest => some (bool false, rest)
      | '"', rest => (parseString rest).map fun (s, rest) => (str (String.ofList s), rest)
      | '[', ']' :: rest => some (arr [], rest)
      | '[', rest =>
        (parseValue fuel rest).bind fun (v, rest) =>
          (parseItems fuel rest).map fun (vs, rest) => (arr (v :: vs), rest)
      | '\x7b', '\x7d' :: rest => some (obj [], rest)
      | '\x7b', rest =>
        (parseKey rest).bind fun (key, rest) =>
          (parseValue fuel rest).bind fun (v, rest) =>
            (parseFields fuel rest).map fun (fields, rest) => (obj ((key, v) :: fields), rest)
      | _, _ => none

/-- What follows the first item of an array. -/
def parseItems : ℕ → List Char → Option (List Json × List Char)
  | fuel + 1, ',' :: rest =>
    (parseValue fuel rest).bind fun (v, rest) =>
      (parseItems fuel rest).map fun (vs, rest) => (v :: vs, rest)
  | _ + 1, ']' :: rest => some ([], rest)
  | _, _ => none

/-- What follows the first field of an object. -/
def parseFields : ℕ → List Char → Option (List (String × Json) × List Char)
  | fuel + 1, ',' :: rest =>
    (parseKey rest).bind fun (key, rest) =>
      (parseValue fuel rest).bind fun (v, rest) =>
        (parseFields fuel rest).map fun (fields, rest) => ((key, v) :: fields, rest)
  | _ + 1, '\x7d' :: rest => some ([], rest)
  | _, _ => none

end

/-- The value with the compact form `cs`. -/
def parse (cs : List Char) : Option Json :=
  match parseValue (cs.length + 1) cs with
  | some (v, []) => some v
  | _ => none

/-! ## Parsing undoes printing -/

/-- Reading the escape of a character. -/
theorem parseString_escape (c : Char) (rest : List Char) :
    parseString (escape c ++ rest) = (parseString rest).map fun (s, r) => (c :: s, r) := by
  unfold escape
  split
  · subst_vars
    rfl
  split
  · subst_vars
    rfl
  split
  · subst_vars
    rfl
  split
  · subst_vars
    rfl
  split
  · subst_vars
    rfl
  split
  · subst_vars
    rfl
  split
  · subst_vars
    rfl
  split
  · rename_i hlt
    have hhigh := hexValue_digitChar (c.toNat / 16) (by omega)
    have hlow := hexValue_digitChar (c.toNat % 16) (by omega)
    have hsum : ((0 * 16 + 0) * 16 + c.toNat / 16) * 16 + c.toNat % 16 = c.toNat := by omega
    have hunescape : unescapeHex '0' '0' (Nat.digitChar (c.toNat / 16))
        (Nat.digitChar (c.toNat % 16)) = some c := by
      have hzero : hexValue '0' = some 0 := rfl
      have hvalid : c.toNat.isValidChar := c.valid
      simp only [unescapeHex, hzero, hhigh, hlow, hsum, if_pos hvalid, Char.ofNat_toNat]
    simp only [List.cons_append, List.nil_append, parseString, hunescape, Option.bind_some]
  · rename_i hquote hback _ _ _ _ _ hlt
    rw [List.cons_append, List.nil_append, parseString.eq_def]
    split
    · rename_i heq
      exact absurd heq (by simp)
    · rename_i heq
      exact absurd (List.cons.inj heq).1 hquote
    · rename_i heq
      exact absurd (List.cons.inj heq).1 hback
    · rename_i heq
      exact absurd (List.cons.inj heq).1 hback
    · rename_i heq
      obtain ⟨rfl, rfl⟩ := List.cons.inj heq
      rw [if_neg (not_or.mpr ⟨hlt, hback⟩)]

theorem parseString_flatMap (cs rest : List Char) :
    parseString (cs.flatMap escape ++ '"' :: rest) = some (cs, rest) := by
  induction cs with
  | nil => rfl
  | cons c cs ih =>
    rw [List.flatMap_cons, List.append_assoc, parseString_escape, ih]
    rfl

/-- Reading a string after its opening mark. -/
theorem parseString_print (s : String) (rest : List Char) :
    parseString (s.toList.flatMap escape ++ ['"'] ++ rest) = some (s.toList, rest) := by
  rw [List.append_assoc]
  exact parseString_flatMap s.toList rest

theorem parseKey_print (key : String) (rest : List Char) :
    parseKey (printString key ++ ':' :: rest) = some (key, rest) := by
  show (match parseString (key.toList.flatMap escape ++ ['"'] ++ ':' :: rest) with
    | some (s, ':' :: rest) => some (String.ofList s, rest)
    | _ => none) = _
  rw [parseString_print]
  simp only [String.ofList_toList]

/-- The text does not go on with a digit. -/
def NoDigit (rest : List Char) : Prop := ∀ c ∈ rest.head?, c.isDigit = false

theorem noDigit_cons {c : Char} (rest : List Char) (h : c.isDigit = false) :
    NoDigit (c :: rest) := by
  intro d hd
  obtain rfl := Option.some.inj hd
  exact h

/-- Reading a number. -/
theorem parseValue_num (fuel n : ℕ) {rest : List Char} (hrest : NoDigit rest) :
    parseValue (fuel + 1) (Nat.toDigits 10 n ++ rest) = some (num n, rest) := by
  have hdigits : ∀ c ∈ Nat.toDigits 10 n, c.isDigit = true := fun c hc =>
    Nat.isDigit_of_mem_toDigits (by omega) (by omega) hc
  have htake : (Nat.toDigits 10 n ++ rest).takeWhile Char.isDigit = Nat.toDigits 10 n := by
    rw [List.takeWhile_append_of_pos hdigits]
    cases rest with
    | nil => simp
    | cons c rest => simp [hrest c rfl]
  have hdrop : (Nat.toDigits 10 n ++ rest).dropWhile Char.isDigit = rest := by
    rw [List.dropWhile_append_of_pos hdigits]
    cases rest with
    | nil => simp
    | cons c rest => simp [hrest c rfl]
  obtain ⟨d, ds, hcons⟩ := List.exists_cons_of_ne_nil (Nat.toDigits_ne_nil (n := n) (b := 10))
  have hd : d.isDigit = true := hdigits d (by simp [hcons])
  rw [hcons, List.cons_append] at htake hdrop ⊢
  rw [List.dropWhile_cons_of_pos hd] at hdrop
  simp only [parseValue, if_pos hd, htake, hdrop]
  rw [← hcons, Nat.ofDigitChars_ten_toDigits]

/-- The compact form of a value is not empty, and no value closes an array. -/
theorem print_head (v : Json) : ∃ c cs, v.print = c :: cs ∧ c ≠ ']' := by
  match v with
  | null | bool true | bool false | arr [] | arr (_ :: _) | obj [] | obj ((_, _) :: _) =>
    exact ⟨_, _, rfl, by decide⟩
  | str s => exact ⟨_, _, rfl, by decide⟩
  | num n =>
    obtain ⟨d, ds, hcons⟩ := List.exists_cons_of_ne_nil (Nat.toDigits_ne_nil (n := n) (b := 10))
    refine ⟨d, ds, hcons, ?_⟩
    rintro rfl
    have hdigit := Nat.isDigit_of_mem_toDigits (b := 10) (n := n) (c := ']') (by omega) (by omega)
      (by simp [hcons])
    exact absurd hdigit (by decide)

/-- Reading an array that is not empty. -/
theorem parseValue_arr (fuel : ℕ) (v : Json) (rest : List Char) :
    parseValue (fuel + 1) ('[' :: (v.print ++ rest)) =
      (parseValue fuel (v.print ++ rest)).bind fun (v, rest) =>
        (parseItems fuel rest).map fun (vs, rest) => (arr (v :: vs), rest) := by
  obtain ⟨c, cs, hprint, hne⟩ := v.print_head
  rw [hprint, List.cons_append, parseValue, if_neg (by decide)]
  exact fun _ heq => hne (List.cons.inj heq).1

theorem noDigit_printItems (vs : List Json) (rest : List Char) :
    NoDigit (printItems vs ++ rest) := by
  cases vs <;> exact noDigit_cons _ (by decide)

theorem noDigit_printFields (fields : List (String × Json)) (rest : List Char) :
    NoDigit (printFields fields ++ rest) := by
  match fields with
  | [] | (_, _) :: _ => exact noDigit_cons _ (by decide)

mutual

/-- **Parsing undoes printing**, whatever comes after the value, as long as a number does not go
on there.  The length of the text is fuel enough. -/
theorem parseValue_print (v : Json) (fuel : ℕ) (rest : List Char) (hfuel : v.print.length ≤ fuel)
    (hrest : NoDigit rest) : parseValue fuel (v.print ++ rest) = some (v, rest) := by
  match fuel, v with
  | 0, v =>
    obtain ⟨c, cs, hprint, -⟩ := v.print_head
    exact absurd hfuel (by simp [hprint])
  | fuel + 1, null => rfl
  | fuel + 1, bool true => rfl
  | fuel + 1, bool false => rfl
  | fuel + 1, num n => exact parseValue_num fuel n hrest
  | fuel + 1, str s =>
    show (parseString (s.toList.flatMap escape ++ ['"'] ++ rest)).map _ = _
    rw [parseString_print]
    simp only [Option.map_some, String.ofList_toList]
  | fuel + 1, arr [] => rfl
  | fuel + 1, arr (v :: vs) =>
    simp only [print, List.length_cons, List.length_append] at hfuel
    have hv := parseValue_print v fuel (printItems vs ++ rest) (by omega)
      (noDigit_printItems vs rest)
    have hvs := parseItems_print vs fuel rest (by omega)
    show parseValue (fuel + 1) ('[' :: (v.print ++ printItems vs) ++ rest) = _
    rw [List.cons_append, List.append_assoc, parseValue_arr]
    simp only [hv, Option.bind_some, hvs, Option.map_some]
  | fuel + 1, obj [] => rfl
  | fuel + 1, obj ((key, v) :: fields) =>
    simp only [print, List.length_cons, List.length_append] at hfuel
    have hv := parseValue_print v fuel (printFields fields ++ rest) (by omega)
      (noDigit_printFields fields rest)
    have hfields := parseFields_print fields fuel rest (by omega)
    have hkey := parseKey_print key (v.print ++ printFields fields ++ rest)
    rw [List.append_assoc] at hkey
    show (parseKey (printString key ++ ':' :: (v.print ++ printFields fields) ++ rest)).bind _ = _
    rw [List.append_assoc, List.cons_append, List.append_assoc]
    simp only [hkey, hv, Option.bind_some, hfields, Option.map_some]

theorem parseItems_print (vs : List Json) (fuel : ℕ) (rest : List Char)
    (hfuel : (printItems vs).length ≤ fuel) :
    parseItems fuel (printItems vs ++ rest) = some (vs, rest) := by
  match fuel, vs with
  | 0, [] => exact absurd hfuel (by simp [printItems])
  | 0, v :: vs => exact absurd hfuel (by simp [printItems])
  | fuel + 1, [] => rfl
  | fuel + 1, v :: vs =>
    simp only [printItems, List.length_cons, List.length_append] at hfuel
    have hv := parseValue_print v fuel (printItems vs ++ rest) (by omega)
      (noDigit_printItems vs rest)
    have hvs := parseItems_print vs fuel rest (by omega)
    show (parseValue fuel (v.print ++ printItems vs ++ rest)).bind _ = _
    rw [List.append_assoc]
    simp only [hv, Option.bind_some, hvs, Option.map_some]

theorem parseFields_print (fields : List (String × Json)) (fuel : ℕ) (rest : List Char)
    (hfuel : (printFields fields).length ≤ fuel) :
    parseFields fuel (printFields fields ++ rest) = some (fields, rest) := by
  match fuel, fields with
  | 0, [] => exact absurd hfuel (by simp [printFields])
  | 0, (key, v) :: fields => exact absurd hfuel (by simp [printFields])
  | fuel + 1, [] => rfl
  | fuel + 1, (key, v) :: fields =>
    simp only [printFields, List.length_cons, List.length_append] at hfuel
    have hv := parseValue_print v fuel (printFields fields ++ rest) (by omega)
      (noDigit_printFields fields rest)
    have hfields := parseFields_print fields fuel rest (by omega)
    have hkey := parseKey_print key (v.print ++ printFields fields ++ rest)
    rw [List.append_assoc] at hkey
    show (parseKey (printString key ++ ':' :: (v.print ++ printFields fields) ++ rest)).bind _ = _
    rw [List.append_assoc, List.cons_append, List.append_assoc]
    simp only [hkey, hv, Option.bind_some, hfields, Option.map_some]

end

theorem parse_print (v : Json) : parse v.print = some v := by
  have h := parseValue_print v (v.print.length + 1) [] (by omega) (fun _ h => absurd h (by simp))
  rw [List.append_nil] at h
  rw [parse, h]

/-! ## Sizes -/

/-- The bytes of a character inside of a string. -/
def charSize (c : Char) : ℕ :=
  if c = '"' ∨ c = '\\' ∨ c = '\n' ∨ c = '\r' ∨ c = '\t' ∨ c = Char.ofNat 0x08 ∨
      c = Char.ofNat 0x0c then 2
  else if c.toNat < 0x20 then 6
  else c.utf8Size

/-- The bytes of a text inside of the quotation marks of a string. -/
def textSize (s : String) : ℕ := (s.toList.map charSize).sum

/-- The decimal digits of a byte. -/
def byteDigits (b : UInt8) : ℕ := if b.toNat < 10 then 1 else if b.toNat < 100 then 2 else 3

theorem size_digitChar : ∀ n < 16, (Nat.digitChar n).utf8Size = 1 := by decide

theorem size_escape (c : Char) : size (escape c) = charSize c := by
  unfold escape charSize
  by_cases hshort : c = '"' ∨ c = '\\' ∨ c = '\n' ∨ c = '\r' ∨ c = '\t' ∨ c = Char.ofNat 0x08 ∨
      c = Char.ofNat 0x0c
  · rw [if_pos hshort]
    rcases hshort with rfl | rfl | rfl | rfl | rfl | rfl | rfl <;> rfl
  · rw [if_neg hshort]
    simp only [not_or] at hshort
    obtain ⟨hquote, hback, hn, hr, ht, hb, hf⟩ := hshort
    rw [if_neg hquote, if_neg hback, if_neg hn, if_neg hr, if_neg ht, if_neg hb, if_neg hf]
    by_cases hlt : c.toNat < 0x20
    · rw [if_pos hlt, if_pos hlt]
      simp only [size_cons, size_nil, size_digitChar (c.toNat / 16) (by omega),
        size_digitChar (c.toNat % 16) (by omega)]
      rfl
    · rw [if_neg hlt, if_neg hlt, size_cons, size_nil, Nat.add_zero]

/-- A text whose characters stand for themselves, one byte each. -/
theorem textSize_eq_length {s : String} (h : ∀ c ∈ s.toList, charSize c = 1) :
    textSize s = s.toList.length := by
  have hone : ∀ {cs : List Char}, (∀ c ∈ cs, charSize c = 1) →
      (cs.map charSize).sum = cs.length := by
    intro cs hcs
    induction cs with
    | nil => rfl
    | cons c cs ih =>
      rw [List.map_cons, List.sum_cons, hcs c List.mem_cons_self,
        ih fun d hd => hcs d (List.mem_cons_of_mem c hd), List.length_cons, Nat.add_comm]
  exact hone h

theorem size_printString (s : String) : size (printString s) = textSize s + 2 := by
  have hmark : ('"' : Char).utf8Size = 1 := rfl
  have hescape : (fun c => size (escape c)) = charSize := funext size_escape
  rw [printString, size_cons, size_append, size_flatMap, size_cons, size_nil, hmark, hescape,
    textSize]
  omega

theorem size_print_num (b : UInt8) : size (print (num b.toNat)) = byteDigits b := by
  have hdigits : ∀ n < 256, size (Nat.toDigits 10 n) =
      if n < 10 then 1 else if n < 100 then 2 else 3 := by
    decide +kernel
  exact hdigits b.toNat b.toNat_lt

/-- The commas and the last bracket are as many as the items. -/
theorem size_printItems (vs : List Json) :
    size (printItems vs) = (vs.map fun v => size v.print + 1).sum + 1 := by
  induction vs with
  | nil => rfl
  | cons v vs ih =>
    have hcomma : (',' : Char).utf8Size = 1 := rfl
    rw [printItems, size_cons, size_append, ih, List.map_cons, List.sum_cons, hcomma]
    omega

theorem size_print_arr (v : Json) (vs : List Json) :
    size (print (arr (v :: vs))) = ((v :: vs).map fun v => size v.print + 1).sum + 1 := by
  have hbracket : ('[' : Char).utf8Size = 1 := rfl
  rw [print, size_cons, size_append, size_printItems, List.map_cons, List.sum_cons, hbracket]
  omega

/-- An array of bytes. -/
theorem size_print_bytes {bs : List UInt8} (h : bs ≠ []) :
    size (print (arr (bs.map fun b => num b.toNat))) =
      (bs.map byteDigits).sum + bs.length + 1 := by
  have hsum : ∀ bs : List UInt8,
      ((bs.map fun b => num b.toNat).map fun v => size v.print + 1).sum =
        (bs.map byteDigits).sum + bs.length := by
    intro bs
    induction bs with
    | nil => rfl
    | cons b bs ih =>
      simp only [List.map_cons, List.sum_cons, ih, size_print_num, List.length_cons]
      omega
  cases bs with
  | nil => exact absurd rfl h
  | cons b bs =>
    have hprint := size_print_arr (num b.toNat) (bs.map fun b => num b.toNat)
    rw [← List.map_cons (f := fun b : UInt8 => num b.toNat), hsum] at hprint
    exact hprint

/-- The bytes of a field with the comma or bracket in front of it. -/
def fieldSize (field : String × Json) : ℕ := textSize field.1 + size field.2.print + 4

theorem size_printFields (fields : List (String × Json)) :
    size (printFields fields) = (fields.map fieldSize).sum + 1 := by
  induction fields with
  | nil => rfl
  | cons field fields ih =>
    have hcomma : (',' : Char).utf8Size = 1 := rfl
    have hcolon : (':' : Char).utf8Size = 1 := rfl
    rw [printFields, size_cons, size_append, size_printString, size_cons, size_append, ih,
      List.map_cons, List.sum_cons, fieldSize, hcomma, hcolon]
    omega

theorem size_print_obj (field : String × Json) (fields : List (String × Json)) :
    size (print (obj (field :: fields))) = ((field :: fields).map fieldSize).sum + 1 := by
  have hbrace : ('\x7b' : Char).utf8Size = 1 := rfl
  have hcolon : (':' : Char).utf8Size = 1 := rfl
  rw [print, size_cons, size_append, size_printString, size_cons, size_append, size_printFields,
    List.map_cons, List.sum_cons, fieldSize, hbrace, hcolon]
  omega

theorem length_toBytes (v : Json) : v.toBytes.length = size v.print :=
  length_utf8Bytes_ofList v.print

/-! ## Readers -/

/-- The numbers have at most 64 bits, and arrays and objects are nested at most `depth` deep. -/
def PlainWithin : ℕ → Json → Prop
  | _, num n => n < 2 ^ 64
  | 0, arr _ | 0, obj _ => False
  | depth + 1, arr vs => ∀ v ∈ vs, PlainWithin depth v
  | depth + 1, obj fields => ∀ field ∈ fields, PlainWithin depth field.2
  | _, _ => True

/-- The values that readers are made for. -/
def Plain (v : Json) : Prop := v.PlainWithin 127

end Json

/-- A reader of JSON, which undoes `print` on plain values. -/
class JsonReader where
  read : List UInt8 → Option Json
  read_toBytes : ∀ v : Json, v.Plain → read v.toBytes = some v

namespace Json

/-- The parser above, on the bytes of a text. -/
def readBytes (bs : List UInt8) : Option Json := (fromUtf8 bs).bind fun s => parse s.toList

theorem readBytes_toBytes (v : Json) : readBytes v.toBytes = some v := by
  rw [readBytes, toBytes, fromUtf8_utf8Bytes, Option.bind_some, String.toList_ofList, parse_print]

scoped instance compactReader : JsonReader where
  read := readBytes
  read_toBytes v _ := readBytes_toBytes v

end Json
