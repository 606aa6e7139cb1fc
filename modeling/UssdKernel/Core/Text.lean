import Mathlib

/-!
# Text as bytes

Texts that are hashed are compared byte by byte.  `utf8` gives the bytes of a
string, `hex` the lower-case hexadecimal text of a byte string as ASCII bytes,
two digits a byte, high half first, `unhex` the byte string of a hexadecimal
text in either case, and `uuid` the hyphenated text of a 128-bit identifier.
-/

namespace UssdKernel.Text

def utf8 (text : String) : List UInt8 :=
  text.toUTF8.data.toList

/-- ASCII code of a digit of base sixteen. -/
def digit (value : ℕ) : UInt8 :=
  if value < 10 then UInt8.ofNat (48 + value) else UInt8.ofNat (87 + value)

def byteDigits (byte : UInt8) : List UInt8 :=
  [digit (byte.toNat / 16), digit (byte.toNat % 16)]

def hex (data : List UInt8) : List UInt8 :=
  data.flatMap byteDigits

/-- Value of a digit of base sixteen, in either case. -/
def digitValue (code : UInt8) : Option ℕ :=
  if 48 ≤ code ∧ code ≤ 57 then some (code.toNat - 48)
  else if 97 ≤ code ∧ code ≤ 102 then some (code.toNat - 87)
  else if 65 ≤ code ∧ code ≤ 70 then some (code.toNat - 55)
  else none

def unhex : List UInt8 → Option (List UInt8)
  | [] => some []
  | [_] => none
  | high :: low :: rest => do
      let first ← digitValue high
      let second ← digitValue low
      let data ← unhex rest
      some (UInt8.ofNat (16 * first + second) :: data)

/-- ASCII lower case. -/
def lower (code : UInt8) : UInt8 :=
  if 65 ≤ code ∧ code ≤ 90 then code + 32 else code

/-- Digits in groups of 8, 4, 4, 4 and 12. -/
def uuid (id : BitVec 128) : String :=
  String.ofList ((List.range 32).flatMap fun i =>
    let char := Char.ofUInt8 (digit (id.toNat / 16 ^ (31 - i) % 16))
    if i ∈ [8, 12, 16, 20] then ['-', char] else [char])

example : uuid 0x0192a3b4c5d67e8f9012345678abcdef =
    "0192a3b4-c5d6-7e8f-9012-345678abcdef" := by decide

theorem utf8_injective : Function.Injective utf8 := by
  intro left right heq
  apply String.toByteArray_inj.mp
  exact ByteArray.ext (Array.toList_inj.mp heq)

theorem utf8_append (left right : String) :
    utf8 (left ++ right) = utf8 left ++ utf8 right := by
  simp [utf8, String.toUTF8]

theorem utf8_ofList (chars : List Char) :
    utf8 (String.ofList chars) = chars.flatMap String.utf8EncodeChar := by
  simp [utf8, String.toUTF8, List.utf8Encode]

/-- The digits 0 to 9 take one byte each, below the code of a colon. -/
theorem utf8EncodeChar_of_isDigit {char : Char} (hdigit : char.isDigit = true) :
    ∃ byte : UInt8, String.utf8EncodeChar char = [byte] ∧ byte < 58 := by
  have hcode : char.val ≤ 57 := by
    rw [Char.isDigit, Bool.and_eq_true, decide_eq_true_eq,
      decide_eq_true_eq] at hdigit
    exact hdigit.2
  have hvalue : char.val.toNat ≤ 57 := UInt32.le_iff_toNat_le.mp hcode
  have hsize : char.utf8Size = 1 := by
    rw [Char.utf8Size, if_pos]
    exact UInt32.le_trans hcode (by decide)
  refine ⟨_, String.utf8EncodeChar_eq_singleton hsize, ?_⟩
  rw [UInt8.lt_iff_toNat_lt, UInt32.toNat_toUInt8]
  exact (Nat.mod_le _ _).trans_lt (hvalue.trans_lt (by decide))

theorem utf8_repr_natural (value : ℕ) :
    utf8 value.repr ≠ [] ∧ 58 ∉ utf8 value.repr := by
  rw [Nat.repr_eq_ofList_toDigits, utf8_ofList]
  constructor
  · intro hempty
    obtain ⟨char, hchar⟩ := List.exists_mem_of_ne_nil _
      (Nat.toDigits_ne_nil : Nat.toDigits 10 value ≠ [])
    have hnone := List.flatMap_eq_nil_iff.mp hempty char hchar
    exact String.utf8EncodeChar_ne_nil hnone
  · intro hcolon
    obtain ⟨char, hchar, hmem⟩ := List.mem_flatMap.mp hcolon
    have hdigit := Nat.isDigit_of_mem_toDigits (by decide) (by decide) hchar
    obtain ⟨byte, hbyte, hsmall⟩ := utf8EncodeChar_of_isDigit hdigit
    rw [hbyte, List.mem_singleton] at hmem
    rw [← hmem] at hsmall
    exact absurd hsmall (by decide)

/-- A decimal number has at least one byte, and none of them is a colon. -/
theorem utf8_toString_integer (value : ℤ) :
    utf8 (toString value) ≠ [] ∧ 58 ∉ utf8 (toString value) := by
  change utf8 value.repr ≠ [] ∧ 58 ∉ utf8 value.repr
  rw [Int.repr_eq_if]
  split
  · exact utf8_repr_natural _
  · obtain ⟨hsome, hcolon⟩ := utf8_repr_natural (-value).toNat
    rw [utf8_append, List.mem_append]
    exact ⟨List.append_ne_nil_of_right_ne_nil _ hsome,
      not_or.mpr ⟨by decide, hcolon⟩⟩

theorem lower_digit {value : ℕ} (hvalue : value < 16) :
    lower (digit value) = digit value := by
  have hdigits : ∀ i : Fin 16, lower (digit i) = digit i := by decide
  exact hdigits ⟨value, hvalue⟩

theorem hex_cons (byte : UInt8) (data : List UInt8) :
    hex (byte :: data) = byteDigits byte ++ hex data := rfl

variable (data : List UInt8)

theorem length_hex :
    (hex data).length = 2 * data.length := by
  induction data with
  | nil => rfl
  | cons byte data ih =>
      rw [hex_cons, List.length_append, ih, List.length_cons]
      simp only [byteDigits, List.length_cons, List.length_nil]
      omega

theorem digitValue_digit {value : ℕ} (hvalue : value < 16) :
    digitValue (digit value) = some value := by
  have hdigits : ∀ i : Fin 16, digitValue (digit i) = some i.val := by decide
  exact hdigits ⟨value, hvalue⟩

theorem unhex_hex : unhex (hex data) = some data := by
  induction data with
  | nil => rfl
  | cons byte data ih =>
      have hbyte := byte.toNat_lt
      have hhigh := digitValue_digit (show byte.toNat / 16 < 16 by omega)
      have hlow := digitValue_digit (show byte.toNat % 16 < 16 by omega)
      have hjoin : 16 * (byte.toNat / 16) + byte.toNat % 16 = byte.toNat :=
        Nat.div_add_mod byte.toNat 16
      rw [hex_cons, byteDigits, List.cons_append, List.cons_append,
        List.nil_append, unhex, hhigh, hlow, ih]
      change some (UInt8.ofNat
        (16 * (byte.toNat / 16) + byte.toNat % 16) :: data) = _
      rw [hjoin, UInt8.ofNat_toNat]

theorem hex_injective : Function.Injective hex := by
  intro left right heq
  apply Option.some.inj
  rw [← unhex_hex left, heq, unhex_hex]

theorem map_lower_hex :
    (hex data).map lower = hex data := by
  induction data with
  | nil => rfl
  | cons byte data ih =>
      have hbyte := byte.toNat_lt
      have hhigh := lower_digit (show byte.toNat / 16 < 16 by omega)
      have hlow := lower_digit (show byte.toNat % 16 < 16 by omega)
      rw [hex_cons, List.map_append, ih]
      simp only [byteDigits, List.map_cons, List.map_nil, hhigh, hlow]

end UssdKernel.Text
