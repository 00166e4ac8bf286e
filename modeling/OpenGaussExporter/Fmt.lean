import Mathlib.Tactic.Ring
import OpenGaussExporter.Utf8

/-!
# Decimal numerals

`strconv` writes an integer as its decimal digits, most significant first, after a `-` when it
is negative; `fmt` prints an `int64` so under `%v` and `%d`, and the `0` flag of `%03d` pads the
digits with zeros to width three, as `time`'s `appendInt` pads the fields of a date.

`decimalValue` reads a numeral back as the integer it denotes.  `decimalValue_formatInt` says
that every integer is read back as itself, and `decimalValue_formatInt_append_pad` what a
numeral followed by three more digits denotes: the fact behind the compact timestamps of
`DbToString`.
-/

namespace OpenGaussExporter

/-- The byte of the decimal digit `d`. -/
def digitByte (d : Nat) : UInt8 := (0x30 + d).toUInt8

/-- `strconv.FormatUint(n, 10)`: the decimal digits of `n`, most significant first. -/
def formatUint (n : Nat) : GoString :=
  if n < 10 then [digitByte n] else formatUint (n / 10) ++ [digitByte (n % 10)]

/-- `strconv.FormatInt(x, 10)`, which `%v` and `%d` print for an `int64`. -/
def formatInt (x : Int) : GoString :=
  if x < 0 then 0x2D :: formatUint x.natAbs else formatUint x.natAbs

/-- Zeros in front of `s` up to `width` bytes, as the `0` flag and `time`'s `appendInt` add
them. -/
def padZeros (width : Nat) (s : GoString) : GoString :=
  List.replicate (width - s.length) 0x30 ++ s

/-- Whether a byte is an ASCII decimal digit. -/
def isDigit (b : UInt8) : Bool := 48 ≤ b.toNat && b.toNat ≤ 57

/-- The number a string of decimal digits denotes. -/
def digitsValue (s : GoString) : Nat :=
  s.foldl (fun acc b => 10 * acc + (b.toNat - 48)) 0

/-- The number a string of one decimal digit or more denotes. -/
def unsignedValue (s : GoString) : Option Nat :=
  if s ≠ [] ∧ s.all isDigit then some (digitsValue s) else none

/-- The integer a string denotes read as a decimal numeral: an optional `-`, then one digit
or more. -/
def decimalValue : GoString → Option Int
  | [] => none
  | b :: s =>
    if b = 0x2D then (unsignedValue s).map fun n => -Int.ofNat n
    else (unsignedValue (b :: s)).map Int.ofNat

/-! ## Digits -/

/-- The byte of the digit `d` is the code point `48 + d`. -/
lemma toNat_digitByte {d : Nat} (h : d < 10) : (digitByte d).toNat = 48 + d :=
  UInt8.toNat_ofNat_of_lt (by show 48 + d < 256; omega)

/-- The byte of a digit is a digit. -/
lemma isDigit_digitByte {d : Nat} (h : d < 10) : isDigit (digitByte d) = true := by
  simp [isDigit, toNat_digitByte h]
  omega

/-- `FormatUint` writes one digit or more. -/
lemma formatUint_ne_nil (n : Nat) : formatUint n ≠ [] := by
  rw [formatUint]; split <;> simp

/-- `FormatUint` writes only digits. -/
lemma all_isDigit_formatUint (n : Nat) : (formatUint n).all isDigit = true := by
  induction n using Nat.strong_induction_on with
  | _ n ih =>
    rw [formatUint]
    split
    · simp [isDigit_digitByte ‹n < 10›]
    · simp [ih (n / 10) (by omega), isDigit_digitByte (Nat.mod_lt n (by omega))]

/-- Reading digits on from a value already read. -/
lemma foldl_digitsValue (acc : Nat) (s : GoString) :
    s.foldl (fun acc b => 10 * acc + (b.toNat - 48)) acc = acc * 10 ^ s.length + digitsValue s := by
  induction s generalizing acc with
  | nil => simp [digitsValue]
  | cons b s ih =>
    simp only [List.foldl_cons, digitsValue]
    rw [ih, ih (10 * 0 + (b.toNat - 48))]
    simp only [List.length_cons, Nat.pow_succ]
    ring

/-- Digits after digits: the value of the first shifted by the length of the second, plus the
value of the second. -/
lemma digitsValue_append (s t : GoString) :
    digitsValue (s ++ t) = digitsValue s * 10 ^ t.length + digitsValue t := by
  rw [digitsValue, List.foldl_append, foldl_digitsValue]; rfl

/-- Reading the digits `FormatUint` writes gives the number back. -/
lemma digitsValue_formatUint (n : Nat) : digitsValue (formatUint n) = n := by
  induction n using Nat.strong_induction_on with
  | _ n ih =>
    rw [formatUint]
    split
    · simp [digitsValue, toNat_digitByte ‹n < 10›]
    · rw [digitsValue_append, ih (n / 10) (by omega)]
      simp [digitsValue, toNat_digitByte (Nat.mod_lt n (by omega))]
      omega

/-- A number below `10 ^ k` takes at most `k` digits. -/
lemma length_formatUint_le {n k : Nat} (hk : 0 < k) (h : n < 10 ^ k) :
    (formatUint n).length ≤ k := by
  induction k generalizing n with
  | zero => omega
  | succ k ih =>
    rw [formatUint]
    split
    · simp
    · have hk' : 0 < k := by
        rcases Nat.eq_zero_or_pos k with rfl | hk'
        · simp at h; omega
        · exact hk'
      have := ih hk' (n := n / 10) (by rw [Nat.pow_succ] at h; omega)
      simp only [List.length_append, List.length_singleton]
      omega

/-! ## Padding -/

/-- Padding a shorter text gives exactly the width. -/
lemma length_padZeros {width : Nat} {s : GoString} (h : s.length ≤ width) :
    (padZeros width s).length = width := by
  simp [padZeros]; omega

/-- Zeros alone denote `0`. -/
lemma digitsValue_replicate_zero (k : Nat) : digitsValue (List.replicate k 0x30) = 0 := by
  induction k with
  | zero => rfl
  | succ k ih =>
    rw [List.replicate_succ', digitsValue_append, ih]
    rfl

/-- Leading zeros do not change the value. -/
lemma digitsValue_padZeros (width : Nat) (s : GoString) :
    digitsValue (padZeros width s) = digitsValue s := by
  simp [padZeros, digitsValue_append, digitsValue_replicate_zero]

/-- Digits padded with zeros are digits. -/
lemma all_isDigit_padZeros (width : Nat) {s : GoString} (h : s.all isDigit = true) :
    (padZeros width s).all isDigit = true := by
  simp only [padZeros, List.all_append, h, Bool.and_true, List.all_eq_true, List.mem_replicate]
  rintro _ ⟨-, rfl⟩
  decide

/-! ## Reading numerals back -/

/-- A non-empty run of digits is read as its value. -/
lemma unsignedValue_of_digits {s : GoString} (hs : s ≠ []) (hd : s.all isDigit = true) :
    unsignedValue s = some (digitsValue s) := by
  simp [unsignedValue, hs, hd]

/-- The first byte of a nonnegative numeral is a digit, not a sign. -/
lemma head_formatUint_ne_minus (n : Nat) (t : GoString) :
    ∃ b s, formatUint n ++ t = b :: s ∧ b ≠ 0x2D ∧ isDigit b = true := by
  obtain ⟨b, s, hbs⟩ := List.exists_cons_of_ne_nil (formatUint_ne_nil n)
  have hb : isDigit b = true := by
    have := all_isDigit_formatUint n
    rw [hbs, List.all_cons, Bool.and_eq_true] at this
    exact this.1
  refine ⟨b, s ++ t, by simp [hbs], ?_, hb⟩
  rintro rfl
  exact absurd hb (by decide)

/-- A numeral followed by more digits `t` denotes the number with those digits appended, under
the numeral's sign. -/
lemma decimalValue_formatInt_append (x : Int) {t : GoString} (ht : t.all isDigit = true) :
    decimalValue (formatInt x ++ t) =
      some (if x < 0 then -Int.ofNat (x.natAbs * 10 ^ t.length + digitsValue t)
        else Int.ofNat (x.natAbs * 10 ^ t.length + digitsValue t)) := by
  have hne : formatUint x.natAbs ++ t ≠ [] := by simp [formatUint_ne_nil]
  have hdig : (formatUint x.natAbs ++ t).all isDigit = true := by
    simp [all_isDigit_formatUint, ht]
  have hval : digitsValue (formatUint x.natAbs ++ t) = x.natAbs * 10 ^ t.length + digitsValue t := by
    rw [digitsValue_append, digitsValue_formatUint]
  rw [formatInt]
  split
  · rw [List.cons_append, decimalValue, if_pos rfl, unsignedValue_of_digits hne hdig, hval]
    rfl
  · obtain ⟨b, s, hbs, hb, -⟩ := head_formatUint_ne_minus x.natAbs t
    rw [hbs, decimalValue, if_neg hb, ← hbs, unsignedValue_of_digits hne hdig, hval]
    rfl

/-- `formatInt` writes a numeral that denotes the integer it was given. -/
theorem decimalValue_formatInt (x : Int) : decimalValue (formatInt x) = some x := by
  have h := decimalValue_formatInt_append x (t := []) rfl
  rw [List.append_nil] at h
  rw [h, Option.some.injEq, List.length_nil, pow_zero, show digitsValue [] = 0 from rfl]
  split <;> simp only [Int.ofNat_eq_coe] <;> omega

/-- A numeral followed by the `%03d` digits of `m < 1000` denotes `1000 · x + m` when `x` is
nonnegative, and `1000 · x - m` when it is negative: the sign binds the whole numeral. -/
theorem decimalValue_formatInt_append_pad (x : Int) {m : Nat} (hm : m < 1000) :
    decimalValue (formatInt x ++ padZeros 3 (formatUint m)) =
      some (if 0 ≤ x then 1000 * x + m else 1000 * x - m) := by
  have hlen : (padZeros 3 (formatUint m)).length = 3 :=
    length_padZeros (length_formatUint_le (k := 3) (by omega) (by omega))
  rw [decimalValue_formatInt_append x (all_isDigit_padZeros 3 (all_isDigit_formatUint m)), hlen,
    digitsValue_padZeros, digitsValue_formatUint, Option.some.injEq,
    show (10 : Nat) ^ 3 = 1000 from rfl]
  split <;> split <;> simp only [Int.ofNat_eq_coe] <;> omega

end OpenGaussExporter
