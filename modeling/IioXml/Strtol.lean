import IioXml.CString
import Mathlib.Data.Int.Defs

/-!
# `strtol`, `strtoll` and the integer conversions of the two targets

`setup_scan_element` reads a channel index with `strtoll(content, &end, 0)` and stores
it as a `long`; `iio_create_xml_context_helper` reads the version numbers with
`strtol(content, &end, 10)` and stores them as `unsigned int`.  Both functions follow
ISO C 7.22.1.4: white space, an optional sign, then the longest subject sequence of the
base (for base 0 an integer constant: decimal, octal after `0`, hexadecimal after `0x`),
clamped to the type's range with `errno = ERANGE` on overflow, and `*endptr` left at
`nptr` when there is no subject sequence.

The width of `long` is the one thing here that differs between the targets libiio is
built for: 64 bits on LP64, 32 bits on the LLP64 `_MSC_BUILD` target (`Abi`).

* `strtoIntegral_value_mem` — the value is always in the type's range;
* `strtoIntegral_numeral` — on a decimal numeral followed by a non-digit the result is
  the numeral's value, clamped, and exactly the numeral is consumed.
-/

namespace IioXml

/-- The data models the code is built for. -/
inductive Abi
  | lp64
  | llp64
deriving DecidableEq, Repr

/-- The width of `long`. -/
def Abi.longBits : Abi → Nat
  | .lp64 => 64
  | .llp64 => 32

/-- `LONG_MIN`. -/
def Abi.longMin (abi : Abi) : Int := -2 ^ (abi.longBits - 1)

/-- `LONG_MAX`. -/
def Abi.longMax (abi : Abi) : Int := 2 ^ (abi.longBits - 1) - 1

/-- `ULONG_MAX`: `unsigned long` is as wide as `long`. -/
def Abi.ulongMax (abi : Abi) : Nat := 2 ^ abi.longBits - 1

/-- `LLONG_MIN`: `long long` has 64 bits on both targets. -/
def llongMin : Int := -2 ^ 63

/-- `LLONG_MAX`. -/
def llongMax : Int := 2 ^ 63 - 1

/-- `(long) v` for a `long long` value: two's complement wrap-around, as GCC and MSVC
define the conversion. -/
def Abi.toLong (abi : Abi) (v : Int) : Int := v.bmod (2 ^ abi.longBits)

/-- `(unsigned int) v`: reduction modulo `2 ^ 32`. -/
def toUnsignedInt (v : Int) : BitVec 32 := BitVec.ofInt 32 v

/-- What a call of `strtol` yields: the value returned, how far `*endptr` lies past
`nptr`, and whether `errno` was set to `ERANGE`. -/
structure StrtolResult where
  value : Int
  consumed : Nat
  erange : Bool
deriving DecidableEq, Repr

/-- The optional sign: whether it is `-`, and its length. -/
def signPrefix : List Char → Bool × Nat
  | '-' :: _ => (true, 1)
  | '+' :: _ => (false, 1)
  | _ => (false, 0)

/-- A maximal nonempty run of base-`b` digits at the head of `s`: value and length. -/
def digitRun (b : Nat) (s : List Char) : Option (Nat × Nat) :=
  if s.takeWhile (isDigitIn b) = [] then none
  else some (valueIn b (s.takeWhile (isDigitIn b)), (s.takeWhile (isDigitIn b)).length)

/-- An octal constant whose leading `0` has been read: value and length. -/
def octalConstant (r : List Char) : Option (Nat × Nat) :=
  some (valueIn 8 (r.takeWhile (isDigitIn 8)), (r.takeWhile (isDigitIn 8)).length + 1)

/-- The integer constant `strtol` reads in base 0.  After `0x` or `0X` it needs a
hexadecimal digit, or the subject sequence is the `0` alone. -/
def integerConstant : List Char → Option (Nat × Nat)
  | '0' :: r =>
    match r, digitRun 16 (r.drop 1) with
    | x :: _, some (v, n) => if x = 'x' ∨ x = 'X' then some (v, n + 2) else octalConstant r
    | _, _ => octalConstant r
  | s => digitRun 10 s

/-- The subject sequence in base `base`, after the sign: its magnitude and length. -/
def subjectIn (base : Nat) : List Char → Option (Nat × Nat) :=
  if base = 0 then integerConstant else digitRun base

/-- The value `strtol` returns for the mathematical value `v` of its subject sequence:
`v` itself, or the nearer bound of `[lo, hi]` with `ERANGE`. -/
def clampResult (lo hi v : Int) (consumed : Nat) : StrtolResult :=
  if v < lo then ⟨lo, consumed, true⟩
  else if hi < v then ⟨hi, consumed, true⟩
  else ⟨v, consumed, false⟩

/-- `strtol` for a result type of range `[lo, hi]`, in base `base` (0 or 10 here). -/
def strtoIntegral (lo hi : Int) (s : List Char) (base : Nat) : StrtolResult :=
  let ws := (s.takeWhile isSpace).length
  let sign := signPrefix (s.drop ws)
  match subjectIn base (s.drop (ws + sign.2)) with
  | none => ⟨0, 0, false⟩
  | some (m, n) => clampResult lo hi (if sign.1 then -m else m) (ws + sign.2 + n)

/-- `strtoll(s, &end, base)`. -/
def strtoll (s : List Char) (base : Nat) : StrtolResult := strtoIntegral llongMin llongMax s base

/-- `strtol(s, &end, base)`. -/
def strtol (abi : Abi) (s : List Char) (base : Nat) : StrtolResult :=
  strtoIntegral abi.longMin abi.longMax s base

@[simp] theorem clampResult_consumed (lo hi v : Int) (c : Nat) :
    (clampResult lo hi v c).consumed = c := by
  unfold clampResult; split_ifs <;> rfl

theorem clampResult_value_mem {lo hi : Int} (h : lo ≤ hi) (v : Int) (c : Nat) :
    lo ≤ (clampResult lo hi v c).value ∧ (clampResult lo hi v c).value ≤ hi := by
  unfold clampResult; split_ifs <;> simp <;> omega

/-- A value that fits its range is returned unchanged, without `ERANGE`. -/
theorem clampResult_of_mem {lo hi v : Int} (h1 : lo ≤ v) (h2 : v ≤ hi) (c : Nat) :
    clampResult lo hi v c = ⟨v, c, false⟩ := by
  rw [clampResult, if_neg (by omega), if_neg (by omega)]

/-- The value always lies in the range of the result type. -/
theorem strtoIntegral_value_mem {lo hi : Int} (hlo : lo ≤ 0) (hhi : 0 ≤ hi)
    (s : List Char) (base : Nat) :
    lo ≤ (strtoIntegral lo hi s base).value ∧ (strtoIntegral lo hi s base).value ≤ hi := by
  dsimp only [strtoIntegral]
  split
  · exact ⟨hlo, hhi⟩
  · exact clampResult_value_mem (by omega) _ _

/-- **A decimal numeral followed by a non-digit** is read whole, and only it: the result
is the numeral's value clamped to `[lo, hi]`. -/
theorem strtoIntegral_numeral (lo hi : Int) {ds rest : List Char}
    (hne : ds ≠ []) (hds : ∀ c ∈ ds, isDigitIn 10 c)
    (hrest : ∀ c ∈ rest.head?, isDigitIn 10 c = false) :
    strtoIntegral lo hi (ds ++ rest) 10 = clampResult lo hi (valueIn 10 ds) ds.length := by
  obtain ⟨d, ds', rfl⟩ := List.exists_cons_of_ne_nil hne
  have hd : isDigitIn 10 d := hds d (by simp)
  have hws : ((d :: ds') ++ rest).takeWhile isSpace = [] := by
    simp [isSpace_of_digit hd]
  have hsign : signPrefix ((d :: ds') ++ rest) = (false, 0) := by
    have h1 : d ≠ '-' := by rintro rfl; exact absurd hd (by decide)
    have h2 : d ≠ '+' := by rintro rfl; exact absurd hd (by decide)
    unfold signPrefix; split <;> simp_all
  have hrun : subjectIn 10 ((d :: ds') ++ rest) =
      some (valueIn 10 (d :: ds'), (d :: ds').length) := by
    rw [subjectIn, if_neg (by decide), digitRun, (takeWhile_digits_append hds hrest).1,
      if_neg (List.cons_ne_nil _ _)]
  dsimp only [strtoIntegral]
  rw [hws, List.length_nil, List.drop_zero, hsign, Nat.add_zero, List.drop_zero, hrun]
  simp

/-- `strtoll`'s value is a `long long`. -/
theorem strtoll_value_mem (s : List Char) (base : Nat) :
    llongMin ≤ (strtoll s base).value ∧ (strtoll s base).value ≤ llongMax :=
  strtoIntegral_value_mem (by decide) (by decide) s base

/-- `(long) v` is `v` for a value in the range of `long`. -/
theorem Abi.toLong_of_mem (abi : Abi) {v : Int} (h1 : abi.longMin ≤ v) (h2 : v ≤ abi.longMax) :
    abi.toLong v = v := by
  cases abi <;>
    simp only [Abi.toLong, Abi.longBits, Abi.longMin, Abi.longMax, Int.bmod_def] at * <;>
    split_ifs <;> omega

/-- `(long) v` is `v` for a value in `[0, 2^31)`, on both targets. -/
theorem Abi.toLong_of_lt (abi : Abi) {v : Int} (h0 : 0 ≤ v) (h : v < 2 ^ 31) :
    abi.toLong v = v :=
  abi.toLong_of_mem (by cases abi <;> simp only [Abi.longMin, Abi.longBits] <;> omega)
    (by cases abi <;> simp only [Abi.longMax, Abi.longBits] <;> omega)

/-- On LP64 a `long long` is a `long`: `(long)` changes no value `strtoll` returns. -/
theorem toLong_lp64_strtoll (s : List Char) (base : Nat) :
    Abi.lp64.toLong (strtoll s base).value = (strtoll s base).value :=
  Abi.toLong_of_mem .lp64 (strtoll_value_mem s base).1 (strtoll_value_mem s base).2

end IioXml
