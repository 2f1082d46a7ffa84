import Mathlib.Data.List.Basic
import Mathlib.Tactic.Ring

/-!
# C strings and the character classes of the C locale

The builder reads every attribute text through the C library: `strcmp`, `strchr`,
`strtol`, `strtoll`, `strtof` and `sscanf`.  All of them see a text as a sequence of
bytes ended by a NUL.  We model such a text as a list of characters each of which is a
nonzero byte (`IsCByte`), so `sscanf`'s `%c` reads exactly one model character, as it
reads one byte, and the terminator sits just past the list.

Attribute and element *names* are only ever compared with `strcmp` against literals;
they stay Lean strings and `strcmp(a, b) == 0` is `a = b`.

* `CStr` — a C string, carrying its byte invariant;
* `isSpace`, `digitValue`, `isDigitIn`, `valueIn` — `isspace` and the digits of
  `strtol`, with `valueIn_append` and `takeWhile_digits_append`, the two facts every
  numeral proof below uses.
-/

namespace IioXml

/-- A character that a C string can hold: a nonzero byte. -/
def IsCByte (c : Char) : Prop := 0 < c.toNat ∧ c.toNat < 256

instance (c : Char) : Decidable (IsCByte c) := inferInstanceAs (Decidable (_ ∧ _))

/-- A NUL-terminated C string, as the characters before its terminator. -/
structure CStr where
  chars : List Char
  bytes : ∀ c ∈ chars, IsCByte c := by decide
deriving DecidableEq

/-- The empty C string `""`. -/
def CStr.empty : CStr := ⟨[], by simp⟩

/-- A C string literal. -/
def CStr.lit (s : String) (h : ∀ c ∈ s.toList, IsCByte c := by decide) : CStr :=
  ⟨s.toList, h⟩

/-- `strchr(s, c) != NULL` for a nonzero character `c`. -/
def strchr (s : CStr) (c : Char) : Bool := s.chars.contains c

/-- `strncmp(s, t, n)` on two C strings: among their first `n` characters, the difference
of the first pair that differs, the terminator of the shorter string reading as 0; 0 when
there is none.  The standard fixes only the sign, which is all that callers test. -/
def strncmp : List Char → List Char → Nat → Int
  | _, _, 0 => 0
  | [], [], _ + 1 => 0
  | [], d :: _, _ + 1 => -(d.toNat : Int)
  | c :: _, [], _ + 1 => c.toNat
  | c :: s, d :: t, n + 1 => if c = d then strncmp s t n else (c.toNat : Int) - d.toNat

/-- `isspace` in the C locale. -/
def isSpace (c : Char) : Bool :=
  c = ' ' || c = '\t' || c = '\n' || c = '\x0b' || c = '\x0c' || c = '\r'

/-- The value of `c` as a digit of `strtol`: `0`–`9`, then letters of either case for
10–35; 36 for every other character, a digit in no base. -/
def digitValue (c : Char) : Nat :=
  if 48 ≤ c.toNat ∧ c.toNat ≤ 57 then c.toNat - 48
  else if 97 ≤ c.toNat ∧ c.toNat ≤ 122 then c.toNat - 87
  else if 65 ≤ c.toNat ∧ c.toNat ≤ 90 then c.toNat - 55
  else 36

/-- `c` is a digit in base `b`; in base 10 this is `isdigit`. -/
def isDigitIn (b : Nat) (c : Char) : Bool := digitValue c < b

/-- The number a sequence of base-`b` digits denotes, most significant first. -/
def valueIn (b : Nat) (ds : List Char) : Nat :=
  ds.foldl (fun acc c => acc * b + digitValue c) 0

/-- The decimal digits are the characters `'0'`–`'9'`. -/
theorem isDigitIn_ten_iff (c : Char) :
    isDigitIn 10 c ↔ 48 ≤ c.toNat ∧ c.toNat ≤ 57 := by
  unfold isDigitIn digitValue
  split_ifs <;> simp <;> omega

/-- No decimal digit is white space. -/
theorem isSpace_of_digit {c : Char} (h : isDigitIn 10 c) : isSpace c = false := by
  cases hs : isSpace c
  · rfl
  · simp only [isSpace, Bool.or_eq_true, decide_eq_true_eq] at hs
    rcases hs with ((((rfl | rfl) | rfl) | rfl) | rfl) | rfl <;> revert h <;> decide

private theorem foldl_digits_eq (b : Nat) (ds : List Char) (a : Nat) :
    ds.foldl (fun acc c => acc * b + digitValue c) a =
      a * b ^ ds.length + valueIn b ds := by
  induction ds generalizing a with
  | nil => simp [valueIn]
  | cons d ds ih =>
    have hv : valueIn b (d :: ds) =
        ds.foldl (fun acc c => acc * b + digitValue c) (0 * b + digitValue d) := rfl
    rw [List.foldl_cons, ih, hv, ih, List.length_cons]
    ring

/-- Reading digits after digits scales the first block by the base. -/
theorem valueIn_append (b : Nat) (ds es : List Char) :
    valueIn b (ds ++ es) = valueIn b ds * b ^ es.length + valueIn b es := by
  unfold valueIn
  rw [List.foldl_append, foldl_digits_eq]
  rfl

/-- A maximal run of digits at the head of `ds ++ rest` is `ds` when `rest` does not
continue it. -/
theorem takeWhile_digits_append {p : Char → Bool} {ds rest : List Char}
    (hds : ∀ c ∈ ds, p c) (hrest : ∀ c ∈ rest.head?, p c = false) :
    (ds ++ rest).takeWhile p = ds ∧ (ds ++ rest).dropWhile p = rest := by
  induction ds with
  | nil =>
    cases rest with
    | nil => simp
    | cons c r => simp_all
  | cons d ds ih =>
    have hd : p d := hds d (by simp)
    obtain ⟨h1, h2⟩ := ih (fun c hc => hds c (by simp [hc]))
    simp [hd, h1, h2]

/-- **`strncmp` returns 0 exactly when the first `n` characters agree**, a string shorter
than `n` agreeing only with a string of its own length. -/
theorem strncmp_eq_zero_iff {s t : List Char} (hs : ∀ c ∈ s, IsCByte c)
    (ht : ∀ c ∈ t, IsCByte c) (n : Nat) : strncmp s t n = 0 ↔ s.take n = t.take n := by
  induction s, t, n using strncmp.induct with
  | case1 s t => exact iff_of_true (by cases s <;> cases t <;> rfl) rfl
  | case2 => exact iff_of_true rfl rfl
  | case3 d t n =>
    have := (ht d (List.mem_cons_self _ _)).1
    exact iff_of_false (show -(d.toNat : Int) ≠ 0 by omega) (List.cons_ne_nil _ _).symm
  | case4 c s n =>
    have := (hs c (List.mem_cons_self _ _)).1
    exact iff_of_false (show (c.toNat : Int) ≠ 0 by omega) (List.cons_ne_nil _ _)
  | case5 s c t n ih =>
    show (if c = c then strncmp s t n else _) = 0 ↔ _
    rw [if_pos rfl, ih (fun x hx => hs x (List.mem_cons_of_mem _ hx))
      (fun x hx => ht x (List.mem_cons_of_mem _ hx)), List.take_succ_cons, List.take_succ_cons,
      List.cons.injEq, and_iff_right rfl]
  | case6 c s d t n hcd =>
    have : c.toNat ≠ d.toNat := fun h => hcd (by rw [← Char.ofNat_toNat c, h, Char.ofNat_toNat])
    refine iff_of_false (show (if c = d then strncmp s t n else (c.toNat : Int) - d.toNat) ≠ 0
      by rw [if_neg hcd]; omega) ?_
    rw [List.take_succ_cons, List.take_succ_cons, List.cons.injEq]
    exact fun h => hcd h.1

end IioXml
