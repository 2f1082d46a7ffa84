import IioXml.Strtol

/-!
# `sscanf` with `%c`, `%u` and ordinary characters

`setup_scan_element` decodes a data format with one of two `sscanf` calls and accepts
the text when the call assigns all of its items.  This file is an interpreter of the
part of ISO C 7.21.6.2 those format strings use:

* `%c` reads one character, whatever it is, white space included;
* `%u` skips white space and reads an optionally signed decimal integer, which glibc
  converts with `strtoul` in base 10 and stores as `(unsigned int)`: the signed value
  modulo `2 ^ 32` when the magnitude fits an `unsigned long`, and `UINT_MAX` when it
  does not, `strtoul` saturating at `ULONG_MAX` (`unsignedConversion_eq`);
* an ordinary character must be the next input character.

`sscanf` returns `EOF` when the input ends before the first conversion, and otherwise
the number of items it assigned.  Nothing checks what follows the last directive.

The main facts are `scanUnsigned_text` and `scanUnsigned_eq_some`, which together say
that `%u` reads exactly an `UnsignedField` not followed by a digit, and
`scanDirectives_full_iff`: a format whose last directive is a conversion assigns all its
items exactly when every directive matches (`scanAll`).
-/

namespace IioXml

/-- One directive of a `scanf` format. -/
inductive ScanDirective
  | char
  | unsigned
  | literal (c : Char)
deriving DecidableEq, Repr

/-- The directives of a format string made of `%c`, `%u` and ordinary characters. -/
def parseScanFormat : List Char → List ScanDirective
  | '%' :: 'c' :: r => .char :: parseScanFormat r
  | '%' :: 'u' :: r => .unsigned :: parseScanFormat r
  | c :: r => .literal c :: parseScanFormat r
  | [] => []

/-- A value `sscanf` assigns through one of its pointer arguments. -/
inductive ScanItem
  | char (c : Char)
  | unsigned (v : BitVec 32)
deriving DecidableEq, Repr

/-- `strtoul(s, &end, 10)` on a subject sequence of magnitude `m`, after a `-` sign
when `neg`: `ULONG_MAX` when `m` does not fit an `unsigned long`, otherwise `m`,
negated in the type's arithmetic after a `-`. -/
def strtoulValue (abi : Abi) (neg : Bool) (m : Nat) : Nat :=
  if abi.ulongMax < m then abi.ulongMax
  else ((if neg then -(m : Int) else m) % (2 ^ abi.longBits : Nat)).toNat

/-- The value glibc's `%u` stores: `(unsigned int) strtoul(...)`. -/
def unsignedConversion (abi : Abi) (neg : Bool) (m : Nat) : BitVec 32 :=
  BitVec.ofNat 32 (strtoulValue abi neg m)

/-- **What `%u` stores**: the signed value modulo `2 ^ 32` when the magnitude is at most
`ULONG_MAX`, and all ones beyond. -/
theorem unsignedConversion_eq (abi : Abi) (neg : Bool) (m : Nat) :
    unsignedConversion abi neg m =
      if abi.ulongMax < m then BitVec.allOnes 32 else BitVec.ofInt 32 (if neg then -m else m) := by
  unfold unsignedConversion strtoulValue
  by_cases h : abi.ulongMax < m
  · rw [if_pos h, if_pos h]
    cases abi <;> decide
  · rw [if_neg h, if_neg h]
    generalize (if neg then -(m : Int) else m) = x
    apply BitVec.eq_of_toNat_eq
    cases abi <;> simp only [Abi.longBits, BitVec.toNat_ofNat, BitVec.toNat_ofInt] <;> omega

/-- `%u`: the value read and the rest of the input, or `none` on a matching failure. -/
def scanUnsigned (abi : Abi) (s : List Char) : Option (BitVec 32 × List Char) :=
  let t := s.dropWhile isSpace
  let sign := signPrefix t
  match digitRun 10 (t.drop sign.2) with
  | none => none
  | some (m, n) => some (unsignedConversion abi sign.1 m, (t.drop sign.2).drop n)

/-- Runs the directives over the input: the items assigned, in order, and whether the
run stopped because the input ran out (an input failure). -/
def scanDirectives (abi : Abi) : List ScanDirective → List Char → List ScanItem × Bool
  | [], _ => ([], false)
  | .char :: _, [] => ([], true)
  | .char :: ds, c :: s =>
    ((ScanItem.char c) :: (scanDirectives abi ds s).1, (scanDirectives abi ds s).2)
  | .literal _ :: _, [] => ([], true)
  | .literal l :: ds, c :: s => if c = l then scanDirectives abi ds s else ([], false)
  | .unsigned :: ds, s =>
    match scanUnsigned abi s with
    | some (v, r) =>
      ((ScanItem.unsigned v) :: (scanDirectives abi ds r).1, (scanDirectives abi ds r).2)
    | none => ([], (s.dropWhile isSpace).isEmpty)

/-- `sscanf(input, format, ...)`: its return value and the items it assigned. -/
def sscanf (abi : Abi) (input : List Char) (format : String) : Int × List ScanItem :=
  let r := scanDirectives abi (parseScanFormat format.toList) input
  (if r.2 ∧ r.1 = [] then -1 else r.1.length, r.1)

/-- The number of conversions of a format. -/
def convCount : List ScanDirective → Nat
  | [] => 0
  | .literal _ :: ds => convCount ds
  | _ :: ds => convCount ds + 1

/-- All directives match: the items and what follows the last directive. -/
def scanAll (abi : Abi) : List ScanDirective → List Char → Option (List ScanItem × List Char)
  | [], s => some ([], s)
  | .char :: _, [] => none
  | .char :: ds, c :: s => (scanAll abi ds s).map fun p => (.char c :: p.1, p.2)
  | .literal _ :: _, [] => none
  | .literal l :: ds, c :: s => if c = l then scanAll abi ds s else none
  | .unsigned :: ds, s =>
    (scanUnsigned abi s).bind fun p =>
      (scanAll abi ds p.2).map fun q => (.unsigned p.1 :: q.1, q.2)

/-- A text `%u` reads whole: white space, an optional sign, and decimal digits. -/
structure UnsignedField where
  ws : List Char
  sign : List Char
  digits : List Char
  ws_space : ∀ c ∈ ws, isSpace c
  sign_ok : sign = [] ∨ sign = ['-'] ∨ sign = ['+']
  digits_ne : digits ≠ []
  digits_dec : ∀ c ∈ digits, isDigitIn 10 c

/-- The characters of a field. -/
def UnsignedField.text (u : UnsignedField) : List Char := u.ws ++ u.sign ++ u.digits

/-- The value `%u` stores for a field. -/
def UnsignedField.value (abi : Abi) (u : UnsignedField) : BitVec 32 :=
  unsignedConversion abi (decide (u.sign = ['-'])) (valueIn 10 u.digits)

/-- The value of a field: its signed value modulo `2 ^ 32`, or all ones when its digits
exceed `ULONG_MAX`. -/
theorem UnsignedField.value_eq (abi : Abi) (u : UnsignedField) :
    u.value abi = if abi.ulongMax < valueIn 10 u.digits then BitVec.allOnes 32
      else BitVec.ofInt 32
        (if u.sign = ['-'] then -(valueIn 10 u.digits : Int) else valueIn 10 u.digits) := by
  rw [UnsignedField.value, unsignedConversion_eq]
  simp only [decide_eq_true_eq]

/-- A field of bare digits. -/
def UnsignedField.ofDigits (ds : List Char) (hne : ds ≠ [])
    (hds : ∀ c ∈ ds, isDigitIn 10 c) : UnsignedField :=
  ⟨[], [], ds, by simp, by simp, hne, hds⟩

variable {abi : Abi}

/-- The input does not continue a run of decimal digits. -/
def NoDigitAhead (r : List Char) : Prop := ∀ c ∈ r.head?, isDigitIn 10 c = false

private theorem signPrefix_of_sign {sign rest : List Char}
    (h : sign = [] ∨ sign = ['-'] ∨ sign = ['+'])
    (hrest : ∀ c ∈ rest.head?, isDigitIn 10 c) :
    signPrefix (sign ++ rest) = (decide (sign = ['-']), sign.length) := by
  rcases h with rfl | rfl | rfl
  · cases rest with
    | nil => rfl
    | cons c r =>
      have hc : isDigitIn 10 c := hrest c rfl
      have h1 : c ≠ '-' := by rintro rfl; exact absurd hc (by decide)
      have h2 : c ≠ '+' := by rintro rfl; exact absurd hc (by decide)
      unfold signPrefix
      split <;> simp_all
  · rfl
  · rfl

theorem digitRun_eq_some {b : Nat} {s : List Char} {m n : Nat}
    (h : digitRun b s = some (m, n)) :
    s.takeWhile (isDigitIn b) ≠ [] ∧ m = valueIn b (s.takeWhile (isDigitIn b)) ∧
      n = (s.takeWhile (isDigitIn b)).length := by
  unfold digitRun at h
  split at h
  · cases h
  · simp only [Option.some.injEq, Prod.mk.injEq] at h
    exact ⟨‹_›, h.1.symm, h.2.symm⟩

/-- The sign `signPrefix` finds is one of the three a field may have. -/
theorem signPrefix_spec (t : List Char) :
    (t.take (signPrefix t).2 = [] ∨ t.take (signPrefix t).2 = ['-'] ∨
        t.take (signPrefix t).2 = ['+']) ∧
      (signPrefix t).1 = decide (t.take (signPrefix t).2 = ['-']) := by
  unfold signPrefix
  split <;> simp

/-- What follows a maximal run of digits is no digit. -/
theorem noDigitAhead_dropWhile (l : List Char) : NoDigitAhead (l.dropWhile (isDigitIn 10)) := by
  intro c hc
  have h := List.head?_dropWhile_not (isDigitIn 10) l
  rw [Option.mem_def] at hc
  rw [hc] at h
  exact h

/-- **`%u` reads a whole field.**  Not followed by a digit, it is read exactly. -/
theorem scanUnsigned_text (u : UnsignedField) {rest : List Char} (hrest : NoDigitAhead rest) :
    scanUnsigned abi (u.text ++ rest) = some (u.value abi, rest) := by
  obtain ⟨d, ds, hd⟩ := List.exists_cons_of_ne_nil u.digits_ne
  have hdig : isDigitIn 10 d := u.digits_dec d (by simp [hd])
  have hhead : ∀ c ∈ (u.sign ++ u.digits ++ rest).head?, isSpace c = false := by
    rcases u.sign_ok with h | h | h <;> simp [h, hd, isSpace_of_digit hdig] <;> decide
  have hws := (@takeWhile_digits_append isSpace _ _ u.ws_space hhead).2
  have hsign := @signPrefix_of_sign _ (u.digits ++ rest) u.sign_ok (by simp [hd, hdig])
  have hrun : digitRun 10 (u.digits ++ rest) = some (valueIn 10 u.digits, u.digits.length) := by
    rw [digitRun, (takeWhile_digits_append u.digits_dec hrest).1, if_neg u.digits_ne]
  simp only [scanUnsigned, UnsignedField.text, List.append_assoc] at hws ⊢
  simp only [hws, hsign, List.drop_left, hrun]
  simp [UnsignedField.value]

/-- **What `%u` reads is a field.**  A successful `%u` read a field, not followed by a
digit, and stored its value. -/
theorem scanUnsigned_eq_some {s r : List Char} {v : BitVec 32}
    (h : scanUnsigned abi s = some (v, r)) :
    ∃ u : UnsignedField, s = u.text ++ r ∧ v = u.value abi ∧ NoDigitAhead r := by
  obtain ⟨hsign, hneg⟩ := signPrefix_spec (s.dropWhile isSpace)
  dsimp only [scanUnsigned] at h
  generalize hw : (s.dropWhile isSpace).drop (signPrefix (s.dropWhile isSpace)).2 = w at h
  cases hd : digitRun 10 w with
  | none => simp [hd] at h
  | some p =>
    obtain ⟨m, n⟩ := p
    obtain ⟨hne, rfl, rfl⟩ := digitRun_eq_some hd
    simp only [hd, Option.some.injEq, Prod.mk.injEq] at h
    obtain ⟨rfl, rfl⟩ := h
    have hdrop : w.drop (w.takeWhile (isDigitIn 10)).length = w.dropWhile (isDigitIn 10) :=
      calc w.drop (w.takeWhile (isDigitIn 10)).length
          = (w.takeWhile (isDigitIn 10) ++ w.dropWhile (isDigitIn 10)).drop
              (w.takeWhile (isDigitIn 10)).length := by rw [List.takeWhile_append_dropWhile]
        _ = w.dropWhile (isDigitIn 10) := List.drop_left _ _
    refine ⟨⟨s.takeWhile isSpace,
      (s.dropWhile isSpace).take (signPrefix (s.dropWhile isSpace)).2,
      w.takeWhile (isDigitIn 10), fun c hc => List.mem_takeWhile_imp hc, hsign, hne,
      fun c hc => List.mem_takeWhile_imp hc⟩, ?_, ?_, hdrop ▸ noDigitAhead_dropWhile w⟩
    · rw [UnsignedField.text, hdrop]
      dsimp only
      rw [List.append_assoc, List.append_assoc, List.takeWhile_append_dropWhile, ← hw,
        List.take_append_drop,
        List.takeWhile_append_dropWhile]
    · simp [UnsignedField.value, hneg]

/-- The last directive of a format is a conversion. -/
def endsInConversion : List ScanDirective → Bool
  | [] => false
  | [.literal _] => false
  | [_] => true
  | _ :: ds => endsInConversion ds

theorem convCount_le_cons (d : ScanDirective) (ds : List ScanDirective) :
    convCount ds ≤ convCount (d :: ds) := by
  cases d <;> simp [convCount]

theorem endsInConversion_tail {d : ScanDirective} {ds : List ScanDirective}
    (h : endsInConversion (d :: ds)) : ds = [] ∨ endsInConversion ds := by
  cases ds with
  | nil => exact .inl rfl
  | cons e ds => cases d <;> exact .inr h

theorem endsInConversion_literal_tail {l : Char} {ds : List ScanDirective}
    (h : endsInConversion (.literal l :: ds)) : endsInConversion ds :=
  (endsInConversion_tail h).resolve_left (by rintro rfl; simp [endsInConversion] at h)

theorem convCount_pos {ds : List ScanDirective} (h : endsInConversion ds) : 0 < convCount ds := by
  induction ds using endsInConversion.induct with
  | case1 | case2 => simp [endsInConversion] at h
  | case3 d hd => cases d <;> simp_all [convCount]
  | case4 d ds _ hne ih =>
    exact Nat.lt_of_lt_of_le (ih ((endsInConversion_tail h).resolve_left hne))
      (convCount_le_cons d _)

/-- A run where every directive matches assigns one item per conversion and meets no
input failure. -/
theorem scanDirectives_of_scanAll {ds : List ScanDirective} {s r : List Char}
    {items : List ScanItem} (h : scanAll abi ds s = some (items, r)) :
    scanDirectives abi ds s = (items, false) ∧ items.length = convCount ds := by
  induction ds, s using scanAll.induct abi generalizing items r with
  | case1 s =>
    simp only [scanAll, Option.some.injEq, Prod.mk.injEq] at h
    obtain ⟨rfl, rfl⟩ := h
    exact ⟨rfl, rfl⟩
  | case2 | case4 | case6 => simp_all [scanAll]
  | case3 ds c s ih =>
    obtain ⟨⟨items', r'⟩, h', he⟩ := Option.map_eq_some'.mp h
    cases he
    obtain ⟨h1, h2⟩ := ih h'
    simp only [scanDirectives, h1, convCount, List.length_cons, h2, and_self]
  | case5 ds c s ih =>
    rw [scanAll, if_pos rfl] at h
    obtain ⟨h1, h2⟩ := ih h
    rw [scanDirectives, if_pos rfl, h1]
    exact ⟨rfl, h2⟩
  | case7 ds s ih =>
    obtain ⟨⟨v, t⟩, hu, h'⟩ := Option.bind_eq_some.mp h
    obtain ⟨⟨items', r'⟩, h'', he⟩ := Option.map_eq_some'.mp h'
    cases he
    obtain ⟨h1, h2⟩ := ih (v, t) h''
    simp only [scanDirectives, hu, h1, convCount, List.length_cons, h2, and_self]

/-- A run of a format ending in a conversion that assigns all its items matched every
directive. -/
theorem scanAll_isSome_of_full {ds : List ScanDirective} {s : List Char}
    (hds : endsInConversion ds) (h : (scanDirectives abi ds s).1.length = convCount ds) :
    (scanAll abi ds s).isSome := by
  induction ds, s using scanDirectives.induct abi with
  | case1 => simp [endsInConversion] at hds
  | case2 | case8 => simp [scanDirectives, convCount, *] at h
  | case3 ds c s ih =>
    simp only [scanDirectives, convCount, List.length_cons, Nat.add_right_cancel_iff] at h
    rcases endsInConversion_tail hds with rfl | hds'
    · simp [scanAll]
    · simpa [scanAll] using ih hds' h
  | case4 l ds =>
    have := convCount_pos (endsInConversion_literal_tail hds)
    simp [scanDirectives, convCount] at h
    omega
  | case5 ds c s ih =>
    rw [scanDirectives, if_pos rfl, convCount] at h
    simpa [scanAll] using ih (endsInConversion_literal_tail hds) h
  | case6 l ds c s hc =>
    have := convCount_pos (endsInConversion_literal_tail hds)
    simp [scanDirectives, convCount, hc] at h
    omega
  | case7 ds s v r hu ih =>
    simp only [scanDirectives, hu, convCount, List.length_cons, Nat.add_right_cancel_iff] at h
    rcases endsInConversion_tail hds with rfl | hds'
    · simp [scanAll, hu]
    · simpa [scanAll, hu] using ih hds' h

/-- **A format ending in a conversion assigns all its items exactly when every
directive matches.**  This is what a check of `sscanf`'s return value against the
number of conversions decides. -/
theorem scanDirectives_full_iff {ds : List ScanDirective} (hds : endsInConversion ds)
    (s : List Char) :
    (scanDirectives abi ds s).1.length = convCount ds ↔ (scanAll abi ds s).isSome := by
  refine ⟨scanAll_isSome_of_full hds, fun h => ?_⟩
  obtain ⟨⟨items, r⟩, h⟩ := Option.isSome_iff_exists.mp h
  obtain ⟨h1, h2⟩ := scanDirectives_of_scanAll h
  rw [h1, h2]

theorem scanAll_nil_iff {s r : List Char} {items : List ScanItem} :
    scanAll abi [] s = some (items, r) ↔ items = [] ∧ r = s := by
  simp [scanAll, eq_comm]

theorem scanAll_char_iff {ds : List ScanDirective} {s r : List Char} {items : List ScanItem} :
    scanAll abi (.char :: ds) s = some (items, r) ↔
      ∃ c s' items', s = c :: s' ∧ scanAll abi ds s' = some (items', r) ∧
        items = .char c :: items' := by
  cases s with
  | nil => simp [scanAll]
  | cons c s =>
    simp only [scanAll, Option.map_eq_some', Prod.exists, Prod.mk.injEq, List.cons.injEq]
    constructor
    · rintro ⟨items', r', h, rfl, rfl⟩
      exact ⟨c, s, items', ⟨rfl, rfl⟩, h, rfl⟩
    · rintro ⟨c', s', items', ⟨rfl, rfl⟩, h, rfl⟩
      exact ⟨items', r, h, rfl, rfl⟩

theorem scanAll_literal_iff {l : Char} {ds : List ScanDirective} {s r : List Char}
    {items : List ScanItem} :
    scanAll abi (.literal l :: ds) s = some (items, r) ↔
      ∃ s', s = l :: s' ∧ scanAll abi ds s' = some (items, r) := by
  cases s with
  | nil => simp [scanAll]
  | cons c s =>
    by_cases hc : c = l
    · subst hc; simp [scanAll]
    · simp [scanAll, hc]

theorem scanAll_unsigned_iff {ds : List ScanDirective} {s r : List Char} {items : List ScanItem} :
    scanAll abi (.unsigned :: ds) s = some (items, r) ↔
      ∃ u : UnsignedField, ∃ s' items', s = u.text ++ s' ∧ NoDigitAhead s' ∧
        scanAll abi ds s' = some (items', r) ∧ items = .unsigned (u.value abi) :: items' := by
  simp only [scanAll, Option.bind_eq_some, Option.map_eq_some', Prod.exists, Prod.mk.injEq]
  constructor
  · rintro ⟨v, s', hu, items', r', h, rfl, rfl⟩
    obtain ⟨u, rfl, rfl, hnd⟩ := scanUnsigned_eq_some hu
    exact ⟨u, s', items', rfl, hnd, h, rfl⟩
  · rintro ⟨u, s', items', rfl, hnd, h, rfl⟩
    exact ⟨u.value abi, s', scanUnsigned_text u hnd, items', r, h, rfl, rfl⟩

theorem noDigitAhead_cons {c : Char} (hc : isDigitIn 10 c = false) (r : List Char) :
    NoDigitAhead (c :: r) := by
  simpa [NoDigitAhead] using hc

/-- **`sscanf` returns the number of conversions of a format ending in a conversion**
exactly when every directive matches, and then it assigned the matched items. -/
theorem sscanf_full_iff (s : List Char) (fmt : String)
    (h : endsInConversion (parseScanFormat fmt.toList)) :
    (sscanf abi s fmt).1 = convCount (parseScanFormat fmt.toList) ↔
      ∃ r, scanAll abi (parseScanFormat fmt.toList) s = some ((sscanf abi s fmt).2, r) := by
  have hpos := convCount_pos h
  have hfull := @scanDirectives_full_iff abi _ h s
  simp only [sscanf]
  constructor
  · intro hret
    have hlen : (scanDirectives abi (parseScanFormat fmt.toList) s).1.length =
        convCount (parseScanFormat fmt.toList) := by
      split_ifs at hret
      omega
    obtain ⟨⟨items, r⟩, hsome⟩ := Option.isSome_iff_exists.mp (hfull.mp hlen)
    refine ⟨r, ?_⟩
    rw [hsome, (scanDirectives_of_scanAll hsome).1]
  · rintro ⟨r, hsome⟩
    obtain ⟨h1, h2⟩ := scanDirectives_of_scanAll hsome
    rw [h1]
    simpa using h2

/-- When every directive matches, `sscanf` returns the number of conversions and
assigns the matched items. -/
theorem sscanf_of_scanAll {s r : List Char} {fmt : String} {items : List ScanItem}
    (h : scanAll abi (parseScanFormat fmt.toList) s = some (items, r)) :
    sscanf abi s fmt = ((convCount (parseScanFormat fmt.toList) : Int), items) := by
  obtain ⟨h1, h2⟩ := scanDirectives_of_scanAll h
  simp only [sscanf, h1, Bool.false_eq_true, false_and, if_false, h2]

theorem strchr_iff (s : CStr) (c : Char) : strchr s c = true ↔ c ∈ s.chars := by
  simp [strchr]

end IioXml
