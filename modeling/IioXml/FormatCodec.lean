import IioXml.ScanElement
import Mathlib.Data.Nat.Digits

/-!
# What the `format` branch accepts, and what it stores

`setup_scan_element` decodes a data format with

    strchr(content, 'X') ? sscanf(content, "%ce:%c%u/%uX%u>>%u", ...)   /* 6 items */
                         : sscanf(content, "%ce:%c%u/%u>>%u", ...)      /* 5 items */

and accepts the text when the call assigned all of its items.  Neither call checks the
two characters it reads with `%c`, nor what follows the last `%u`, and `%u` itself
skips white space and takes a sign.  So the branch accepts exactly the texts of the
shape `formatScanText`: any character, `e:`, any character, then `%u` fields (an
`UnsignedField` each) separated by `/`, an optional `X` clause and `>>`, then anything
that does not continue the last field's digits, the `X` clause being present exactly
when the text contains an `X` somewhere (`setupFormat_ok_iff`).

* `scanAll_withRepeat`, `scanAll_noRepeat` — the two calls, directive by directive;
* `scanFormat_matched_iff` — acceptance;
* `scanFormat_locals` — the stores of an accepted call;
* `setupFormat_ok_iff` — the branch, completely, and `setupScanElement_format_iff` for a
  `<scan-element>` whose attribute it is, with a text it accepts that is not strict
  (`setupScanElement_format_trailing_text`);
* `scanFormat_withFlags_of_accepted` — an accepted text overwrites every field but the
  scale, whatever the format was;
* `setupScanElement_strict_format` — the texts of the strict grammar `StrictFormatText`
  decode to the numbers they spell, and a format's rendering (`renderFormat`) decodes
  back to it.
-/

namespace IioXml

/-- The optional repeat clause `X<field>`. -/
def repeatClause : Option UnsignedField → List Char
  | some r => 'X' :: r.text
  | none => []

/-- A text the `format` branch's `sscanf` call matches: the characters `e` and `s`
around `e:`, the `%u` fields `b`, `l`, the optional repeat field `r` and `h`, and
whatever follows. -/
def formatScanText (e s : Char) (b l : UnsignedField) (r : Option UnsignedField)
    (h : UnsignedField) (rest : List Char) : List Char :=
  e :: 'e' :: ':' :: s :: (b.text ++ '/' :: (l.text ++ (repeatClause r ++ '>' :: '>' ::
    (h.text ++ rest))))

/-- The format `setup_scan_element` stores for a matched text, over the format `f` the
channel had. -/
def decodedFormat (abi : Abi) (f : DataFormat) (e s : Char) (b l : UnsignedField)
    (r : Option UnsignedField) (h : UnsignedField) : DataFormat :=
  { f with
    bits := b.value abi
    length := l.value abi
    «repeat» := (r.map (·.value abi)).getD 1
    shift := h.value abi
    isBe := e = 'b'
    isSigned := s = 's' || s = 'S'
    isFullyDefined := s = 'S' || s = 'U' || b.value abi = l.value abi }

theorem parseScanFormat_withRepeat :
    parseScanFormat "%ce:%c%u/%uX%u>>%u".toList = [.char, .literal 'e', .literal ':', .char,
      .unsigned, .literal '/', .unsigned, .literal 'X', .unsigned, .literal '>', .literal '>',
      .unsigned] := by decide

theorem parseScanFormat_noRepeat :
    parseScanFormat "%ce:%c%u/%u>>%u".toList = [.char, .literal 'e', .literal ':', .char,
      .unsigned, .literal '/', .unsigned, .literal '>', .literal '>', .unsigned] := by decide

/-- `%u` before a character that is no digit reads exactly its field. -/
theorem scanUnsigned_before (abi : Abi) (u : UnsignedField) (c : Char)
    (hc : isDigitIn 10 c = false) (r : List Char) :
    scanUnsigned abi (u.text ++ c :: r) = some (u.value abi, c :: r) :=
  scanUnsigned_text u (noDigitAhead_cons hc r)

/-- **The call with a repeat clause** matches exactly the texts with an `X` clause. -/
theorem scanAll_withRepeat (abi : Abi) (s rest : List Char) (items : List ScanItem) :
    scanAll abi [.char, .literal 'e', .literal ':', .char, .unsigned, .literal '/', .unsigned,
        .literal 'X', .unsigned, .literal '>', .literal '>', .unsigned] s = some (items, rest) ↔
      ∃ e c b l r h, s = formatScanText e c b l (some r) h rest ∧ NoDigitAhead rest ∧
        items = [.char e, .char c, .unsigned (b.value abi), .unsigned (l.value abi),
          .unsigned (r.value abi), .unsigned (h.value abi)] := by
  constructor
  · intro h0
    obtain ⟨e, _, _, rfl, h1, rfl⟩ := scanAll_char_iff.mp h0
    obtain ⟨_, rfl, h2⟩ := scanAll_literal_iff.mp h1
    obtain ⟨_, rfl, h3⟩ := scanAll_literal_iff.mp h2
    obtain ⟨c, _, _, rfl, h4, rfl⟩ := scanAll_char_iff.mp h3
    obtain ⟨b, _, _, rfl, -, h5, rfl⟩ := scanAll_unsigned_iff.mp h4
    obtain ⟨_, rfl, h6⟩ := scanAll_literal_iff.mp h5
    obtain ⟨l, _, _, rfl, -, h7, rfl⟩ := scanAll_unsigned_iff.mp h6
    obtain ⟨_, rfl, h8⟩ := scanAll_literal_iff.mp h7
    obtain ⟨r, _, _, rfl, -, h9, rfl⟩ := scanAll_unsigned_iff.mp h8
    obtain ⟨_, rfl, h10⟩ := scanAll_literal_iff.mp h9
    obtain ⟨_, rfl, h11⟩ := scanAll_literal_iff.mp h10
    obtain ⟨h, _, _, rfl, hh, h12, rfl⟩ := scanAll_unsigned_iff.mp h11
    obtain ⟨rfl, rfl⟩ := scanAll_nil_iff.mp h12
    exact ⟨e, c, b, l, r, h, by simp [formatScanText, repeatClause], hh, rfl⟩
  · rintro ⟨e, c, b, l, r, h, rfl, hh, rfl⟩
    simp [scanAll, formatScanText, repeatClause, scanUnsigned_before _ _ '/' rfl,
      scanUnsigned_before _ _ 'X' rfl, scanUnsigned_before _ _ '>' rfl, scanUnsigned_text _ hh]

/-- **The call without a repeat clause** matches exactly the texts without one. -/
theorem scanAll_noRepeat (abi : Abi) (s rest : List Char) (items : List ScanItem) :
    scanAll abi [.char, .literal 'e', .literal ':', .char, .unsigned, .literal '/', .unsigned,
        .literal '>', .literal '>', .unsigned] s = some (items, rest) ↔
      ∃ e c b l h, s = formatScanText e c b l none h rest ∧ NoDigitAhead rest ∧
        items = [.char e, .char c, .unsigned (b.value abi), .unsigned (l.value abi),
          .unsigned (h.value abi)] := by
  constructor
  · intro h0
    obtain ⟨e, _, _, rfl, h1, rfl⟩ := scanAll_char_iff.mp h0
    obtain ⟨_, rfl, h2⟩ := scanAll_literal_iff.mp h1
    obtain ⟨_, rfl, h3⟩ := scanAll_literal_iff.mp h2
    obtain ⟨c, _, _, rfl, h4, rfl⟩ := scanAll_char_iff.mp h3
    obtain ⟨b, _, _, rfl, -, h5, rfl⟩ := scanAll_unsigned_iff.mp h4
    obtain ⟨_, rfl, h6⟩ := scanAll_literal_iff.mp h5
    obtain ⟨l, _, _, rfl, -, h7, rfl⟩ := scanAll_unsigned_iff.mp h6
    obtain ⟨_, rfl, h8⟩ := scanAll_literal_iff.mp h7
    obtain ⟨_, rfl, h9⟩ := scanAll_literal_iff.mp h8
    obtain ⟨h, _, _, rfl, hh, h10, rfl⟩ := scanAll_unsigned_iff.mp h9
    obtain ⟨rfl, rfl⟩ := scanAll_nil_iff.mp h10
    exact ⟨e, c, b, l, h, by simp [formatScanText, repeatClause], hh, rfl⟩
  · rintro ⟨e, c, b, l, h, rfl, hh, rfl⟩
    simp [scanAll, formatScanText, repeatClause, scanUnsigned_before _ _ '/' rfl,
      scanUnsigned_before _ _ '>' rfl, scanUnsigned_text _ hh]

/-- **What the call accepts.**  The `format` call assigns all of its items exactly on
the texts of the shape `formatScanText` whose `X` clause is present iff the text holds
an `X`. -/
theorem scanFormat_matched_iff (abi : Abi) (f : DataFormat) (t : CStr) :
    (scanFormat abi f t).1 = (scanFormat abi f t).2.1 ↔
      ∃ e c b l r h rest, t.chars = formatScanText e c b l r h rest ∧ NoDigitAhead rest ∧
        (r.isSome ↔ 'X' ∈ t.chars) := by
  unfold scanFormat
  by_cases hX : strchr t 'X' = true
  · have hmem : 'X' ∈ t.chars := (strchr_iff t 'X').mp hX
    have key := @sscanf_full_iff abi t.chars "%ce:%c%u/%uX%u>>%u" (by decide)
    rw [parseScanFormat_withRepeat] at key
    simp only [hX, if_true]
    constructor
    · intro h6
      obtain ⟨rest, hs⟩ := key.mp (by exact_mod_cast h6)
      obtain ⟨e, c, b, l, r, h, ht, hh, -⟩ := (scanAll_withRepeat _ _ _ _).mp hs
      exact ⟨e, c, b, l, some r, h, rest, ht, hh, by simp [hmem]⟩
    · rintro ⟨e, c, b, l, r, h, rest, ht, hh, hr⟩
      obtain ⟨r, rfl⟩ := Option.isSome_iff_exists.mp (hr.mpr hmem)
      have hs := (scanAll_withRepeat abi t.chars rest _).mpr ⟨e, c, b, l, r, h, ht, hh, rfl⟩
      rw [← parseScanFormat_withRepeat] at hs
      rw [sscanf_of_scanAll hs, parseScanFormat_withRepeat]
      rfl
  · have hmem : 'X' ∉ t.chars := fun h => hX ((strchr_iff t 'X').mpr h)
    have key := @sscanf_full_iff abi t.chars "%ce:%c%u/%u>>%u" (by decide)
    rw [parseScanFormat_noRepeat] at key
    simp only [hX, Bool.false_eq_true, if_false]
    constructor
    · intro h5
      obtain ⟨rest, hs⟩ := key.mp (by exact_mod_cast h5)
      obtain ⟨e, c, b, l, h, ht, hh, -⟩ := (scanAll_noRepeat _ _ _ _).mp hs
      exact ⟨e, c, b, l, none, h, rest, ht, hh, by simp [hmem]⟩
    · rintro ⟨e, c, b, l, r, h, rest, ht, hh, hr⟩
      have hnone : r = none := Option.not_isSome_iff_eq_none.mp (fun h => hmem (hr.mp h))
      subst hnone
      have hs := (scanAll_noRepeat abi t.chars rest _).mpr ⟨e, c, b, l, h, ht, hh, rfl⟩
      rw [← parseScanFormat_noRepeat] at hs
      rw [sscanf_of_scanAll hs, parseScanFormat_noRepeat]
      rfl

/-- **What an accepted call stores**: the two characters into `e` and `s`, the field
values into the format, and the repeat count 1 when there is no `X` clause. -/
theorem scanFormat_locals (abi : Abi) (f : DataFormat) (t : CStr) {e c : Char}
    {b l h : UnsignedField} {r : Option UnsignedField} {rest : List Char}
    (ht : t.chars = formatScanText e c b l r h rest) (hh : NoDigitAhead rest)
    (hr : r.isSome ↔ 'X' ∈ t.chars) :
    (scanFormat abi f t).2.2 = ⟨e, c, { f with
      bits := b.value abi
      length := l.value abi
      «repeat» := (r.map (·.value abi)).getD 1
      shift := h.value abi }⟩ := by
  unfold scanFormat
  cases r with
  | some r =>
    have hX : strchr t 'X' = true := (strchr_iff t 'X').mpr (hr.mp rfl)
    have hs := (scanAll_withRepeat abi t.chars rest _).mpr ⟨e, c, b, l, r, h, ht, hh, rfl⟩
    rw [← parseScanFormat_withRepeat] at hs
    simp only [hX, if_true, sscanf_of_scanAll hs]
    rfl
  | none =>
    have hX : strchr t 'X' = false := by
      cases h' : strchr t 'X'
      · rfl
      · exact absurd (hr.mpr ((strchr_iff t 'X').mp h')) (by simp)
    have hs := (scanAll_noRepeat abi t.chars rest _).mpr ⟨e, c, b, l, h, ht, hh, rfl⟩
    rw [← parseScanFormat_noRepeat] at hs
    simp only [hX, Bool.false_eq_true, if_false, sscanf_of_scanAll hs]
    rfl

/-- **The `format` branch, completely.**  It succeeds exactly on a text of the shape
`formatScanText` whose `X` clause is present iff the text holds an `X`, and then stores
`decodedFormat`: the `%u` values, the repeat count 1 without a clause, and the flags
derived from the two `%c` characters, whatever they are. -/
theorem setupFormat_ok_iff (abi : Abi) (chn : Channel) (t : CStr) (chn' : Channel) :
    setupFormat abi chn t = .ok chn' ↔
      ∃ e c b l r h rest, t.chars = formatScanText e c b l r h rest ∧ NoDigitAhead rest ∧
        (r.isSome ↔ 'X' ∈ t.chars) ∧
        chn' = { chn with format := decodedFormat abi chn.format e c b l r h } := by
  unfold setupFormat
  split_ifs with hne
  · refine ⟨nofun, ?_⟩
    rintro ⟨e, c, b, l, r, h, rest, ht, hh, hr, -⟩
    exact absurd ((scanFormat_matched_iff _ _ _).mpr ⟨e, c, b, l, r, h, rest, ht, hh, hr⟩) hne
  · constructor
    · intro hok
      cases hok
      obtain ⟨e, c, b, l, r, h, rest, ht, hh, hr⟩ :=
        (scanFormat_matched_iff _ _ _).mp (not_not.mp hne)
      refine ⟨e, c, b, l, r, h, rest, ht, hh, hr, ?_⟩
      rw [scanFormat_locals _ _ _ ht hh hr]
      rfl
    · rintro ⟨e, c, b, l, r, h, rest, ht, hh, hr, rfl⟩
      rw [scanFormat_locals _ _ _ ht hh hr]
      rfl

/-- The format a `format` text decodes to on a zeroed format. -/
def decodeFormat (abi : Abi) (t : CStr) : DataFormat :=
  (scanFormat abi DataFormat.zero t).2.2.withFlags

/-- **An accepted `format` text overwrites every field but the scale.**  What it stores
does not depend on the format it is decoded over, except `with_scale` and `scale`,
which it keeps. -/
theorem scanFormat_withFlags_of_accepted (abi : Abi) (f : DataFormat) {t : CStr}
    (h : FormatAccepted abi t) :
    (scanFormat abi f t).2.2.withFlags =
      { decodeFormat abi t with withScale := f.withScale, scale := f.scale } := by
  obtain ⟨e, c, b, l, r, h', rest, ht, hh, hr⟩ := (scanFormat_matched_iff _ _ _).mp h
  rw [decodeFormat, scanFormat_locals abi f t ht hh hr, scanFormat_locals abi _ t ht hh hr]
  rfl

/-! ### Strict format texts -/

/-- A field of the strict grammar: bare decimal digits, with neither sign nor white space,
of a value below `2^32`. -/
structure DecimalField where
  digits : List Char
  digits_ne : digits ≠ []
  digits_dec : ∀ c ∈ digits, isDigitIn 10 c
  lt : valueIn 10 digits < 2 ^ 32

/-- The value of a decimal field. -/
def DecimalField.val (f : DecimalField) : Nat := valueIn 10 f.digits

/-- A decimal field read as a `%u` field. -/
def DecimalField.toField (f : DecimalField) : UnsignedField :=
  .ofDigits f.digits f.digits_ne f.digits_dec

theorem DecimalField.toField_value (abi : Abi) (f : DecimalField) :
    f.toField.value abi = BitVec.ofNat 32 f.val := by
  have hlt := f.lt
  have hmax : 2 ^ 32 - 1 ≤ abi.ulongMax := by cases abi <;> decide
  simp only [toField, UnsignedField.ofDigits, UnsignedField.value, unsignedConversion_eq,
    if_neg (show ¬ abi.ulongMax < valueIn 10 f.digits by omega)]
  simp [val]

theorem DecimalField.ofNat_val_inj (f g : DecimalField) :
    BitVec.ofNat 32 f.val = BitVec.ofNat 32 g.val ↔ f.val = g.val := by
  have hf := f.lt
  have hg := g.lt
  constructor
  · intro h
    have := congrArg BitVec.toNat h
    simp only [BitVec.toNat_ofNat, val] at this
    rwa [Nat.mod_eq_of_lt hf, Nat.mod_eq_of_lt hg] at this
  · intro h
    rw [h]

/-- A text of the strict grammar: `b` or `l`, `e:`, one of `s S u U`, then decimal
fields `B/L`, an optional `XR` and `>>H`, and nothing after `H`. -/
structure StrictFormatText where
  endian : Char
  sign : Char
  bits : DecimalField
  length : DecimalField
  «repeat» : Option DecimalField
  shift : DecimalField
  endian_ok : endian = 'b' ∨ endian = 'l'
  sign_ok : sign = 's' ∨ sign = 'S' ∨ sign = 'u' ∨ sign = 'U'

/-- The characters of a strict text. -/
def StrictFormatText.text (s : StrictFormatText) : List Char :=
  formatScanText s.endian s.sign s.bits.toField s.length.toField (s.repeat.map (·.toField))
    s.shift.toField []

theorem isCByte_of_digit {c : Char} (h : isDigitIn 10 c) : IsCByte c := by
  rw [isDigitIn_ten_iff] at h
  exact ⟨by omega, by omega⟩

theorem DecimalField.X_not_mem_text (f : DecimalField) : 'X' ∉ f.toField.text := fun h =>
  absurd (f.digits_dec _ (by simpa [toField, UnsignedField.ofDigits, UnsignedField.text] using h))
    (by decide)

theorem DecimalField.isCByte_text (f : DecimalField) : ∀ c ∈ f.toField.text, IsCByte c :=
  fun c hc => isCByte_of_digit (f.digits_dec c (by
    simpa [toField, UnsignedField.ofDigits, UnsignedField.text] using hc))

theorem StrictFormatText.isCByte_text (s : StrictFormatText) : ∀ c ∈ s.text, IsCByte c := by
  have he : IsCByte s.endian := by rcases s.endian_ok with h | h <;> rw [h] <;> decide
  have hs : IsCByte s.sign := by rcases s.sign_ok with h | h | h | h <;> rw [h] <;> decide
  have hr : ∀ c ∈ repeatClause (s.repeat.map (·.toField)), IsCByte c := by
    rcases s.repeat with _ | r
    · simp [repeatClause]
    · simp only [Option.map_some', repeatClause, List.mem_cons]
      rintro c (rfl | hc)
      · decide
      · exact r.isCByte_text c hc
  intro c hc
  simp only [text, formatScanText, List.mem_cons, List.mem_append, List.append_nil] at hc
  rcases hc with rfl | rfl | rfl | rfl | hc | rfl | hc | hc | rfl | rfl | hc
  all_goals first | assumption | decide | exact hr c hc | exact DecimalField.isCByte_text _ c hc

/-- A strict text as a C string. -/
def StrictFormatText.toCStr (s : StrictFormatText) : CStr := ⟨s.text, s.isCByte_text⟩

/-- A strict text holds an `X` exactly when it has a repeat clause, so `strchr` picks
the right call. -/
theorem StrictFormatText.X_mem_text_iff (s : StrictFormatText) :
    'X' ∈ s.text ↔ s.repeat.isSome := by
  have he : 'X' ≠ s.endian := by rcases s.endian_ok with h | h <;> rw [h] <;> decide
  have hs : 'X' ≠ s.sign := by rcases s.sign_ok with h | h | h | h <;> rw [h] <;> decide
  rcases hr : s.repeat with _ | r <;>
    simp [text, hr, formatScanText, repeatClause, he, hs, DecimalField.X_not_mem_text]

/-- The `format` branch accepts every strict text. -/
theorem setupFormat_strict (abi : Abi) (chn : Channel) (s : StrictFormatText) :
    setupFormat abi chn s.toCStr = .ok { chn with
      format := decodedFormat abi chn.format s.endian s.sign s.bits.toField s.length.toField
        (s.repeat.map (·.toField)) s.shift.toField } :=
  (setupFormat_ok_iff _ _ _ _).mpr ⟨_, _, _, _, _, _, [], rfl, by simp [NoDigitAhead],
    by simpa using s.X_mem_text_iff.symm, rfl⟩

/-- What a strict text decodes to, in the numbers its fields denote. -/
theorem decodedFormat_strict (abi : Abi) (f : DataFormat) (s : StrictFormatText) :
    decodedFormat abi f s.endian s.sign s.bits.toField s.length.toField (s.repeat.map (·.toField))
        s.shift.toField = { f with
      isBe := s.endian = 'b'
      isSigned := s.sign = 's' || s.sign = 'S'
      isFullyDefined := s.sign = 'S' || s.sign = 'U' || s.bits.val = s.length.val
      bits := BitVec.ofNat 32 s.bits.val
      length := BitVec.ofNat 32 s.length.val
      shift := BitVec.ofNat 32 s.shift.val
      «repeat» := BitVec.ofNat 32 ((s.repeat.map (·.val)).getD 1) } := by
  rcases s.repeat with _ | r <;>
    simp [decodedFormat, DecimalField.toField_value, DecimalField.ofNat_val_inj]

/-! ### Rendering a format -/

theorem digitChar_spec : ∀ d, d < 10 →
    isDigitIn 10 (Nat.digitChar d) ∧ digitValue (Nat.digitChar d) = d := by
  decide

/-- `Nat.toDigitsCore` in base 10, with fuel to spare, puts the digits of `n` in front of
what it was given. -/
theorem toDigitsCore_ten (fuel n : Nat) (ds : List Char) (hn : n < fuel) :
    ∃ es, Nat.toDigitsCore 10 fuel n ds = es ++ ds ∧ es ≠ [] ∧
      (∀ c ∈ es, isDigitIn 10 c) ∧ valueIn 10 es = n := by
  induction fuel generalizing n ds with
  | zero => omega
  | succ fuel ih =>
    obtain ⟨hdig, hval⟩ := digitChar_spec (n % 10) (Nat.mod_lt _ (by omega))
    simp only [Nat.toDigitsCore]
    split_ifs with h0
    · exact ⟨[Nat.digitChar (n % 10)], rfl, by simp, by simpa using hdig,
        by simp only [valueIn, List.foldl_cons, List.foldl_nil, hval]; omega⟩
    · obtain ⟨es, hes, hne, hd, hv⟩ := ih (n / 10) (Nat.digitChar (n % 10) :: ds) (by omega)
      refine ⟨es ++ [Nat.digitChar (n % 10)], by simp [hes], by simp, ?_, ?_⟩
      · simpa [or_imp, forall_and] using ⟨hd, hdig⟩
      · rw [valueIn_append, hv]
        simp only [valueIn, List.foldl_cons, List.foldl_nil, hval, List.length_singleton]
        omega

/-- `Nat.toDigits 10 n` is a decimal numeral of `n`. -/
theorem toDigits_ten (n : Nat) :
    Nat.toDigits 10 n ≠ [] ∧ (∀ c ∈ Nat.toDigits 10 n, isDigitIn 10 c) ∧
      valueIn 10 (Nat.toDigits 10 n) = n := by
  obtain ⟨es, h, hne, hd, hv⟩ := toDigitsCore_ten (n + 1) n [] (by omega)
  rw [Nat.toDigits, h, List.append_nil]
  exact ⟨hne, hd, hv⟩

/-- The decimal numeral of an `unsigned int`. -/
def decimalField (v : BitVec 32) : DecimalField :=
  ⟨Nat.toDigits 10 v.toNat, (toDigits_ten _).1, (toDigits_ten _).2.1,
    by rw [(toDigits_ten _).2.2]; exact v.isLt⟩

@[simp] theorem decimalField_val (v : BitVec 32) : (decimalField v).val = v.toNat :=
  (toDigits_ten _).2.2

/-- Modelled from the spec: `Encode(DataFormat)`, the text of a format.  The sign letter
is `s` or `u` by signedness, upper-case when the format is fully defined, and the repeat
clause is emitted only when the repeat count is not 1. -/
def renderFormat (f : DataFormat) : StrictFormatText where
  endian := if f.isBe then 'b' else 'l'
  sign := if f.isSigned then (if f.isFullyDefined then 'S' else 's')
    else (if f.isFullyDefined then 'U' else 'u')
  bits := decimalField f.bits
  length := decimalField f.length
  «repeat» := if f.repeat = 1 then none else some (decimalField f.repeat)
  shift := decimalField f.shift
  endian_ok := by split <;> simp
  sign_ok := by split <;> split <;> simp

/-- A strict text ends in a digit of its shift field. -/
theorem StrictFormatText.last_digit (s : StrictFormatText) :
    ∀ c ∈ s.text.getLast?, isDigitIn 10 c := by
  intro c hc
  have hsplit : s.text = (s.endian :: 'e' :: ':' :: s.sign :: (s.bits.toField.text ++
      '/' :: (s.length.toField.text ++
        (repeatClause (s.repeat.map (·.toField)) ++ ['>', '>'])))) ++ s.shift.digits := by
    simp [text, formatScanText, DecimalField.toField, UnsignedField.ofDigits, UnsignedField.text]
  rw [hsplit, List.getLast?_append_of_ne_nil _ s.shift.digits_ne] at hc
  exact s.shift.digits_dec c (List.mem_of_getLast?_eq_some hc)

/-- A `<scan-element>` whose only attribute is a strict `format` text returns 0. -/
theorem setupScanElement_strict (p : Platform) (chn : Channel) (nm : String)
    (cs : List XmlNode) (s : StrictFormatText) :
    setupScanElement p chn ⟨nm, [⟨"format", s.toCStr⟩], cs⟩ = (0, { chn with
      format := decodedFormat p.abi chn.format s.endian s.sign s.bits.toField s.length.toField
        (s.repeat.map (·.toField)) s.shift.toField }) :=
  (setupScanElement_single_ok_iff _ _ _ _ _ _).mpr
    (by rw [setupScanElementAttr_format, setupFormat_strict])

/-- Decoding the rendering of a format gives back every field of it that a text carries,
provided it is fully defined whenever `bits = length`. -/
theorem decodedFormat_render (abi : Abi) (g f : DataFormat)
    (hf : f.bits = f.length → f.isFullyDefined) :
    decodedFormat abi g (renderFormat f).endian (renderFormat f).sign (renderFormat f).bits.toField
        (renderFormat f).length.toField ((renderFormat f).repeat.map (·.toField))
        (renderFormat f).shift.toField =
      { f with withScale := g.withScale, scale := g.scale } := by
  rw [decodedFormat_strict]
  apply DataFormat.ext
  case length | bits | shift => simp [renderFormat]
  case withScale | scale => rfl
  case isFullyDefined => simp only [renderFormat]; split_ifs <;> simp_all [← BitVec.toNat_eq]
  all_goals simp only [renderFormat]; split_ifs <;> simp_all

/-- **The `format` attribute, exactly.**  A `<scan-element>` whose `format` attribute is
`t` returns 0 exactly when `t` has the shape `formatScanText` (any two characters around
`e:`, `%u` fields, which take white space and a sign, and anything after the last field
that does not continue its digits), with an `X` clause iff `t` holds an `X`; the format
is then `decodedFormat`, whose numbers are what glibc's `%u` stores for the fields: the
signed value modulo `2^32`, or all ones when the digits exceed `ULONG_MAX`. -/
theorem setupScanElement_format_iff (p : Platform) (chn chn' : Channel) (nm : String)
    (t : CStr) (cs : List XmlNode) :
    (setupScanElement p chn ⟨nm, [⟨"format", t⟩], cs⟩ = (0, chn') ↔
      ∃ e c b l r h rest, t.chars = formatScanText e c b l r h rest ∧ NoDigitAhead rest ∧
        (r.isSome ↔ 'X' ∈ t.chars) ∧
        chn' = { chn with format := decodedFormat p.abi chn.format e c b l r h }) ∧
    ∀ u : UnsignedField, u.value p.abi =
      if p.abi.ulongMax < valueIn 10 u.digits then BitVec.allOnes 32
      else BitVec.ofInt 32
        (if u.sign = ['-'] then -(valueIn 10 u.digits : Int) else valueIn 10 u.digits) := by
  rw [setupScanElement_single_ok_iff, setupScanElementAttr_format]
  exact ⟨setupFormat_ok_iff p.abi chn t chn', UnsignedField.value_eq p.abi⟩

/-- A numeral past `ULONG_MAX` stores `UINT_MAX`, as glibc's `strtoul` saturates. -/
example :
    (setupScanElement ⟨.lp64, fun _ => ⟨0, 0, false⟩⟩
        ⟨false, true, DataFormat.zero, none, ⟨['c'], by decide⟩, -ENOENT, []⟩
        ⟨"scan-element", [⟨"format", .lit "le:s18446744073709551621/16>>0"⟩], []⟩).2.format.bits =
      BitVec.allOnes 32 := by
  decide

/-- A strict text followed by other characters is accepted as well. -/
theorem setupScanElement_format_trailing_text :
    (setupScanElement ⟨.lp64, fun _ => ⟨0, 0, false⟩⟩
        ⟨false, true, DataFormat.zero, none, ⟨['c'], by decide⟩, -ENOENT, []⟩
        ⟨"scan-element", [⟨"format", ⟨"be:s16/16>>0junk".toList, by decide⟩⟩], []⟩).1 = 0 ∧
      ¬ ∃ s : StrictFormatText, s.text = "be:s16/16>>0junk".toList := by
  refine ⟨by decide, ?_⟩
  rintro ⟨s, hs⟩
  have hlast := s.last_digit
  rw [hs] at hlast
  exact absurd (hlast 'k' (by decide)) (by decide)

/-- **Strict texts decode exactly, and rendering then decoding is the identity.**  Every
strict text is accepted and sets the flags from its letters and the numeric fields to
the numbers it spells, the repeat count 1 without a clause.  So the rendering of a format
that is fully defined whenever `bits = length` decodes back to it, whatever its repeat
count. -/
theorem setupScanElement_strict_format :
    (∀ (p : Platform) (chn : Channel) (nm : String) (cs : List XmlNode) (s : StrictFormatText),
      setupScanElement p chn ⟨nm, [⟨"format", s.toCStr⟩], cs⟩ = (0, { chn with
        format := { chn.format with
          isBe := s.endian = 'b'
          isSigned := s.sign = 's' || s.sign = 'S'
          isFullyDefined := s.sign = 'S' || s.sign = 'U' || s.bits.val = s.length.val
          bits := BitVec.ofNat 32 s.bits.val
          length := BitVec.ofNat 32 s.length.val
          shift := BitVec.ofNat 32 s.shift.val
          «repeat» := BitVec.ofNat 32 ((s.repeat.map (·.val)).getD 1) } })) ∧
    ∀ f : DataFormat, (f.bits = f.length → f.isFullyDefined) →
      ∀ (p : Platform) (chn : Channel) (nm : String) (cs : List XmlNode),
        setupScanElement p chn ⟨nm, [⟨"format", (renderFormat f).toCStr⟩], cs⟩ =
          (0, { chn with format := { f with
            withScale := chn.format.withScale
            scale := chn.format.scale } }) := by
  refine ⟨fun p chn nm cs s => ?_, fun f hf p chn nm cs => ?_⟩
  · rw [setupScanElement_strict, decodedFormat_strict]
  · rw [setupScanElement_strict, decodedFormat_render _ _ _ hf]

/-- The round trip on a signed 12-bit sample in 16-bit words, repeated twice. -/
theorem setupScanElement_strict_format_s12 :
    ((⟨16, 12, 4, true, false, false, false, 0, 2⟩ : DataFormat).bits =
        (⟨16, 12, 4, true, false, false, false, 0, 2⟩ : DataFormat).length →
      (⟨16, 12, 4, true, false, false, false, 0, 2⟩ : DataFormat).isFullyDefined) ∧
    setupScanElement ⟨.lp64, fun _ => ⟨0, 0, false⟩⟩
        ⟨false, true, DataFormat.zero, none, ⟨['c'], by decide⟩, -ENOENT, []⟩
        ⟨"scan-element",
          [⟨"format", (renderFormat ⟨16, 12, 4, true, false, false, false, 0, 2⟩).toCStr⟩], []⟩ =
      (0, ⟨false, true, ⟨16, 12, 4, true, false, false, false, 0, 2⟩, none,
        ⟨['c'], by decide⟩, -ENOENT, []⟩) :=
  ⟨by decide, setupScanElement_strict_format.2 _ (by decide) _ _ _ _⟩

end IioXml
