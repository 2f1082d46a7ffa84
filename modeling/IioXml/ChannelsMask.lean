import Mathlib.Data.Finset.Range
import Mathlib.Data.Finset.Filter
import Mathlib.Data.Finset.Erase
import Mathlib.Algebra.Group.Int

/-!
# The channels mask is a set of channel indices

`struct iio_channels_mask` (`iio-private.h`) packs one bit per channel into `words`
32-bit words; bit `i` lives at bit `i % 32` of word `i / 32` (`BIT_MASK`, `BIT_WORD`).
`BIT(x)` is the `int` shift `1 << x`: at `x = 31` it reaches the sign bit and yields
`INT_MIN`, which converts to the `uint32_t` `0x80000000` when combined with a word.

Read through `toFinset`, a mask is the set of indices whose bit is 1, and the three
inline functions are membership, `insert` and `erase` on that set, provided the index
is below `32 * words` (the callers' contract):

* `iioChannelsMaskTestBit_iff` — testing reads the bit of the index;
* `toFinset_setBit`, `toFinset_clearBit` — one call changes the set by its own index
  only;
* `channels_mask_refines_finset` — any sequence of calls, as a run of the abstract set.
-/

namespace IioXml

/-- `BIT(x)`: `1 << x` in a 32-bit `int`, wrapping into the sign bit at `x = 31`. -/
def bit (x : Nat) : Int := (2 ^ x : Int).bmod (2 ^ 32)

/-- `BIT_MASK(bit)`. -/
def bitMask (b : Nat) : Int := bit (b % 32)

/-- `BIT_WORD(bit)`. -/
def bitWord (b : Nat) : Nat := b / 32

/-- Conversion of an `int` to `uint32_t`. -/
def toUint32 (v : Int) : BitVec 32 := BitVec.ofInt 32 v

/-- `struct iio_channels_mask`: `words` words of 32 bits. -/
structure ChannelsMask where
  words : Nat
  mask : Array (BitVec 32)
  size_eq : mask.size = words

/-- `mask->mask[i]`. -/
def ChannelsMask.word (m : ChannelsMask) (i : Nat) : BitVec 32 := m.mask.getD i 0

/-- `iio_channels_mask_test_bit`. -/
def iioChannelsMaskTestBit (m : ChannelsMask) (b : Nat) : Bool :=
  decide (m.word (bitWord b) &&& toUint32 (bitMask b) ≠ 0)

/-- `iio_channels_mask_set_bit`. -/
def iioChannelsMaskSetBit (m : ChannelsMask) (b : Nat) : ChannelsMask :=
  ⟨m.words, m.mask.modify (bitWord b) (· ||| toUint32 (bitMask b)), by simp [m.size_eq]⟩

/-- `iio_channels_mask_clear_bit`; `~` is the `int` complement. -/
def iioChannelsMaskClearBit (m : ChannelsMask) (b : Nat) : ChannelsMask :=
  ⟨m.words, m.mask.modify (bitWord b) (· &&& toUint32 (Int.not (bitMask b))),
    by simp [m.size_eq]⟩

/-- Modelled from the spec: `iio_create_channels_mask` allocates zeroed words enough for
`nb_channels` bits. -/
def iioCreateChannelsMask (nbChannels : Nat) : ChannelsMask :=
  ⟨(nbChannels + 31) / 32, Array.mkArray ((nbChannels + 31) / 32) 0, by simp⟩

/-- The indices a mask selects. -/
def ChannelsMask.toFinset (m : ChannelsMask) : Finset Nat :=
  (Finset.range (32 * m.words)).filter fun i => (m.word (bitWord i)).getLsbD (i % 32)

/-- One call of the abstract interface. -/
inductive MaskOp
  | setBit (b : Nat)
  | clearBit (b : Nat)

/-- The index a call names. -/
def MaskOp.index : MaskOp → Nat
  | .setBit b => b
  | .clearBit b => b

/-- A call on the packed mask. -/
def MaskOp.run (m : ChannelsMask) : MaskOp → ChannelsMask
  | .setBit b => iioChannelsMaskSetBit m b
  | .clearBit b => iioChannelsMaskClearBit m b

/-- The same call on the set of selected indices. -/
def MaskOp.runSet (s : Finset Nat) : MaskOp → Finset Nat
  | .setBit b => insert b s
  | .clearBit b => s.erase b

/-- `BIT_MASK(b)`, once converted, is the single bit `b % 32`, the sign bit included. -/
theorem toUint32_bitMask (b : Nat) : toUint32 (bitMask b) = BitVec.twoPow 32 (b % 32) := by
  have hlt : 2 ^ (b % 32) < 2 ^ 32 := Nat.pow_lt_pow_right (by decide) (Nat.mod_lt _ (by decide))
  have hcast : ((2 : Int) ^ (b % 32)) = ((2 ^ (b % 32) : Nat) : Int) := by push_cast; rfl
  apply BitVec.eq_of_toNat_eq
  rw [toUint32, bitMask, bit, BitVec.toNat_ofInt, Int.bmod_emod, BitVec.toNat_twoPow, hcast,
    Nat.mod_eq_of_lt hlt, Int.emod_eq_of_lt (Int.ofNat_zero_le _) (Int.ofNat_lt.mpr hlt),
    Int.toNat_ofNat]

/-- `~x` on an `int`, converted, is the complement of `x` converted. -/
theorem toUint32_not (v : Int) : toUint32 (Int.not v) = ~~~ toUint32 v := by
  cases v with
  | ofNat n => simp [toUint32, Int.not]
  | negSucc n => simp [toUint32, Int.not, BitVec.not_not]

@[simp] theorem iioChannelsMaskSetBit_words (m : ChannelsMask) (b : Nat) :
    (iioChannelsMaskSetBit m b).words = m.words := rfl

@[simp] theorem iioChannelsMaskClearBit_words (m : ChannelsMask) (b : Nat) :
    (iioChannelsMaskClearBit m b).words = m.words := rfl

/-- Setting a bit ORs its single bit into its word and leaves the other words. -/
theorem word_setBit (m : ChannelsMask) {b : Nat} (hb : b < 32 * m.words) (i : Nat) :
    (iioChannelsMaskSetBit m b).word i =
      if i = b / 32 then m.word i ||| BitVec.twoPow 32 (b % 32) else m.word i := by
  have hw : b / 32 < m.mask.size := by rw [m.size_eq]; omega
  simp only [iioChannelsMaskSetBit, ChannelsMask.word, Array.getD_eq_get?, Array.getElem?_modify,
    toUint32_bitMask, bitWord]
  by_cases h : i = b / 32
  · subst h; simp [Array.getElem?_eq_getElem hw]
  · simp [h, Ne.symm h]

/-- Clearing a bit ANDs the complement of its single bit into its word. -/
theorem word_clearBit (m : ChannelsMask) {b : Nat} (hb : b < 32 * m.words) (i : Nat) :
    (iioChannelsMaskClearBit m b).word i =
      if i = b / 32 then m.word i &&& ~~~BitVec.twoPow 32 (b % 32) else m.word i := by
  have hw : b / 32 < m.mask.size := by rw [m.size_eq]; omega
  simp only [iioChannelsMaskClearBit, ChannelsMask.word, Array.getD_eq_get?,
    Array.getElem?_modify, toUint32_not, toUint32_bitMask, bitWord]
  by_cases h : i = b / 32
  · subst h; simp [Array.getElem?_eq_getElem hw]
  · simp [h, Ne.symm h]

private theorem twoPow_ne_zero {k : Nat} (hk : k < 32) : BitVec.twoPow 32 k ≠ 0#32 := by
  intro h
  have := congrArg (·.getLsbD k) h
  simp [BitVec.getLsbD_twoPow, hk] at this

/-- **Testing reads the bit of the index.** -/
theorem iioChannelsMaskTestBit_iff (m : ChannelsMask) (b : Nat) :
    iioChannelsMaskTestBit m b = (m.word (bitWord b)).getLsbD (b % 32) := by
  rw [iioChannelsMaskTestBit, toUint32_bitMask, BitVec.and_twoPow]
  by_cases h : (m.word (bitWord b)).getLsbD (b % 32)
  · rw [if_pos h, h]; exact decide_eq_true (twoPow_ne_zero (Nat.mod_lt b (by decide)))
  · simp only [Bool.not_eq_true] at h
    rw [if_neg (by simp [h]), h]
    decide

theorem mem_toFinset (m : ChannelsMask) (i : Nat) :
    i ∈ m.toFinset ↔ i < 32 * m.words ∧ (m.word (bitWord i)).getLsbD (i % 32) := by
  simp [ChannelsMask.toFinset]

/-- Two indices in the same word at the same bit are equal. -/
private theorem mod_ne_of_div_eq {i b : Nat} (hi : i ≠ b) (h : i / 32 = b / 32) :
    b % 32 ≠ i % 32 := by
  omega

/-- **Setting a bit adds its index and nothing else.** -/
theorem toFinset_setBit (m : ChannelsMask) {b : Nat} (hb : b < 32 * m.words) :
    (iioChannelsMaskSetBit m b).toFinset = insert b m.toFinset := by
  ext i
  rw [mem_toFinset, Finset.mem_insert, mem_toFinset, word_setBit m hb, bitWord,
    iioChannelsMaskSetBit_words]
  by_cases hi : i = b
  · subst hi; simp [BitVec.getLsbD_twoPow, hb, Nat.mod_lt]
  · by_cases hw : i / 32 = b / 32
    · simp [hw, hi, BitVec.getLsbD_twoPow, mod_ne_of_div_eq hi hw, ChannelsMask.toFinset]
    · simp [hw, hi]

/-- **Clearing a bit removes its index and nothing else.** -/
theorem toFinset_clearBit (m : ChannelsMask) {b : Nat} (hb : b < 32 * m.words) :
    (iioChannelsMaskClearBit m b).toFinset = m.toFinset.erase b := by
  ext i
  rw [mem_toFinset, Finset.mem_erase, mem_toFinset, word_clearBit m hb, bitWord,
    iioChannelsMaskClearBit_words]
  by_cases hi : i = b
  · subst hi; simp [BitVec.getLsbD_twoPow, Nat.mod_lt]
  · by_cases hw : i / 32 = b / 32
    · simp [hw, hi, BitVec.getLsbD_twoPow, mod_ne_of_div_eq hi hw, Nat.mod_lt i]
    · simp [hw, hi]

@[simp] theorem MaskOp.run_words (m : ChannelsMask) (op : MaskOp) : (op.run m).words = m.words := by
  cases op <;> rfl

/-- **Each call is the abstract call on the set.** -/
theorem toFinset_run (m : ChannelsMask) {op : MaskOp} (h : op.index < 32 * m.words) :
    (op.run m).toFinset = op.runSet m.toFinset := by
  cases op with
  | setBit b => exact toFinset_setBit m h
  | clearBit b => exact toFinset_clearBit m h

/-- Below `32 * words`, testing is membership. -/
theorem iioChannelsMaskTestBit_iff_mem (m : ChannelsMask) {j : Nat} (hj : j < 32 * m.words) :
    iioChannelsMaskTestBit m j = true ↔ j ∈ m.toFinset := by
  rw [iioChannelsMaskTestBit_iff, mem_toFinset]
  exact ⟨fun h => ⟨hj, h⟩, fun h => h.2⟩

/-- A sequence of calls on the packed mask, in call order. -/
def runMaskOps (m : ChannelsMask) (ops : List MaskOp) : ChannelsMask := ops.foldl MaskOp.run m

theorem runMaskOps_words (m : ChannelsMask) (ops : List MaskOp) :
    (runMaskOps m ops).words = m.words := by
  induction ops generalizing m with
  | nil => rfl
  | cons op ops ih => exact (ih (op.run m)).trans (MaskOp.run_words m op)

/-- **A run of calls is the run of the abstract calls on the set.** -/
theorem toFinset_runMaskOps (m : ChannelsMask) (ops : List MaskOp)
    (hops : ∀ op ∈ ops, op.index < 32 * m.words) :
    (runMaskOps m ops).toFinset = ops.foldl MaskOp.runSet m.toFinset := by
  induction ops generalizing m with
  | nil => rfl
  | cons op ops ih =>
    have hrest : ∀ o ∈ ops, o.index < 32 * (op.run m).words := by
      simpa using fun o ho => hops o (List.mem_cons_of_mem _ ho)
    simp only [runMaskOps, List.foldl_cons] at ih ⊢
    rw [ih _ hrest, toFinset_run m (hops op (List.mem_cons_self _ _))]

/-- **The channels mask refines a set of indices.**  After any sequence of
`iio_channels_mask_set_bit` / `iio_channels_mask_clear_bit` calls on indices below
`32 * words`, the mask still has `words` words and `iio_channels_mask_test_bit` answers
membership in the set obtained from the initial one by inserting each set index and
erasing each cleared one, in call order. -/
theorem channels_mask_refines_finset (m : ChannelsMask) (ops : List MaskOp)
    (hops : ∀ op ∈ ops, op.index < 32 * m.words) :
    (runMaskOps m ops).words = m.words ∧
      ∀ j < 32 * m.words, iioChannelsMaskTestBit (runMaskOps m ops) j = true ↔
        j ∈ ops.foldl MaskOp.runSet m.toFinset := by
  refine ⟨runMaskOps_words m ops, fun j hj => ?_⟩
  rw [iioChannelsMaskTestBit_iff_mem _ (by rwa [runMaskOps_words]), toFinset_runMaskOps m ops hops]

/-- A fresh mask selects nothing, and has room for every channel. -/
theorem iioCreateChannelsMask_spec (n : Nat) :
    (iioCreateChannelsMask n).toFinset = ∅ ∧ n ≤ 32 * (iioCreateChannelsMask n).words := by
  refine ⟨?_, by simp [iioCreateChannelsMask]; omega⟩
  ext i
  simp only [mem_toFinset, iioCreateChannelsMask, ChannelsMask.word, Array.getD_eq_get?,
    Array.getElem?_mkArray]
  split <;> simp

/-- Bit 31 of a word, where `BIT` reaches the sign bit, and a bit in the next word:
set, test, clear. -/
theorem channels_mask_refines_finset_bit31 :
    (∀ op ∈ [MaskOp.setBit 31, MaskOp.setBit 32, MaskOp.clearBit 31],
        op.index < 32 * (iioCreateChannelsMask 64).words) ∧
      (iioChannelsMaskTestBit (runMaskOps (iioCreateChannelsMask 64)
          [.setBit 31, .setBit 32, .clearBit 31]) 32 = true ↔
        32 ∈ [MaskOp.setBit 31, .setBit 32, .clearBit 31].foldl MaskOp.runSet
          (iioCreateChannelsMask 64).toFinset) :=
  ⟨by decide, (channels_mask_refines_finset _ _ (by decide)).2 32 (by decide)⟩

end IioXml
