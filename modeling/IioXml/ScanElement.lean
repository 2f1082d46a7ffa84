import IioXml.Sscanf
import IioXml.Document
import IioXml.Structs

/-!
# `setup_scan_element`

The loop of `setup_scan_element` (`xml.c`) over the attributes of a `<scan-element>`:

* `index` — `strtoll(content, &end, 0)`; rejected when nothing was read, the value is
  negative or `errno == ERANGE`; otherwise stored as a `long`;
* `format` — one of two `sscanf` calls, chosen by `strchr(content, 'X')`, storing into
  the locals `e`, `s` and into `chn->format`; rejected unless it assigned all of its
  items; then the three flags are derived;
* `scale` — `strtof(content, &end)`; rejected when nothing was read or on `ERANGE`, and
  then `with_scale` is cleared; otherwise `with_scale` is set and the value stored;
* anything else is ignored.

The first rejected attribute ends the loop with `-EINVAL`.

Whether an attribute is accepted depends on its text only (`ScanAttrAccepted`), and an
accepted attribute makes a fixed update (`scanAttrUpdate`), so the whole loop is
described by `setupScanElement_cases`: either every attribute is accepted and the
channel is the fold of the updates, or the loop stops at the first rejected one.  The
frame lemmas `scanAttrUpdate_*` say which fields each attribute may change.
-/

namespace IioXml

/-- The pointer arguments of `setup_scan_element`'s two `sscanf` calls. -/
inductive FormatArg
  | e
  | s
  | bits
  | length
  | «repeat»
  | shift

/-- What those pointers designate: the locals `char e, s` and `chn->format`. -/
structure FormatLocals where
  e : Char
  s : Char
  format : DataFormat

/-- `*arg = item`. -/
def FormatLocals.store (l : FormatLocals) : FormatArg → ScanItem → FormatLocals
  | .e, .char c => { l with e := c }
  | .s, .char c => { l with s := c }
  | .bits, .unsigned v => { l with format := { l.format with bits := v } }
  | .length, .unsigned v => { l with format := { l.format with length := v } }
  | .repeat, .unsigned v => { l with format := { l.format with «repeat» := v } }
  | .shift, .unsigned v => { l with format := { l.format with shift := v } }
  | _, _ => l

/-- The assignments a `sscanf` call makes: its `k`-th item through its `k`-th pointer. -/
def FormatLocals.storeAll (l : FormatLocals) (args : List FormatArg)
    (items : List ScanItem) : FormatLocals :=
  (args.zip items).foldl (fun l p => l.store p.1 p.2) l

/-- The `sscanf` call of the `format` branch on a channel format `f`: its return value,
the count it must reach, and the objects after its stores.  The locals `e` and `s` start
without a value; `sscanf` assigns both before they are read. -/
def scanFormat (abi : Abi) (f : DataFormat) (content : CStr) : Int × Int × FormatLocals :=
  if strchr content 'X' then
    ((sscanf abi content.chars "%ce:%c%u/%uX%u>>%u").1, 6,
      (FormatLocals.mk '\x00' '\x00' f).storeAll [.e, .s, .bits, .length, .repeat, .shift]
        (sscanf abi content.chars "%ce:%c%u/%uX%u>>%u").2)
  else
    ((sscanf abi content.chars "%ce:%c%u/%u>>%u").1, 5,
      (FormatLocals.mk '\x00' '\x00' { f with «repeat» := 1 }).storeAll
        [.e, .s, .bits, .length, .shift] (sscanf abi content.chars "%ce:%c%u/%u>>%u").2)

/-- The three flags `setup_scan_element` derives after a successful call. -/
def FormatLocals.withFlags (l : FormatLocals) : DataFormat :=
  { l.format with
    isBe := l.e = 'b'
    isSigned := l.s = 's' || l.s = 'S'
    isFullyDefined := l.s = 'S' || l.s = 'U' || l.format.bits = l.format.length }

/-- The `format` branch. -/
def setupFormat (abi : Abi) (chn : Channel) (content : CStr) : Except (Int × Channel) Channel :=
  if (scanFormat abi chn.format content).1 ≠ (scanFormat abi chn.format content).2.1 then
    .error (-EINVAL, { chn with format := (scanFormat abi chn.format content).2.2.format })
  else .ok { chn with format := (scanFormat abi chn.format content).2.2.withFlags }

/-- The `index` branch. -/
def setupIndex (abi : Abi) (chn : Channel) (content : CStr) : Except (Int × Channel) Channel :=
  if (strtoll content.chars 0).consumed = 0 ∨ (strtoll content.chars 0).value < 0 ∨
      (strtoll content.chars 0).erange then .error (-EINVAL, chn)
  else .ok { chn with index := abi.toLong (strtoll content.chars 0).value }

/-- The `scale` branch. -/
def setupScale (strtof : List Char → StrtofResult) (chn : Channel) (content : CStr) :
    Except (Int × Channel) Channel :=
  if (strtof content.chars).consumed = 0 ∨ (strtof content.chars).erange then
    .error (-EINVAL, { chn with format := { chn.format with withScale := false } })
  else .ok { chn with
    format := { chn.format with withScale := true, scale := (strtof content.chars).value } }

/-- One pass of the loop of `setup_scan_element`: continue with a channel, or return an
error code, with the channel as the early return leaves it. -/
def setupScanElementAttr (p : Platform) (chn : Channel) (attr : XmlAttr) :
    Except (Int × Channel) Channel :=
  if attr.name = "index" then setupIndex p.abi chn attr.content
  else if attr.name = "format" then setupFormat p.abi chn attr.content
  else if attr.name = "scale" then setupScale p.strtof chn attr.content
  else .ok chn

/-- `setup_scan_element`: its return value and the channel it leaves. -/
def setupScanElement (p : Platform) (chn : Channel) (n : XmlNode) : Int × Channel :=
  match n.properties.foldlM (setupScanElementAttr p) chn with
  | .ok chn => (0, chn)
  | .error (err, chn) => (err, chn)

/-- `strtoll` reads an index: something, not negative, without overflow. -/
def IndexAccepted (content : CStr) : Prop :=
  (strtoll content.chars 0).consumed ≠ 0 ∧ 0 ≤ (strtoll content.chars 0).value ∧
    (strtoll content.chars 0).erange = false

/-- The `sscanf` call of the `format` branch assigns all of its items. -/
def FormatAccepted (abi : Abi) (content : CStr) : Prop :=
  (scanFormat abi DataFormat.zero content).1 = (scanFormat abi DataFormat.zero content).2.1

/-- `strtof` reads a scale: something, without `ERANGE`. -/
def ScaleAccepted (strtof : List Char → StrtofResult) (content : CStr) : Prop :=
  (strtof content.chars).consumed ≠ 0 ∧ (strtof content.chars).erange = false

/-- An attribute of a `<scan-element>` that `setup_scan_element` accepts. -/
def ScanAttrAccepted (p : Platform) (a : XmlAttr) : Prop :=
  (a.name = "index" → IndexAccepted a.content) ∧
    (a.name = "format" → FormatAccepted p.abi a.content) ∧
    (a.name = "scale" → ScaleAccepted p.strtof a.content)

instance (content : CStr) : Decidable (IndexAccepted content) :=
  inferInstanceAs (Decidable (_ ∧ _))

instance (abi : Abi) (content : CStr) : Decidable (FormatAccepted abi content) :=
  inferInstanceAs (Decidable (_ = _))

instance (strtof : List Char → StrtofResult) (content : CStr) :
    Decidable (ScaleAccepted strtof content) :=
  inferInstanceAs (Decidable (_ ∧ _))

instance (p : Platform) (a : XmlAttr) : Decidable (ScanAttrAccepted p a) :=
  inferInstanceAs (Decidable (_ ∧ _))

/-- What an accepted attribute does to the channel. -/
def scanAttrUpdate (p : Platform) (chn : Channel) (a : XmlAttr) : Channel :=
  if a.name = "index" then { chn with index := p.abi.toLong (strtoll a.content.chars 0).value }
  else if a.name = "format" then
    { chn with format := (scanFormat p.abi chn.format a.content).2.2.withFlags }
  else if a.name = "scale" then
    { chn with
      format := { chn.format with withScale := true, scale := (p.strtof a.content.chars).value } }
  else chn

/-- The channel a rejected attribute leaves behind. -/
def scanAttrFailure (p : Platform) (chn : Channel) (a : XmlAttr) : Channel :=
  if a.name = "format" then
    { chn with format := (scanFormat p.abi chn.format a.content).2.2.format }
  else if a.name = "scale" then { chn with format := { chn.format with withScale := false } }
  else chn

/-- An accepted attribute changes only the index and the format. -/
theorem scanAttrUpdate_frame (p : Platform) (chn : Channel) (a : XmlAttr) :
    scanAttrUpdate p chn a = { chn with
      index := (scanAttrUpdate p chn a).index
      format := (scanAttrUpdate p chn a).format } := by
  unfold scanAttrUpdate
  split_ifs <;> rfl

@[simp] theorem scanAttrUpdate_isOutput (p : Platform) (chn : Channel) (a : XmlAttr) :
    (scanAttrUpdate p chn a).isOutput = chn.isOutput := by
  rw [scanAttrUpdate_frame]

@[simp] theorem scanAttrUpdate_isScanElement (p : Platform) (chn : Channel) (a : XmlAttr) :
    (scanAttrUpdate p chn a).isScanElement = chn.isScanElement := by
  rw [scanAttrUpdate_frame]

@[simp] theorem scanAttrUpdate_name (p : Platform) (chn : Channel) (a : XmlAttr) :
    (scanAttrUpdate p chn a).name = chn.name := by
  rw [scanAttrUpdate_frame]

@[simp] theorem scanAttrUpdate_id (p : Platform) (chn : Channel) (a : XmlAttr) :
    (scanAttrUpdate p chn a).id = chn.id := by
  rw [scanAttrUpdate_frame]

@[simp] theorem scanAttrUpdate_attrs (p : Platform) (chn : Channel) (a : XmlAttr) :
    (scanAttrUpdate p chn a).attrs = chn.attrs := by
  rw [scanAttrUpdate_frame]

/-- Only an `index` attribute sets the index. -/
theorem scanAttrUpdate_index (p : Platform) (chn : Channel) (a : XmlAttr) :
    (scanAttrUpdate p chn a).index =
      if a.name = "index" then p.abi.toLong (strtoll a.content.chars 0).value else chn.index := by
  unfold scanAttrUpdate
  split_ifs <;> rfl

/-- The return value of the `format` call and its target count do not depend on the
channel: only the stores do. -/
theorem scanFormat_counts (abi : Abi) (f g : DataFormat) (content : CStr) :
    (scanFormat abi f content).1 = (scanFormat abi g content).1 ∧
      (scanFormat abi f content).2.1 = (scanFormat abi g content).2.1 := by
  unfold scanFormat
  split <;> exact ⟨rfl, rfl⟩

/-- The `index` branch accepts exactly an `IndexAccepted` text. -/
theorem setupIndex_eq (abi : Abi) (chn : Channel) (content : CStr) :
    setupIndex abi chn content = if IndexAccepted content
      then .ok { chn with index := abi.toLong (strtoll content.chars 0).value }
      else .error (-EINVAL, chn) := by
  rw [setupIndex, ← ite_not]
  refine if_congr ?_ rfl rfl
  simp only [IndexAccepted, not_or, not_lt, Bool.not_eq_true, ne_eq]

/-- The `format` branch accepts exactly a `FormatAccepted` text, whatever the format. -/
theorem setupFormat_eq (abi : Abi) (chn : Channel) (content : CStr) :
    setupFormat abi chn content = if FormatAccepted abi content
      then .ok { chn with format := (scanFormat abi chn.format content).2.2.withFlags }
      else .error (-EINVAL,
        { chn with format := (scanFormat abi chn.format content).2.2.format }) := by
  obtain ⟨h1, h2⟩ := scanFormat_counts abi chn.format DataFormat.zero content
  rw [setupFormat, ← ite_not]
  refine if_congr ?_ rfl rfl
  rw [not_not, h1, h2]
  rfl

/-- The `scale` branch accepts exactly a `ScaleAccepted` text. -/
theorem setupScale_eq (strtof : List Char → StrtofResult) (chn : Channel) (content : CStr) :
    setupScale strtof chn content = if ScaleAccepted strtof content
      then .ok { chn with
        format := { chn.format with withScale := true, scale := (strtof content.chars).value } }
      else .error (-EINVAL, { chn with format := { chn.format with withScale := false } }) := by
  rw [setupScale, ← ite_not]
  refine if_congr ?_ rfl rfl
  simp only [ScaleAccepted, not_or, Bool.not_eq_true, ne_eq]

/-- **One pass of the loop** accepts an attribute on its text alone, and then makes the
update `scanAttrUpdate`; otherwise it returns `-EINVAL`. -/
theorem setupScanElementAttr_eq (p : Platform) (chn : Channel) (a : XmlAttr) :
    setupScanElementAttr p chn a =
      if ScanAttrAccepted p a then .ok (scanAttrUpdate p chn a)
      else .error (-EINVAL, scanAttrFailure p chn a) := by
  unfold setupScanElementAttr ScanAttrAccepted scanAttrUpdate scanAttrFailure
  by_cases hi : a.name = "index"
  · simp only [hi, if_true, if_false, setupIndex_eq, String.reduceEq, true_implies,
      false_implies, and_true]
  by_cases hf : a.name = "format"
  · simp only [hf, if_true, if_false, setupFormat_eq, String.reduceEq, true_implies,
      false_implies, and_true, true_and]
  by_cases hs : a.name = "scale"
  · simp only [hs, if_true, if_false, setupScale_eq, String.reduceEq, true_implies,
      false_implies, and_true, true_and]
  · simp only [hi, hf, hs, if_false, false_implies, and_true, if_true]

/-- **The loop of `setup_scan_element`** either accepts every attribute and leaves the
fold of their updates, or stops at the first rejected attribute with `-EINVAL` and the
channel that attribute leaves. -/
theorem setupScanElement_cases (p : Platform) (chn : Channel) (n : XmlNode) :
    ((∀ a ∈ n.properties, ScanAttrAccepted p a) ∧
        setupScanElement p chn n = (0, n.properties.foldl (scanAttrUpdate p) chn)) ∨
      ∃ l₁ a l₂, n.properties = l₁ ++ a :: l₂ ∧ (∀ b ∈ l₁, ScanAttrAccepted p b) ∧
        ¬ ScanAttrAccepted p a ∧
        setupScanElement p chn n =
          (-EINVAL, scanAttrFailure p (l₁.foldl (scanAttrUpdate p) chn) a) := by
  rcases foldlM_cases (setupScanElementAttr p) (ScanAttrAccepted p) (scanAttrUpdate p)
      (fun s a => (-EINVAL, scanAttrFailure p s a)) (setupScanElementAttr_eq p) n.properties
      chn with
    ⟨hall, hrun⟩ | ⟨l₁, a, l₂, hl, hl₁, ha, hrun⟩
  · exact .inl ⟨hall, by rw [setupScanElement, hrun]⟩
  · exact .inr ⟨l₁, a, l₂, hl, hl₁, ha, by rw [setupScanElement, hrun]⟩

/-- A `<scan-element>` with a single attribute: one pass of the loop. -/
theorem setupScanElement_single (p : Platform) (chn : Channel) (nm : String) (a : XmlAttr)
    (cs : List XmlNode) :
    setupScanElement p chn ⟨nm, [a], cs⟩ =
      if ScanAttrAccepted p a then (0, scanAttrUpdate p chn a)
      else (-EINVAL, scanAttrFailure p chn a) := by
  simp only [setupScanElement, List.foldlM_cons, List.foldlM_nil, bind_pure,
    setupScanElementAttr_eq]
  split_ifs <;> rfl

/-- A `<scan-element>` with a single attribute returns 0 exactly when that attribute's
pass of the loop succeeds. -/
theorem setupScanElement_single_ok_iff (p : Platform) (chn chn' : Channel) (nm : String)
    (a : XmlAttr) (cs : List XmlNode) :
    setupScanElement p chn ⟨nm, [a], cs⟩ = (0, chn') ↔
      setupScanElementAttr p chn a = .ok chn' := by
  rw [setupScanElement_single, setupScanElementAttr_eq]
  split_ifs <;> simp [EINVAL]

@[simp] theorem setupScanElementAttr_index (p : Platform) (chn : Channel) (t : CStr) :
    setupScanElementAttr p chn ⟨"index", t⟩ = setupIndex p.abi chn t := rfl

@[simp] theorem setupScanElementAttr_format (p : Platform) (chn : Channel) (t : CStr) :
    setupScanElementAttr p chn ⟨"format", t⟩ = setupFormat p.abi chn t := by
  simp [setupScanElementAttr]

@[simp] theorem setupScanElementAttr_scale (p : Platform) (chn : Channel) (t : CStr) :
    setupScanElementAttr p chn ⟨"scale", t⟩ = setupScale p.strtof chn t := by
  simp [setupScanElementAttr]

end IioXml
