import IioXml.Denotation

/-!
# What a built context guarantees

Consequences of the refinement theorem of `IioXml.Denotation` for the contexts the
builder returns, and of the single-attribute lemmas of `IioXml.ScanElement` for the
`index` and `scale` attributes.

* `built_channel_fully_defined` — a channel whose format was decoded is fully defined
  when `bits = length`; nothing bounds its repeat count or orders `bits` and `length`;
* `built_names_nonempty` — device ids and channel attribute names are the texts of the
  document, so they are non-empty when those texts are;
* `setupScanElement_index_lp64` — what an `index` attribute does, and on LP64 the index of
  a built channel is negative exactly when none of its scan-elements has one;
* `built_context_version` — the version fields, and that no root attribute makes the
  build fail;
* `setupScanElement_scale` — what a `scale` attribute does;
* `built_context_version_numeral` — a version given as a decimal numeral is stored exactly
  on LP64;
* `unknown_child_ignored` — a child of a name the builder does not know changes nothing;
* `unknown_attribute_ignored` — nor does an attribute of a name it does not read.
-/

namespace IioXml

/-- A platform whose `strtof` reads nothing, for documents without a `scale`. -/
def samplePlatform : Platform := ⟨.lp64, fun _ => ⟨0, 0, false⟩⟩

/-- `<context R><device D><channel id="c"><attribute A/><scan-element S/></channel>
</device></context>`. -/
def oneChannelDoc (root dev attr scan : List XmlAttr) : XmlDoc :=
  ⟨⟨"context", root, [⟨"device", dev, [⟨"channel", [⟨"id", .lit "c"⟩],
    [⟨"attribute", attr, []⟩, ⟨"scan-element", scan, []⟩]⟩]⟩]⟩⟩

/-- The channel `create_channel` starts from for `<channel id="c">`. -/
def sampleChannel : Channel := ⟨false, false, DataFormat.zero, none, .lit "c", -ENOENT, []⟩

/-- A well-formed sample: a device `d` whose channel `c` has an attribute `a` and the
format `le:s16/16>>0`. -/
def sampleDoc : XmlDoc :=
  oneChannelDoc [] [⟨"id", .lit "d"⟩] [⟨"name", .lit "a"⟩] [⟨"format", .lit "le:s16/16>>0"⟩]

theorem iioCreateXmlContextHelper_sampleDoc :
    iioCreateXmlContextHelper samplePlatform sampleDoc =
      .ok (denoteContext samplePlatform sampleDoc.root) := by
  rw [iioCreateXmlContextHelper_eq, if_pos (by decide)]

/-! ### Formats -/

/-- A decoded format is fully defined when `bits = length`. -/
theorem decodeFormat_fullyDefined (abi : Abi) (t : CStr) :
    (decodeFormat abi t).bits = (decodeFormat abi t).length →
      (decodeFormat abi t).isFullyDefined := by
  simp only [decodeFormat, FormatLocals.withFlags]
  intro h
  simp [h]

/-- **Every built channel whose scan-elements carry a `format`** is fully defined when
`bits = length`. -/
theorem built_channel_fully_defined (p : Platform) (doc : XmlDoc) (ctx : Context)
    (h : iioCreateXmlContextHelper p doc = .ok ctx) :
    ∀ dev ∈ ctx.devices, ∀ chn ∈ dev.channels, ∃ d ∈ doc.root.childrenNamed "device",
      ∃ c ∈ d.childrenNamed "channel", chn = denoteChannel p c ∧
        ((∃ a ∈ scanProps c, a.name = "format") →
          chn.format.bits = chn.format.length → chn.format.isFullyDefined) := by
  intro dev hdev chn hchn
  obtain ⟨d, hd, c, hc, -, rfl⟩ := built_channel_source h dev hdev chn hchn
  refine ⟨d, hd, c, hc, rfl, fun hf => ?_⟩
  obtain ⟨a, ha⟩ := Option.isSome_iff_exists.mp ((lastAttr_isSome_iff _ _).mpr hf)
  simp only [denoteChannel, denoteFormat, ha, Option.map_some', Option.getD_some]
  exact decodeFormat_fullyDefined p.abi a.content

theorem built_channel_fully_defined_sample :
    ∃ ctx, iioCreateXmlContextHelper samplePlatform sampleDoc = .ok ctx ∧
      ∃ dev ∈ ctx.devices, ∃ chn ∈ dev.channels, ∃ d ∈ sampleDoc.root.childrenNamed "device",
        ∃ c ∈ d.childrenNamed "channel", chn = denoteChannel samplePlatform c ∧
          ((∃ a ∈ scanProps c, a.name = "format") →
            chn.format.bits = chn.format.length → chn.format.isFullyDefined) :=
  ⟨_, iioCreateXmlContextHelper_sampleDoc, _, List.mem_singleton_self _, _,
    List.mem_singleton_self _,
    built_channel_fully_defined _ _ _ iioCreateXmlContextHelper_sampleDoc _
      (List.mem_singleton_self _) _ (List.mem_singleton_self _)⟩

/-- A `<scan-element>` without a `format` leaves the format zeroed: its repeat count is
0. -/
theorem built_channel_repeat_zero :
    (iioCreateXmlContextHelper samplePlatform
        (oneChannelDoc [] [⟨"id", .lit "d"⟩] [⟨"name", .lit "a"⟩]
          [⟨"index", .lit "0"⟩])).toOption.map
      (fun ctx => ctx.devices.flatMap fun d =>
        d.channels.map fun c => (c.isScanElement, c.format.repeat)) =
      some [(true, 0)] := by
  decide

/-! ### Names -/

/-- **An `index` attribute** is accepted when `strtoll` reads a value that is not
negative and does not overflow, whatever follows it; the value is stored as a `long`. -/
theorem setupScanElement_index (p : Platform) (chn : Channel) (nm : String) (t : CStr)
    (cs : List XmlNode) :
    setupScanElement p chn ⟨nm, [⟨"index", t⟩], cs⟩ =
      if IndexAccepted t then (0, { chn with index := p.abi.toLong (strtoll t.chars 0).value })
      else (-EINVAL, chn) := by
  rw [setupScanElement_single]
  simp [ScanAttrAccepted, scanAttrUpdate, scanAttrFailure]

/-- **On LP64 a built channel's index is negative exactly when none of its scan-elements
has an `index` attribute**: an accepted index is a `long long` that is not negative, and
it is stored unchanged. -/
theorem built_channel_index_lp64 (strtof : List Char → StrtofResult) (doc : XmlDoc) (ctx : Context)
    (h : iioCreateXmlContextHelper ⟨.lp64, strtof⟩ doc = .ok ctx) :
    ∀ dev ∈ ctx.devices, ∀ chn ∈ dev.channels, ∃ d ∈ doc.root.childrenNamed "device",
      ∃ c ∈ d.childrenNamed "channel", chn = denoteChannel ⟨.lp64, strtof⟩ c ∧
        (chn.index < 0 ↔ ¬ ∃ a ∈ scanProps c, a.name = "index") := by
  intro dev hdev chn hchn
  obtain ⟨d, hd, c, hc, hcacc, rfl⟩ := built_channel_source h dev hdev chn hchn
  refine ⟨d, hd, c, hc, rfl, ?_⟩
  simp only [denoteChannel, denoteIndex, ← lastAttr_isSome_iff]
  rcases hi : lastAttr (scanProps c) "index" with _ | a
  · simp [ENOENT]
  · obtain ⟨ha, hna⟩ := lastAttr_eq_some hi
    have hacc : IndexAccepted a.content := (scanProps_accepted hcacc a ha).1 hna
    rw [Option.map_some', Option.getD_some, toLong_lp64_strtoll]
    simpa using hacc.2.1

/-- **An `index` attribute, and the sign of a built channel's index.**  The attribute is
accepted exactly when `strtoll` reads something, not negative and without `ERANGE`,
whatever follows; the value is then stored as it is on LP64, and on LLP64 when it is below
`2^31`.  On LP64 a built channel's index is negative exactly when none of its
scan-elements has an `index` attribute. -/
theorem setupScanElement_index_lp64 :
    (∀ (p : Platform) (chn : Channel) (nm : String) (t : CStr) (cs : List XmlNode),
      if (strtoll t.chars 0).consumed ≠ 0 ∧ 0 ≤ (strtoll t.chars 0).value ∧
          (strtoll t.chars 0).erange = false then
        (setupScanElement p chn ⟨nm, [⟨"index", t⟩], cs⟩).1 = 0 ∧
          (p.abi = .lp64 ∨ (strtoll t.chars 0).value < 2 ^ 31 →
            (setupScanElement p chn ⟨nm, [⟨"index", t⟩], cs⟩).2 =
              { chn with index := (strtoll t.chars 0).value })
      else setupScanElement p chn ⟨nm, [⟨"index", t⟩], cs⟩ = (-EINVAL, chn)) ∧
    ∀ (strtof : List Char → StrtofResult) (doc : XmlDoc) (ctx : Context),
      iioCreateXmlContextHelper ⟨.lp64, strtof⟩ doc = .ok ctx →
      ∀ dev ∈ ctx.devices, ∀ chn ∈ dev.channels, ∃ d ∈ doc.root.childrenNamed "device",
        ∃ c ∈ d.childrenNamed "channel", chn = denoteChannel ⟨.lp64, strtof⟩ c ∧
          (chn.index < 0 ↔ ¬ ∃ a ∈ scanProps c, a.name = "index") := by
  refine ⟨fun p chn nm t cs => ?_, built_channel_index_lp64⟩
  rw [setupScanElement_index]
  unfold IndexAccepted
  split_ifs with h
  · refine ⟨rfl, fun habi => ?_⟩
    have hv : p.abi.toLong (strtoll t.chars 0).value = (strtoll t.chars 0).value := by
      rcases habi with habi | hlt
      · rw [habi, toLong_lp64_strtoll]
      · exact p.abi.toLong_of_lt h.2.1 hlt
    rw [hv]
  · rfl

/-- `<context><device id="d"><channel id="c"><attribute name="a"/>
<scan-element index="3"/></channel></device></context>`. -/
def indexDoc : XmlDoc :=
  oneChannelDoc [] [⟨"id", .lit "d"⟩] [⟨"name", .lit "a"⟩] [⟨"index", .lit "3"⟩]

/-- The index `3` is stored as 3 on LLP64, and on LP64 the channel of `indexDoc`, whose
scan-element carries it, has an index that is not negative. -/
theorem setupScanElement_index_lp64_sample :
    (setupScanElement ⟨.llp64, samplePlatform.strtof⟩ sampleChannel
        ⟨"scan-element", [⟨"index", .lit "3"⟩], []⟩).2 = { sampleChannel with index := 3 } ∧
    ∃ ctx, iioCreateXmlContextHelper ⟨.lp64, samplePlatform.strtof⟩ indexDoc = .ok ctx ∧
      ∃ dev ∈ ctx.devices, ∃ chn ∈ dev.channels, ∃ d ∈ indexDoc.root.childrenNamed "device",
        ∃ c ∈ d.childrenNamed "channel", chn = denoteChannel ⟨.lp64, samplePlatform.strtof⟩ c ∧
          (chn.index < 0 ↔ ¬ ∃ a ∈ scanProps c, a.name = "index") := by
  have h3 := setupScanElement_index_lp64.1 ⟨.llp64, samplePlatform.strtof⟩ sampleChannel
    "scan-element" (.lit "3") []
  rw [if_pos (by decide)] at h3
  have hdoc : iioCreateXmlContextHelper ⟨.lp64, samplePlatform.strtof⟩ indexDoc =
      .ok (denoteContext ⟨.lp64, samplePlatform.strtof⟩ indexDoc.root) := by
    rw [iioCreateXmlContextHelper_eq, if_pos (by decide)]
  exact ⟨h3.2 (.inr (by decide)), _, hdoc, _, List.mem_singleton_self _, _,
    List.mem_singleton_self _, setupScanElement_index_lp64.2 _ _ _ hdoc _
      (List.mem_singleton_self _) _ (List.mem_singleton_self _)⟩

/-- `5x` is accepted as the index 5 though `strtoll` stops before the `x`; on LLP64,
`2147483648` is accepted and stored as a negative `long`. -/
theorem setupScanElement_index_partial :
    (setupScanElement samplePlatform sampleChannel
        ⟨"scan-element", [⟨"index", .lit "5x"⟩], []⟩).1 = 0 ∧
      (setupScanElement samplePlatform sampleChannel
        ⟨"scan-element", [⟨"index", .lit "5x"⟩], []⟩).2.index = 5 ∧
      (strtoll (CStr.lit "5x").chars 0).consumed = 1 ∧
      (setupScanElement ⟨.llp64, samplePlatform.strtof⟩ sampleChannel
        ⟨"scan-element", [⟨"index", .lit "2147483648"⟩], []⟩).1 = 0 ∧
      (setupScanElement ⟨.llp64, samplePlatform.strtof⟩ sampleChannel
        ⟨"scan-element", [⟨"index", .lit "2147483648"⟩], []⟩).2.index < 0 := by
  decide

/-! ### Versions -/

/-- **The version of a built context** is the last `version-major` and `version-minor`
text read by `strtol` in base 10 and narrowed to `unsigned int`, kept only with a git tag;
and whatever the root's attributes, the document is built. -/
theorem built_context_version (p : Platform) (doc : XmlDoc) (ctx : Context)
    (h : iioCreateXmlContextHelper p doc = .ok ctx) :
    ctx.major = (if HasAttr doc.root "version-git"
      then versionOf p.abi doc.root "version-major" else 0) ∧
      ctx.minor = (if HasAttr doc.root "version-git"
        then versionOf p.abi doc.root "version-minor" else 0) ∧
      ∀ props, ∃ ctx',
        iioCreateXmlContextHelper p ⟨{ doc.root with properties := props }⟩ = .ok ctx' := by
  rw [iioCreateXmlContextHelper_eq] at h
  split_ifs at h with hacc
  cases h
  exact ⟨rfl, rfl, fun props => ⟨_, (iioCreateXmlContextHelper_eq p _).trans (if_pos hacc)⟩⟩

/-- A root with `version-git="v1" version-major="7" version-minor="3"`. -/
def versionDoc : XmlDoc :=
  oneChannelDoc [⟨"version-git", .lit "v1"⟩, ⟨"version-major", .lit "7"⟩,
    ⟨"version-minor", .lit "3"⟩] [⟨"id", .lit "d"⟩] [⟨"name", .lit "a"⟩] []

theorem built_context_version_sample :
    ∃ ctx, iioCreateXmlContextHelper samplePlatform versionDoc = .ok ctx ∧
      ctx.major = (if HasAttr versionDoc.root "version-git" then
        versionOf samplePlatform.abi versionDoc.root "version-major" else 0) ∧
      ctx.minor = (if HasAttr versionDoc.root "version-git" then
        versionOf samplePlatform.abi versionDoc.root "version-minor" else 0) ∧
      ∀ props, ∃ ctx', iioCreateXmlContextHelper samplePlatform
        ⟨{ versionDoc.root with properties := props }⟩ = .ok ctx' := by
  have hdoc : iioCreateXmlContextHelper samplePlatform versionDoc =
      .ok (denoteContext samplePlatform versionDoc.root) := by
    rw [iioCreateXmlContextHelper_eq, if_pos (by decide)]
  exact ⟨_, hdoc, built_context_version _ _ _ hdoc⟩

/-- `version-major="12abc"` gives the major version 12: `strtol` stops before the `a`. -/
theorem built_context_version_partial :
    (iioCreateXmlContextHelper samplePlatform
        (oneChannelDoc [⟨"version-git", .lit "v1"⟩, ⟨"version-major", .lit "12abc"⟩]
          [⟨"id", .lit "d"⟩] [⟨"name", .lit "a"⟩] [])).toOption.map (·.major) = some 12 ∧
      (strtol .lp64 (CStr.lit "12abc").chars 10).consumed = 2 := by
  decide

/-! ### Scales -/

/-- **A `scale` attribute** is accepted when `strtof` reads something without `ERANGE`,
whatever follows it; it then sets the scale, and otherwise clears `with_scale`, whatever it
was. -/
theorem setupScanElement_scale (p : Platform) (chn : Channel) (nm : String) (t : CStr)
    (cs : List XmlNode) :
    setupScanElement p chn ⟨nm, [⟨"scale", t⟩], cs⟩ =
      if (p.strtof t.chars).consumed ≠ 0 ∧ (p.strtof t.chars).erange = false then
        (0, { chn with
          format := { chn.format with withScale := true, scale := (p.strtof t.chars).value } })
      else (-EINVAL, { chn with format := { chn.format with withScale := false } }) := by
  rw [setupScanElement_single]
  simp [ScanAttrAccepted, ScaleAccepted, scanAttrUpdate, scanAttrFailure]

/-- With a `strtof` that reads `1.5` from `1.5x`, the text is accepted though the `x`
is left over. -/
theorem setupScanElement_scale_partial :
    (setupScanElement ⟨.lp64, fun _ => ⟨1.5, 3, false⟩⟩ sampleChannel
        ⟨"scan-element", [⟨"scale", .lit "1.5x"⟩], []⟩).1 = 0 ∧
      3 < (CStr.lit "1.5x").chars.length := by
  decide

/-- **A version given as a decimal numeral** below `2^32` is stored exactly on LP64. -/
theorem built_context_version_numeral (strtof : List Char → StrtofResult) (doc : XmlDoc)
    (ctx : Context) (h : iioCreateXmlContextHelper ⟨.lp64, strtof⟩ doc = .ok ctx)
    (hgit : HasAttr doc.root "version-git") (a : XmlAttr)
    (ha : lastAttr doc.root.properties "version-major" = some a) (hne : a.content.chars ≠ [])
    (hdig : ∀ c ∈ a.content.chars, isDigitIn 10 c) (hlt : valueIn 10 a.content.chars < 2 ^ 32) :
    ctx.major.toNat = valueIn 10 a.content.chars := by
  rw [iioCreateXmlContextHelper_eq] at h
  split_ifs at h
  cases h
  have hs : (strtol .lp64 a.content.chars 10).value = valueIn 10 a.content.chars := by
    have hnum :=
      @strtoIntegral_numeral Abi.lp64.longMin Abi.lp64.longMax a.content.chars [] hne hdig (by simp)
    rw [List.append_nil] at hnum
    rw [strtol, hnum, clampResult_of_mem (by simp [Abi.longMin, Abi.longBits]; omega)
      (by simp [Abi.longMax, Abi.longBits]; omega)]
  simp only [denoteContext, hgit, if_true, versionOf, ha, Option.map_some', Option.getD_some, hs,
    toUnsignedInt, BitVec.ofInt_natCast, BitVec.toNat_ofNat]
  exact Nat.mod_eq_of_lt hlt

/-- The sample with `version-git="v1" version-major="42"`. -/
theorem built_context_version_numeral_42 :
    ∃ ctx, iioCreateXmlContextHelper samplePlatform
        (oneChannelDoc [⟨"version-git", .lit "v1"⟩, ⟨"version-major", .lit "42"⟩]
          [⟨"id", .lit "d"⟩] [⟨"name", .lit "a"⟩] []) = .ok ctx ∧
      ctx.major.toNat = valueIn 10 (CStr.lit "42").chars := by
  have h := iioCreateXmlContextHelper_eq samplePlatform
    (oneChannelDoc [⟨"version-git", .lit "v1"⟩, ⟨"version-major", .lit "42"⟩]
      [⟨"id", .lit "d"⟩] [⟨"name", .lit "a"⟩] [])
  rw [if_pos (by decide)] at h
  exact ⟨_, h, built_context_version_numeral _ _ _ h (by decide) ⟨"version-major", .lit "42"⟩ rfl
    (by decide) (by decide) (by decide)⟩

/-! ### Unknown children -/

/-- **A child the builder does not know changes nothing**, wherever it stands among the
children of the root, of a `<device>` or of a `<channel>`. -/
theorem unknown_child_ignored (p : Platform) (nm : String) (props : List XmlAttr)
    (l₁ l₂ : List XmlNode) (c : XmlNode) :
    (c.name ≠ "context-attribute" → c.name ≠ "device" →
      iioCreateXmlContextHelper p ⟨⟨nm, props, l₁ ++ c :: l₂⟩⟩ =
        iioCreateXmlContextHelper p ⟨⟨nm, props, l₁ ++ l₂⟩⟩) ∧
    (c.name ≠ "channel" → c.name ≠ "attribute" → c.name ≠ "debug-attribute" →
      c.name ≠ "buffer-attribute" →
      createDevice p ⟨nm, props, l₁ ++ c :: l₂⟩ = createDevice p ⟨nm, props, l₁ ++ l₂⟩) ∧
    (c.name ≠ "attribute" → c.name ≠ "scan-element" →
      createChannel p ⟨nm, props, l₁ ++ c :: l₂⟩ = createChannel p ⟨nm, props, l₁ ++ l₂⟩) := by
  refine ⟨fun h1 h2 => ?_, fun h1 h2 h3 h4 => ?_, fun h1 h2 => ?_⟩
  · have hc (ctx : Context) : populateChild p ctx c = .ok ctx := by simp [populateChild, h1, h2]
    simp only [iioCreateXmlContextHelper, iioPopulateXmlContextHelper, xmlDocGetRootElement,
      foldlM_skip _ hc]
  · have hc (dev : Device) : createDeviceChild p dev c = .ok dev := by
      simp [createDeviceChild, h1, h2, h3, h4]
    simp only [createDevice, foldlM_skip _ hc]
  · have hc (chn : Channel) : createChannelChild p chn c = .ok chn := by
      simp [createChannelChild, h1, h2]
    simp only [createChannel, foldlM_skip _ hc]

/-- A `<text>` node before the children of the sample's root, device and channel. -/
theorem unknown_child_ignored_text :
    ((⟨"text", [], []⟩ : XmlNode).name ≠ "context-attribute" ∧
      (⟨"text", [], []⟩ : XmlNode).name ≠ "device" ∧
      iioCreateXmlContextHelper samplePlatform
          ⟨⟨"context", [], [] ++ ⟨"text", [], []⟩ :: sampleDoc.root.children⟩⟩ =
        iioCreateXmlContextHelper samplePlatform
          ⟨⟨"context", [], [] ++ sampleDoc.root.children⟩⟩) ∧
    ((⟨"text", [], []⟩ : XmlNode).name ≠ "channel" ∧
      (⟨"text", [], []⟩ : XmlNode).name ≠ "attribute" ∧
      (⟨"text", [], []⟩ : XmlNode).name ≠ "debug-attribute" ∧
      (⟨"text", [], []⟩ : XmlNode).name ≠ "buffer-attribute" ∧
      createDevice samplePlatform ⟨"device", [⟨"id", .lit "d"⟩], [] ++ ⟨"text", [], []⟩ :: []⟩ =
        createDevice samplePlatform ⟨"device", [⟨"id", .lit "d"⟩], [] ++ []⟩) ∧
    ((⟨"text", [], []⟩ : XmlNode).name ≠ "attribute" ∧
      (⟨"text", [], []⟩ : XmlNode).name ≠ "scan-element" ∧
      createChannel samplePlatform ⟨"channel", [⟨"id", .lit "c"⟩], [] ++ ⟨"text", [], []⟩ :: []⟩ =
        createChannel samplePlatform ⟨"channel", [⟨"id", .lit "c"⟩], [] ++ []⟩) :=
  ⟨⟨by decide, by decide, (unknown_child_ignored _ _ _ _ _ _).1 (by decide) (by decide)⟩,
    ⟨by decide, by decide, by decide, by decide,
      (unknown_child_ignored _ _ _ _ _ _).2.1 (by decide) (by decide) (by decide) (by decide)⟩,
    ⟨by decide, by decide, (unknown_child_ignored _ _ _ _ _ _).2.2 (by decide) (by decide)⟩⟩

/-- **An attribute the builder does not read changes nothing**, wherever it stands among
the attributes of the root, of a `<device>`, a `<channel>` or a `<scan-element>`, of an
attribute child of a channel or a device, or of a `<context-attribute>`. -/
theorem unknown_attribute_ignored (p : Platform) (nm : String) (l₁ l₂ : List XmlAttr)
    (a : XmlAttr) (cs : List XmlNode) :
    (a.name ∉ ["description", "version-major", "version-minor", "version-git"] →
      iioCreateXmlContextHelper p ⟨⟨nm, l₁ ++ a :: l₂, cs⟩⟩ =
        iioCreateXmlContextHelper p ⟨⟨nm, l₁ ++ l₂, cs⟩⟩) ∧
    (a.name ∉ ["name", "label", "id"] →
      createDevice p ⟨nm, l₁ ++ a :: l₂, cs⟩ = createDevice p ⟨nm, l₁ ++ l₂, cs⟩) ∧
    (a.name ∉ ["name", "id", "type"] →
      createChannel p ⟨nm, l₁ ++ a :: l₂, cs⟩ = createChannel p ⟨nm, l₁ ++ l₂, cs⟩) ∧
    (a.name ∉ ["index", "format", "scale"] → ∀ chn,
      setupScanElement p chn ⟨nm, l₁ ++ a :: l₂, cs⟩ =
        setupScanElement p chn ⟨nm, l₁ ++ l₂, cs⟩) ∧
    (a.name ∉ ["name", "filename"] → ∀ chn,
      addAttrToChannel chn ⟨nm, l₁ ++ a :: l₂, cs⟩ = addAttrToChannel chn ⟨nm, l₁ ++ l₂, cs⟩) ∧
    (a.name ≠ "name" → ∀ dev type,
      addAttrToDevice dev ⟨nm, l₁ ++ a :: l₂, cs⟩ type =
        addAttrToDevice dev ⟨nm, l₁ ++ l₂, cs⟩ type) ∧
    (a.name ∉ ["name", "value"] → ∀ ctx,
      parseContextAttr ctx ⟨nm, l₁ ++ a :: l₂, cs⟩ = parseContextAttr ctx ⟨nm, l₁ ++ l₂, cs⟩) := by
  simp only [List.mem_cons, List.mem_singleton, List.not_mem_nil, or_false, not_or]
  refine ⟨fun ⟨h1, h2, h3, h4⟩ => ?_, fun ⟨h1, h2, h3⟩ => ?_, fun ⟨h1, h2, h3⟩ => ?_,
    fun ⟨h1, h2, h3⟩ chn => ?_, fun ⟨h1, h2⟩ chn => ?_, fun h dev type => ?_,
    fun ⟨h1, h2⟩ ctx => ?_⟩
  · simp only [iioCreateXmlContextHelper, iioPopulateXmlContextHelper, xmlDocGetRootElement,
      assignFromAttrs_skip _ _ h1, assignFromAttrs_skip _ _ h2, assignFromAttrs_skip _ _ h3,
      assignFromAttrs_skip _ _ h4]
  · simp only [createDevice, assignFromAttrs_skip _ _ h1, assignFromAttrs_skip _ _ h2,
      assignFromAttrs_skip _ _ h3]
  · have hout : channelIsOutput (l₁ ++ a :: l₂) = channelIsOutput (l₁ ++ l₂) := by
      simp only [channelIsOutput, List.foldl_append, List.foldl_cons, if_neg h3]
    simp only [createChannel, assignFromAttrs_skip _ _ h1, assignFromAttrs_skip _ _ h2, hout]
  · have hc (chn : Channel) : setupScanElementAttr p chn a = .ok chn := by
      simp only [setupScanElementAttr, if_neg h1, if_neg h2, if_neg h3]
    simp only [setupScanElement, foldlM_skip _ hc]
  · simp only [addAttrToChannel, assignFromAttrs_skip _ _ h1, assignFromAttrs_skip _ _ h2]
  · simp only [addAttrToDevice, assignFromAttrs_skip _ _ h]
  · simp only [parseContextAttr, assignFromAttrs_skip _ _ h1, assignFromAttrs_skip _ _ h2]
/-- An attribute named `comment`. -/
def commentAttr : XmlAttr := ⟨"comment", .lit "x"⟩

/-- A `comment` attribute on the sample's root and on each kind of element. -/
theorem unknown_attribute_ignored_comment :
    (commentAttr.name ∉ ["description", "version-major", "version-minor", "version-git"] ∧
      iioCreateXmlContextHelper samplePlatform
          ⟨⟨"context", [] ++ commentAttr :: [], sampleDoc.root.children⟩⟩ =
        iioCreateXmlContextHelper samplePlatform
          ⟨⟨"context", [] ++ [], sampleDoc.root.children⟩⟩) ∧
    (commentAttr.name ∉ ["name", "label", "id"] ∧
      createDevice samplePlatform ⟨"device", [⟨"id", .lit "d"⟩] ++ commentAttr :: [], []⟩ =
        createDevice samplePlatform ⟨"device", [⟨"id", .lit "d"⟩] ++ [], []⟩) ∧
    (commentAttr.name ∉ ["name", "id", "type"] ∧
      createChannel samplePlatform ⟨"channel", [⟨"id", .lit "c"⟩] ++ commentAttr :: [], []⟩ =
        createChannel samplePlatform ⟨"channel", [⟨"id", .lit "c"⟩] ++ [], []⟩) ∧
    (commentAttr.name ∉ ["index", "format", "scale"] ∧
      setupScanElement samplePlatform sampleChannel
          ⟨"scan-element", [] ++ commentAttr :: [⟨"index", .lit "0"⟩], []⟩ =
        setupScanElement samplePlatform sampleChannel
          ⟨"scan-element", [] ++ [⟨"index", .lit "0"⟩], []⟩) ∧
    (commentAttr.name ∉ ["name", "filename"] ∧
      addAttrToChannel sampleChannel ⟨"attribute", [⟨"name", .lit "a"⟩] ++ commentAttr :: [], []⟩ =
        addAttrToChannel sampleChannel ⟨"attribute", [⟨"name", .lit "a"⟩] ++ [], []⟩) ∧
    (commentAttr.name ≠ "name" ∧
      addAttrToDevice ⟨none, .lit "d", none, [], [], [], []⟩
          ⟨"attribute", [⟨"name", .lit "a"⟩] ++ commentAttr :: [], []⟩ .device =
        addAttrToDevice ⟨none, .lit "d", none, [], [], [], []⟩
          ⟨"attribute", [⟨"name", .lit "a"⟩] ++ [], []⟩ .device) ∧
    (commentAttr.name ∉ ["name", "value"] ∧
      parseContextAttr (iioContextCreateFromBackend none)
          ⟨"context-attribute", [⟨"name", .lit "k"⟩] ++ commentAttr :: [⟨"value", .lit "v"⟩], []⟩ =
        parseContextAttr (iioContextCreateFromBackend none)
          ⟨"context-attribute", [⟨"name", .lit "k"⟩] ++ [⟨"value", .lit "v"⟩], []⟩) :=
  ⟨⟨by decide, (unknown_attribute_ignored samplePlatform _ _ _ _ _).1 (by decide)⟩,
    ⟨by decide, (unknown_attribute_ignored samplePlatform _ _ _ _ _).2.1 (by decide)⟩,
    ⟨by decide, (unknown_attribute_ignored samplePlatform _ _ _ _ _).2.2.1 (by decide)⟩,
    ⟨by decide, (unknown_attribute_ignored samplePlatform _ _ _ _ _).2.2.2.1 (by decide) _⟩,
    ⟨by decide, (unknown_attribute_ignored samplePlatform _ _ _ _ _).2.2.2.2.1 (by decide) _⟩,
    ⟨by decide, (unknown_attribute_ignored samplePlatform _ _ _ _ _).2.2.2.2.2.1 (by decide) _ _⟩,
    ⟨by decide, (unknown_attribute_ignored samplePlatform _ _ _ _ _).2.2.2.2.2.2 (by decide) _⟩⟩

end IioXml
