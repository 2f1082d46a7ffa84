import IioXml.Builder
import IioXml.FormatCodec

/-!
# What the builder builds

A declarative reading of a document: which documents the builder accepts
(`ContextAccepted`) and the context it then builds (`denoteContext`), stated with the
children of each name in document order (`XmlNode.childrenNamed`) and the last attribute
of each name (`attrText`), with no loop and no error path.  A channel's index, format
and scale come from the last `index`, `format` and `scale` attribute over all its
`<scan-element>` children (`scanProps`).

Each function of the builder is first put in the form "accept, then update"
(`addAttrToChannel_eq`, `createChannelChild_eq`, …); the loops over children are then
`foldlM_all_or_error`, and the folds of the updates are the denotation
(`foldl_channelChildUpdate`, `foldl_deviceChildUpdate`, `foldl_contextChildUpdate`).

* `createChannel_eq`, `createDevice_eq` — one element;
* `iioCreateXmlContextHelper_eq` — **the builder refines the denotation**: it returns
  `denoteContext` when the document is accepted and `-EINVAL` otherwise.
-/

namespace IioXml

/-! ### The denotation -/

/-- The text of the last attribute named `k`. -/
def attrText (n : XmlNode) (k : String) : Option CStr := (lastAttr n.properties k).map (·.content)

/-- The element has an attribute named `k`. -/
def HasAttr (n : XmlNode) (k : String) : Prop := ∃ a ∈ n.properties, a.name = k

instance (n : XmlNode) (k : String) : Decidable (HasAttr n k) :=
  inferInstanceAs (Decidable (∃ a ∈ n.properties, a.name = k))

/-- The attributes of all `<scan-element>` children of a channel, in document order. -/
def scanProps (n : XmlNode) : List XmlAttr :=
  (n.childrenNamed "scan-element").flatMap (·.properties)

/-- A channel's index: the last `index` attribute read as a `long`, or `-ENOENT`. -/
def denoteIndex (abi : Abi) (props : List XmlAttr) : Int :=
  ((lastAttr props "index").map fun a =>
    abi.toLong (strtoll a.content.chars 0).value).getD (-ENOENT)

/-- A channel's format: decoded from the last `format` attribute (zero without one), with
the scale of the last `scale` attribute. -/
def denoteFormat (p : Platform) (props : List XmlAttr) : DataFormat :=
  { ((lastAttr props "format").map (decodeFormat p.abi ·.content)).getD DataFormat.zero with
    withScale := (lastAttr props "scale").isSome
    scale := ((lastAttr props "scale").map fun a => (p.strtof a.content.chars).value).getD 0 }

/-- A channel attribute: its name, and its filename or else its name. -/
def denoteChannelAttr (n : XmlNode) : ChannelAttr :=
  ⟨(attrText n "name").getD CStr.empty,
    (attrText n "filename").getD ((attrText n "name").getD CStr.empty)⟩

/-- A `<channel>`. -/
def denoteChannel (p : Platform) (n : XmlNode) : Channel where
  isOutput := n.properties.any fun a => a.name = "type" && a.content.chars = "output".toList
  isScanElement := n.children.any (·.name = "scan-element")
  format := denoteFormat p (scanProps n)
  name := attrText n "name"
  id := (attrText n "id").getD CStr.empty
  index := denoteIndex p.abi (scanProps n)
  attrs := (n.childrenNamed "attribute").map denoteChannelAttr

/-- A device attribute with the suffix of its registry. -/
def denoteDevAttr (n : XmlNode) (suffix : String) : CStr × String :=
  ((attrText n "name").getD CStr.empty, suffix)

/-- A `<device>`. -/
def denoteDevice (p : Platform) (n : XmlNode) : Device where
  name := attrText n "name"
  id := (attrText n "id").getD CStr.empty
  label := attrText n "label"
  attrs := (n.childrenNamed "attribute").map (denoteDevAttr · "")
  bufferAttrs := (n.childrenNamed "buffer-attribute").map (denoteDevAttr · " buffer")
  debugAttrs := (n.childrenNamed "debug-attribute").map (denoteDevAttr · " debug")
  channels := (n.childrenNamed "channel").map (denoteChannel p)

/-- A version number: the last attribute `k` of the root read by `strtol` in base 10 and
stored as an `unsigned int`, or 0. -/
def versionOf (abi : Abi) (root : XmlNode) (k : String) : BitVec 32 :=
  toUnsignedInt
    (((lastAttr root.properties k).map fun a => (strtol abi a.content.chars 10).value).getD 0)

/-- A `<context-attribute>`. -/
def denoteContextAttr (n : XmlNode) : CStr × CStr :=
  ((attrText n "name").getD CStr.empty, (attrText n "value").getD CStr.empty)

/-- The context of a `<context>` root; the version is kept only with a git tag. -/
def denoteContext (p : Platform) (root : XmlNode) : Context where
  description := attrText root "description"
  major := if HasAttr root "version-git" then versionOf p.abi root "version-major" else 0
  minor := if HasAttr root "version-git" then versionOf p.abi root "version-minor" else 0
  gitTag := attrText root "version-git"
  attrs := (root.childrenNamed "context-attribute").map denoteContextAttr
  devices := (root.childrenNamed "device").map (denoteDevice p)

/-! ### Acceptance -/

/-- A child of a `<channel>` that `create_channel` accepts. -/
def ChannelChildAccepted (p : Platform) (c : XmlNode) : Prop :=
  (c.name = "attribute" → HasAttr c "name") ∧
    (c.name = "scan-element" → ∀ a ∈ c.properties, ScanAttrAccepted p a)

/-- A `<channel>` that `create_channel` accepts. -/
def ChannelAccepted (p : Platform) (n : XmlNode) : Prop :=
  HasAttr n "id" ∧ ∀ c ∈ n.children, ChannelChildAccepted p c

/-- A child of a `<device>` that `create_device` accepts. -/
def DeviceChildAccepted (p : Platform) (c : XmlNode) : Prop :=
  (c.name = "channel" → ChannelAccepted p c) ∧
    (c.name = "attribute" ∨ c.name = "debug-attribute" ∨ c.name = "buffer-attribute" →
      HasAttr c "name")

/-- A `<device>` that `create_device` accepts. -/
def DeviceAccepted (p : Platform) (n : XmlNode) : Prop :=
  HasAttr n "id" ∧ ∀ c ∈ n.children, DeviceChildAccepted p c

/-- A child of the root that `iio_populate_xml_context_helper` accepts. -/
def ContextChildAccepted (p : Platform) (c : XmlNode) : Prop :=
  (c.name = "context-attribute" → HasAttr c "name" ∧ HasAttr c "value") ∧
    (c.name = "device" → DeviceAccepted p c)

/-- A root element the builder accepts. -/
def ContextAccepted (p : Platform) (root : XmlNode) : Prop :=
  root.name = "context" ∧ ∀ c ∈ root.children, ContextChildAccepted p c

instance (p : Platform) (c : XmlNode) : Decidable (ChannelChildAccepted p c) :=
  inferInstanceAs (Decidable (_ ∧ _))

instance (p : Platform) (n : XmlNode) : Decidable (ChannelAccepted p n) :=
  inferInstanceAs (Decidable (_ ∧ _))

instance (p : Platform) (c : XmlNode) : Decidable (DeviceChildAccepted p c) :=
  inferInstanceAs (Decidable (_ ∧ _))

instance (p : Platform) (n : XmlNode) : Decidable (DeviceAccepted p n) :=
  inferInstanceAs (Decidable (_ ∧ _))

instance (p : Platform) (c : XmlNode) : Decidable (ContextChildAccepted p c) :=
  inferInstanceAs (Decidable (_ ∧ _))

instance (p : Platform) (root : XmlNode) : Decidable (ContextAccepted p root) :=
  inferInstanceAs (Decidable (_ ∧ _))

/-! ### Channels -/

theorem addAttrToChannel_eq (chn : Channel) (n : XmlNode) :
    addAttrToChannel chn n = if HasAttr n "name" then
      .ok { chn with attrs := chn.attrs ++ [denoteChannelAttr n] } else .error (-EINVAL) := by
  unfold addAttrToChannel denoteChannelAttr attrText
  simp only [assignFromAttrs_some, HasAttr, ← lastAttr_isSome_iff]
  cases lastAttr n.properties "name" <;> rfl

/-- What an accepted child of a `<channel>` does to the channel. -/
def channelChildUpdate (p : Platform) (chn : Channel) (c : XmlNode) : Channel :=
  if c.name = "attribute" then { chn with attrs := chn.attrs ++ [denoteChannelAttr c] }
  else if c.name = "scan-element" then
    c.properties.foldl (scanAttrUpdate p) { chn with isScanElement := true }
  else chn

/-- **One child of a `<channel>`**: accepted on its own text, then a pure update. -/
theorem createChannelChild_eq (p : Platform) (chn : Channel) (c : XmlNode) :
    createChannelChild p chn c =
      if ChannelChildAccepted p c then .ok (channelChildUpdate p chn c) else .error (-EINVAL) := by
  by_cases ha : c.name = "attribute"
  · have hs : c.name ≠ "scan-element" := by rw [ha]; decide
    have hacc : ChannelChildAccepted p c ↔ HasAttr c "name" :=
      ⟨fun h => h.1 ha, fun h => ⟨fun _ => h, fun h' => absurd h' hs⟩⟩
    rw [createChannelChild, if_pos ha, addAttrToChannel_eq, channelChildUpdate, if_pos ha]
    simp only [hacc]
  by_cases hs : c.name = "scan-element"
  · have hacc : ChannelChildAccepted p c ↔ ∀ a ∈ c.properties, ScanAttrAccepted p a :=
      ⟨fun h => h.2 hs, fun h => ⟨fun h' => absurd h' ha, fun _ => h⟩⟩
    rw [createChannelChild, if_neg ha, if_pos hs, channelChildUpdate, if_neg ha, if_pos hs]
    rcases setupScanElement_cases p { chn with isScanElement := true } c with
      ⟨hall, hrun⟩ | ⟨l₁, a, l₂, hl, -, hna, hrun⟩
    · rw [if_pos (hacc.mpr hall)]
      simp [hrun]
    · rw [if_neg fun h => hna (hacc.mp h a (by simp [hl]))]
      simp [hrun, EINVAL]
  · have hacc : ChannelChildAccepted p c := ⟨fun h' => absurd h' ha, fun h' => absurd h' hs⟩
    rw [createChannelChild, if_neg ha, if_neg hs, channelChildUpdate, if_neg ha, if_neg hs,
      if_pos hacc]

/-- The fields of a channel that no child changes. -/
theorem channelChildUpdate_keeps (p : Platform) (chn : Channel) (c : XmlNode) :
    (channelChildUpdate p chn c).isOutput = chn.isOutput ∧
      (channelChildUpdate p chn c).name = chn.name ∧
      (channelChildUpdate p chn c).id = chn.id := by
  unfold channelChildUpdate
  split_ifs
  · exact ⟨rfl, rfl, rfl⟩
  · refine ⟨?_, ?_, ?_⟩ <;> apply foldl_keep <;> simp
  · exact ⟨rfl, rfl, rfl⟩

/-- **What an accepted scan-element attribute does to the format**: a `format` text
replaces every field but the scale, a `scale` text sets the scale. -/
theorem scanAttrUpdate_format (p : Platform) (chn : Channel) {a : XmlAttr}
    (ha : ScanAttrAccepted p a) :
    (scanAttrUpdate p chn a).format =
      if a.name = "format" then
        { decodeFormat p.abi a.content with
          withScale := chn.format.withScale, scale := chn.format.scale }
      else if a.name = "scale" then
        { chn.format with withScale := true, scale := (p.strtof a.content.chars).value }
      else chn.format := by
  unfold scanAttrUpdate
  by_cases hi : a.name = "index"
  · simp [hi]
  by_cases hf : a.name = "format"
  · simp only [hi, hf, if_false, if_true]
    exact scanFormat_withFlags_of_accepted _ _ (ha.2.1 hf)
  · simp only [hi, hf, if_false]
    split_ifs <;> rfl

/-- **A component of a channel that only its scan-element attributes change**, one
attribute name at a time, follows the last-attribute law over `scanProps`. -/
theorem foldl_channelChildUpdate_lastAttr {β : Type} (p : Platform) (g : Int → DataFormat → β)
    (k : String) (f : XmlAttr → β)
    (hg : ∀ s a, ScanAttrAccepted p a →
      g (scanAttrUpdate p s a).index (scanAttrUpdate p s a).format =
        if a.name = k then f a else g s.index s.format)
    (n : XmlNode) (hacc : ∀ c ∈ n.children, ChannelChildAccepted p c) (s : Channel) :
    g (n.children.foldl (channelChildUpdate p) s).index
        (n.children.foldl (channelChildUpdate p) s).format =
      ((lastAttr (scanProps n) k).map f).getD (g s.index s.format) := by
  refine foldl_lastAttr_children (channelChildUpdate p) (fun s => g s.index s.format) _ k f _
    (fun c hc s => ?_) s
  by_cases hs : c.name = "scan-element"
  · have ha : c.name ≠ "attribute" := by rw [hs]; decide
    simp only [channelChildUpdate, ha, hs, if_true, if_false]
    exact foldl_lastAttr (scanAttrUpdate p) (fun s => g s.index s.format) k f _
      (fun a ha s => hg s a ((hacc c hc).2 hs a ha)) _
  · simp only [hs, if_false]
    unfold channelChildUpdate
    split_ifs <;> rfl

/-- The format part a `format` attribute sets. -/
def DataFormat.layout (f : DataFormat) : DataFormat := { f with withScale := false, scale := 0 }

/-- A format is its layout and its scale. -/
theorem DataFormat.eq_of_layout {f g : DataFormat} (hl : f.layout = g.layout)
    (hw : f.withScale = g.withScale) (hs : f.scale = g.scale) : f = g := by
  cases f
  cases g
  simp only [layout, DataFormat.mk.injEq] at hl ⊢
  simp_all

/-- The layout, the scale flag and the scale after one accepted attribute. -/
theorem scanAttrUpdate_format_parts (p : Platform) (chn : Channel) {a : XmlAttr}
    (ha : ScanAttrAccepted p a) :
    (scanAttrUpdate p chn a).format.layout =
        (if a.name = "format" then (decodeFormat p.abi a.content).layout else chn.format.layout) ∧
      (scanAttrUpdate p chn a).format.withScale =
        (if a.name = "scale" then true else chn.format.withScale) ∧
      (scanAttrUpdate p chn a).format.scale =
        if a.name = "scale" then (p.strtof a.content.chars).value else chn.format.scale := by
  rw [scanAttrUpdate_format p chn ha]
  split_ifs with hf hs <;> simp_all [DataFormat.layout]

/-- **The format after the children** is the denotation's. -/
theorem foldl_channelChildUpdate_format (p : Platform) (n : XmlNode)
    (hacc : ∀ c ∈ n.children, ChannelChildAccepted p c) (s : Channel)
    (hs : s.format = DataFormat.zero) :
    (n.children.foldl (channelChildUpdate p) s).format = denoteFormat p (scanProps n) := by
  have hl := foldl_channelChildUpdate_lastAttr p (fun _ f => f.layout) "format"
    (fun a => (decodeFormat p.abi a.content).layout)
    (fun s _ ha => (scanAttrUpdate_format_parts p s ha).1) n hacc s
  have hw := foldl_channelChildUpdate_lastAttr p (fun _ f => f.withScale) "scale" (fun _ => true)
    (fun s _ ha => (scanAttrUpdate_format_parts p s ha).2.1) n hacc s
  have hc := foldl_channelChildUpdate_lastAttr p (fun _ f => f.scale) "scale"
    (fun a => (p.strtof a.content.chars).value)
    (fun s _ ha => (scanAttrUpdate_format_parts p s ha).2.2) n hacc s
  simp only [hs] at hl hw hc
  apply DataFormat.eq_of_layout
  · rw [hl, denoteFormat]
    cases lastAttr (scanProps n) "format" <;> rfl
  · rw [hw, denoteFormat]
    cases lastAttr (scanProps n) "scale" <;> rfl
  · rw [hc, denoteFormat]
    cases lastAttr (scanProps n) "scale" <;> rfl

theorem channelIsOutput_eq (props : List XmlAttr) :
    channelIsOutput props =
      props.any fun a => a.name = "type" && a.content.chars = "output".toList :=
  foldl_any _ id _ (fun o a => by unfold id; split_ifs <;> simp_all) props false

/-- **The children of an accepted `<channel>`** turn the channel `create_channel` starts
with into the denotation. -/
theorem foldl_channelChildUpdate (p : Platform) (n : XmlNode)
    (hacc : ∀ c ∈ n.children, ChannelChildAccepted p c) (id : CStr)
    (hid : attrText n "id" = some id) :
    n.children.foldl (channelChildUpdate p)
        ⟨channelIsOutput n.properties, false, DataFormat.zero, attrText n "name", id, -ENOENT,
          []⟩ =
      denoteChannel p n := by
  apply Channel.ext
  case isOutput =>
    rw [foldl_keep _ Channel.isOutput (fun s c => (channelChildUpdate_keeps p s c).1)]
    exact channelIsOutput_eq _
  case name => exact foldl_keep _ Channel.name (fun s c => (channelChildUpdate_keeps p s c).2.1) _ _
  case id =>
    rw [foldl_keep _ Channel.id (fun s c => (channelChildUpdate_keeps p s c).2.2)]
    simp [denoteChannel, hid]
  case isScanElement =>
    refine foldl_any _ Channel.isScanElement (fun c : XmlNode => decide (c.name = "scan-element"))
      (fun s c => ?_) _ _
    unfold channelChildUpdate
    split_ifs with ha hs
    · simp [ha]
    · simp [hs, foldl_keep _ Channel.isScanElement (scanAttrUpdate_isScanElement p)]
    · simp [hs]
  case format => exact foldl_channelChildUpdate_format p n hacc _ rfl
  case index =>
    exact foldl_channelChildUpdate_lastAttr p (fun i _ => i) "index"
      (fun a => p.abi.toLong (strtoll a.content.chars 0).value)
      (fun s a _ => scanAttrUpdate_index p s a) n hacc _
  case attrs =>
    rw [foldl_collect _ Channel.attrs (fun c : XmlNode => c.name = "attribute") denoteChannelAttr
      (fun s c => ?_)]
    · rfl
    unfold channelChildUpdate
    split_ifs with ha hs
    · rfl
    · exact foldl_keep _ Channel.attrs (scanAttrUpdate_attrs p) _ _
    · rfl

/-- **`create_channel`** builds the denotation of an accepted `<channel>` and returns
`-EINVAL` otherwise. -/
theorem createChannel_eq (p : Platform) (n : XmlNode) :
    createChannel p n =
      if ChannelAccepted p n then .ok (denoteChannel p n) else .error (-EINVAL) := by
  unfold createChannel ChannelAccepted
  simp only [assignFromAttrs_some]
  rcases hid : lastAttr n.properties "id" with _ | a
  · have hno : ¬ HasAttr n "id" := mt (lastAttr_isSome_iff _ _).mpr (by rw [hid]; decide)
    rw [if_neg fun h => hno h.1]
    rfl
  · have hhas : HasAttr n "id" := (lastAttr_isSome_iff _ _).mp (by rw [hid]; rfl)
    simp only [Option.map_some', hhas, true_and]
    rw [foldlM_all_or_error _ _ _ _ (createChannelChild_eq p)]
    split_ifs with hacc
    · exact congrArg _ (foldl_channelChildUpdate p n hacc a.content (by simp [attrText, hid]))
    · rfl

/-! ### Devices -/

/-- What an accepted attribute child does to the registry of its type. -/
def devAttrUpdate (dev : Device) (n : XmlNode) : IioAttrType → Device
  | .debug => { dev with debugAttrs := dev.debugAttrs ++ [denoteDevAttr n " debug"] }
  | .device => { dev with attrs := dev.attrs ++ [denoteDevAttr n ""] }
  | .buffer => { dev with bufferAttrs := dev.bufferAttrs ++ [denoteDevAttr n " buffer"] }

theorem addAttrToDevice_eq (dev : Device) (n : XmlNode) (type : IioAttrType) :
    addAttrToDevice dev n type =
      if HasAttr n "name" then .ok (devAttrUpdate dev n type) else .error (-EINVAL) := by
  cases type <;>
  · unfold addAttrToDevice devAttrUpdate denoteDevAttr attrText
    simp only [assignFromAttrs_some, HasAttr, ← lastAttr_isSome_iff]
    cases lastAttr n.properties "name" <;> rfl

/-- What an accepted child of a `<device>` does to the device. -/
def deviceChildUpdate (p : Platform) (dev : Device) (c : XmlNode) : Device :=
  if c.name = "channel" then { dev with channels := dev.channels ++ [denoteChannel p c] }
  else if c.name = "attribute" then devAttrUpdate dev c .device
  else if c.name = "debug-attribute" then devAttrUpdate dev c .debug
  else if c.name = "buffer-attribute" then devAttrUpdate dev c .buffer
  else dev

/-- **One child of a `<device>`**: accepted on its own text, then a pure update. -/
theorem createDeviceChild_eq (p : Platform) (dev : Device) (c : XmlNode) :
    createDeviceChild p dev c =
      if DeviceChildAccepted p c then .ok (deviceChildUpdate p dev c) else .error (-EINVAL) := by
  by_cases hch : c.name = "channel"
  · have hacc : DeviceChildAccepted p c ↔ ChannelAccepted p c :=
      ⟨fun h => h.1 hch, fun h => ⟨fun _ => h, fun hk => absurd hk (by rw [hch]; decide)⟩⟩
    rw [createDeviceChild, if_pos hch, createChannel_eq, deviceChildUpdate, if_pos hch]
    simp only [hacc]
    split_ifs <;> rfl
  have hattr (k : String) (hk : c.name = k) (hne : k ≠ "channel")
      (hk' : k = "attribute" ∨ k = "debug-attribute" ∨ k = "buffer-attribute") :
      DeviceChildAccepted p c ↔ HasAttr c "name" :=
    ⟨fun h => h.2 (hk ▸ hk'), fun h => ⟨fun h' => absurd (hk.symm.trans h') hne, fun _ => h⟩⟩
  by_cases ha : c.name = "attribute"
  · rw [createDeviceChild, if_neg hch, if_pos ha, addAttrToDevice_eq, deviceChildUpdate,
      if_neg hch, if_pos ha]
    simp only [hattr _ ha (by decide) (by decide)]
  by_cases hd : c.name = "debug-attribute"
  · rw [createDeviceChild, if_neg hch, if_neg ha, if_pos hd, addAttrToDevice_eq, deviceChildUpdate,
      if_neg hch, if_neg ha, if_pos hd]
    simp only [hattr _ hd (by decide) (by decide)]
  by_cases hb : c.name = "buffer-attribute"
  · rw [createDeviceChild, if_neg hch, if_neg ha, if_neg hd, if_pos hb, addAttrToDevice_eq,
      deviceChildUpdate, if_neg hch, if_neg ha, if_neg hd, if_pos hb]
    simp only [hattr _ hb (by decide) (by decide)]
  · have hacc : DeviceChildAccepted p c :=
      ⟨fun h => absurd h hch, fun h => (h.elim ha fun h => h.elim hd hb).elim⟩
    rw [createDeviceChild, if_neg hch, if_neg ha, if_neg hd, if_neg hb, deviceChildUpdate,
      if_neg hch, if_neg ha, if_neg hd, if_neg hb, if_pos hacc]

/-- An accepted child of a `<device>` appends to the list of its kind. -/
theorem deviceChildUpdate_eq (p : Platform) (dev : Device) (c : XmlNode) :
    deviceChildUpdate p dev c = { dev with
      attrs := if c.name = "attribute" then dev.attrs ++ [denoteDevAttr c ""] else dev.attrs
      bufferAttrs := if c.name = "buffer-attribute"
        then dev.bufferAttrs ++ [denoteDevAttr c " buffer"] else dev.bufferAttrs
      debugAttrs := if c.name = "debug-attribute" then dev.debugAttrs ++ [denoteDevAttr c " debug"]
        else dev.debugAttrs
      channels := if c.name = "channel" then dev.channels ++ [denoteChannel p c]
        else dev.channels } := by
  unfold deviceChildUpdate devAttrUpdate
  by_cases h1 : c.name = "channel"
  · simp [h1]
  by_cases h2 : c.name = "attribute"
  · simp [h2]
  by_cases h3 : c.name = "debug-attribute"
  · simp [h3]
  by_cases h4 : c.name = "buffer-attribute"
  · simp [h4]
  · simp [h1, h2, h3, h4]

/-- **The children of an accepted `<device>`** turn the device `create_device` starts
with into the denotation. -/
theorem foldl_deviceChildUpdate (p : Platform) (n : XmlNode) (id : CStr)
    (hid : attrText n "id" = some id) :
    n.children.foldl (deviceChildUpdate p)
        ⟨attrText n "name", id, attrText n "label", [], [], [], []⟩ =
      denoteDevice p n := by
  have hc {β : Type} (get : Device → List β) (k : String) (f : XmlNode → β)
      (h : ∀ s c, get (deviceChildUpdate p s c) = if c.name = k then get s ++ [f c] else get s)
      (s : Device) (hs : get s = []) :
      get (n.children.foldl (deviceChildUpdate p) s) = (n.childrenNamed k).map f := by
    rw [foldl_collect _ get (fun c : XmlNode => c.name = k) f h, hs]
    rfl
  apply Device.ext
  case name => exact foldl_keep _ Device.name (fun s c => by rw [deviceChildUpdate_eq]) _ _
  case id =>
    rw [foldl_keep _ Device.id (fun s c => by rw [deviceChildUpdate_eq])]
    simp [denoteDevice, hid]
  case label => exact foldl_keep _ Device.label (fun s c => by rw [deviceChildUpdate_eq]) _ _
  case attrs => exact hc Device.attrs _ _ (fun s c => by rw [deviceChildUpdate_eq]) _ rfl
  case bufferAttrs =>
    exact hc Device.bufferAttrs _ _ (fun s c => by rw [deviceChildUpdate_eq]) _ rfl
  case debugAttrs =>
    exact hc Device.debugAttrs _ _ (fun s c => by rw [deviceChildUpdate_eq]) _ rfl
  case channels => exact hc Device.channels _ _ (fun s c => by rw [deviceChildUpdate_eq]) _ rfl

/-- **`create_device`** builds the denotation of an accepted `<device>` and returns
`-EINVAL` otherwise. -/
theorem createDevice_eq (p : Platform) (n : XmlNode) :
    createDevice p n = if DeviceAccepted p n then .ok (denoteDevice p n) else .error (-EINVAL) := by
  unfold createDevice DeviceAccepted
  simp only [assignFromAttrs_some]
  rcases hid : lastAttr n.properties "id" with _ | a
  · have hno : ¬ HasAttr n "id" := mt (lastAttr_isSome_iff _ _).mpr (by rw [hid]; decide)
    rw [if_neg fun h => hno h.1]
    rfl
  · have hhas : HasAttr n "id" := (lastAttr_isSome_iff _ _).mp (by rw [hid]; rfl)
    simp only [Option.map_some', hhas, true_and]
    rw [foldlM_all_or_error _ _ _ _ (createDeviceChild_eq p)]
    split_ifs
    · exact congrArg _ (foldl_deviceChildUpdate p n a.content (by simp [attrText, hid]))
    · rfl

/-! ### The context -/

theorem parseContextAttr_eq (ctx : Context) (n : XmlNode) :
    parseContextAttr ctx n = if HasAttr n "name" ∧ HasAttr n "value" then
      .ok { ctx with attrs := ctx.attrs ++ [denoteContextAttr n] } else .error (-EINVAL) := by
  unfold parseContextAttr denoteContextAttr attrText
  simp only [assignFromAttrs_some, HasAttr, ← lastAttr_isSome_iff]
  cases lastAttr n.properties "name" <;> cases lastAttr n.properties "value" <;> rfl

/-- What an accepted child of the root does to the context. -/
def contextChildUpdate (p : Platform) (ctx : Context) (c : XmlNode) : Context :=
  if c.name = "context-attribute" then { ctx with attrs := ctx.attrs ++ [denoteContextAttr c] }
  else if c.name = "device" then { ctx with devices := ctx.devices ++ [denoteDevice p c] }
  else ctx

/-- **One child of the root**: accepted on its own text, then a pure update. -/
theorem populateChild_eq (p : Platform) (ctx : Context) (c : XmlNode) :
    populateChild p ctx c =
      if ContextChildAccepted p c then .ok (contextChildUpdate p ctx c) else .error (-EINVAL) := by
  by_cases ha : c.name = "context-attribute"
  · have hd : c.name ≠ "device" := by rw [ha]; decide
    have hacc : ContextChildAccepted p c ↔ HasAttr c "name" ∧ HasAttr c "value" :=
      ⟨fun h => h.1 ha, fun h => ⟨fun _ => h, fun h' => absurd h' hd⟩⟩
    rw [populateChild, if_pos ha, parseContextAttr_eq, contextChildUpdate, if_pos ha]
    simp only [hacc]
  by_cases hd : c.name = "device"
  · have hacc : ContextChildAccepted p c ↔ DeviceAccepted p c :=
      ⟨fun h => h.2 hd, fun h => ⟨fun h' => absurd h' ha, fun _ => h⟩⟩
    rw [populateChild, if_neg ha, if_neg (not_not.mpr hd), createDevice_eq, contextChildUpdate,
      if_neg ha, if_pos hd]
    simp only [hacc]
    split_ifs <;> rfl
  · have hacc : ContextChildAccepted p c := ⟨fun h' => absurd h' ha, fun h' => absurd h' hd⟩
    rw [populateChild, if_neg ha, if_pos hd, contextChildUpdate, if_neg ha, if_neg hd, if_pos hacc]

/-- **The children of an accepted root** append the denotations of its
`<context-attribute>` and `<device>` children to the context. -/
theorem foldl_contextChildUpdate (p : Platform) (root : XmlNode) (ctx : Context) :
    root.children.foldl (contextChildUpdate p) ctx = { ctx with
      attrs := ctx.attrs ++ (root.childrenNamed "context-attribute").map denoteContextAttr
      devices := ctx.devices ++ (root.childrenNamed "device").map (denoteDevice p) } := by
  have hstep (s : Context) (c : XmlNode) : contextChildUpdate p s c = { s with
      attrs := if c.name = "context-attribute" then s.attrs ++ [denoteContextAttr c] else s.attrs
      devices := if c.name = "device" then s.devices ++ [denoteDevice p c] else s.devices } := by
    unfold contextChildUpdate
    split_ifs <;> simp_all
  apply Context.ext
  case attrs =>
    exact foldl_collect _ Context.attrs (fun c : XmlNode => c.name = "context-attribute")
      denoteContextAttr (fun s c => by rw [hstep]) _ _
  case devices =>
    exact foldl_collect _ Context.devices (fun c : XmlNode => c.name = "device")
      (denoteDevice p) (fun s c => by rw [hstep]) _ _
  all_goals exact foldl_keep _ _ (fun s c => by rw [hstep]) _ _

/-- **The builder refines the denotation.**  `iio_create_xml_context_helper` returns the
context `denoteContext` of the root when the root is accepted, and `-EINVAL` otherwise. -/
theorem iioCreateXmlContextHelper_eq (p : Platform) (doc : XmlDoc) :
    iioCreateXmlContextHelper p doc =
      if ContextAccepted p doc.root then .ok (denoteContext p doc.root) else .error (-EINVAL) := by
  unfold iioCreateXmlContextHelper ContextAccepted xmlDocGetRootElement
  by_cases hname : doc.root.name = "context"
  · simp only [hname, ne_eq, not_true_eq_false, if_false, true_and, assignFromAttrs_some,
      assignFromAttrs_eq, iioPopulateXmlContextHelper]
    rw [foldlM_all_or_error _ _ _ _ (populateChild_eq p)]
    split_ifs with hacc
    · simp only [bind, Except.bind, iioContextInit, foldl_contextChildUpdate]
      congr 1
      rcases hg : lastAttr doc.root.properties "version-git" with _ | g
      · have hno : ¬ HasAttr doc.root "version-git" :=
          mt (lastAttr_isSome_iff _ _).mpr (by rw [hg]; decide)
        simp [denoteContext, iioContextCreateFromBackend, attrText, hno, hg]
      · have hhas : HasAttr doc.root "version-git" :=
          (lastAttr_isSome_iff _ _).mp (by rw [hg]; rfl)
        simp [denoteContext, iioContextCreateFromBackend, attrText, versionOf, hhas, hg]
    · rfl
  · rw [if_pos hname, if_neg fun h => hname h.1]

/-- **The builder's contract.**  It returns a context exactly when the root is a
`<context>` whose `<context-attribute>` children have a name and a value, whose `<device>`
children have an id, attribute children with a name and `<channel>` children with an
id, whose channels' attribute children have a name and whose scan-element attributes
are accepted; the context is then `denoteContext`: its devices, in document order, are
the `<device>` children, each with its `<channel>` children in document order.
Otherwise it returns `-EINVAL` and no context. -/
theorem iioCreateXmlContextHelper_contract (p : Platform) (doc : XmlDoc) :
    (∀ ctx, iioCreateXmlContextHelper p doc = .ok ctx ↔
      ContextAccepted p doc.root ∧ ctx = denoteContext p doc.root) ∧
    (iioCreateXmlContextHelper p doc = .error (-EINVAL) ↔ ¬ ContextAccepted p doc.root) := by
  rw [iioCreateXmlContextHelper_eq]
  split_ifs with h <;> simp [h, eq_comm]

/-- The attributes of the scan-elements of an accepted channel are accepted. -/
theorem scanProps_accepted {p : Platform} {c : XmlNode} (h : ChannelAccepted p c) :
    ∀ a ∈ scanProps c, ScanAttrAccepted p a := by
  intro a ha
  obtain ⟨s, hs, has⟩ := List.mem_flatMap.mp ha
  exact (h.2 s (XmlNode.mem_childrenNamed.mp hs).1).2 (XmlNode.mem_childrenNamed.mp hs).2 a has

/-- **Every device of a built context** is the denotation of an accepted `<device>`
child of the root. -/
theorem built_device_source {p : Platform} {doc : XmlDoc} {ctx : Context}
    (h : iioCreateXmlContextHelper p doc = .ok ctx) :
    ∀ dev ∈ ctx.devices, ∃ d ∈ doc.root.childrenNamed "device",
      DeviceAccepted p d ∧ dev = denoteDevice p d := by
  rw [iioCreateXmlContextHelper_eq] at h
  split_ifs at h with hacc
  cases h
  intro dev hdev
  obtain ⟨d, hd, rfl⟩ := List.mem_map.mp hdev
  have hd' := XmlNode.mem_childrenNamed.mp hd
  exact ⟨d, hd, (hacc.2 d hd'.1).2 hd'.2, rfl⟩

/-- **Every channel of a built context** is the denotation of an accepted `<channel>`
child of a `<device>` child of the root. -/
theorem built_channel_source {p : Platform} {doc : XmlDoc} {ctx : Context}
    (h : iioCreateXmlContextHelper p doc = .ok ctx) :
    ∀ dev ∈ ctx.devices, ∀ chn ∈ dev.channels, ∃ d ∈ doc.root.childrenNamed "device",
      ∃ c ∈ d.childrenNamed "channel", ChannelAccepted p c ∧ chn = denoteChannel p c := by
  intro dev hdev chn hchn
  obtain ⟨d, hd, hdacc, rfl⟩ := built_device_source h dev hdev
  obtain ⟨c, hc, rfl⟩ := List.mem_map.mp hchn
  have hc' := XmlNode.mem_childrenNamed.mp hc
  exact ⟨d, hd, c, hc, (hdacc.2 c hc'.1).1 hc'.2, rfl⟩

end IioXml
