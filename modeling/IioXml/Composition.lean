import IioXml.Denotation

/-!
# How the builder composes

The loops over children dispatch on the child's name, and each kind of child feeds its own
list or its own fields; every failure is `-EINVAL`.  So the builder sees the children of
an element only kind by kind:

* `reorder_children_across_names` — **children of different names can be interleaved in
  any way**: the root, a `<device>` or a `<channel>` whose children have the same children
  of each name, in the same order, build the same (`SameByName`, generated by swapping
  two adjacent children of different names);
* `scan_elements_merge` — **adjacent `<scan-element>` children of a channel act as one**
  whose attributes are theirs in order, whatever their own children;
* `build_children_append` — **the root and a `<device>` build their children piece by
  piece**: split anywhere, the calls made to the registry hooks and the channels appended
  are those of the first half, then those of the second, and a failure is a failure of
  one half.
-/

namespace IioXml

/-- Two lists of children with the same children of each name, in the same order: one is
the other with children of different names moved past each other. -/
def SameByName (cs cs' : List XmlNode) : Prop :=
  ∀ k, cs.filter (·.name = k) = cs'.filter (·.name = k)

theorem SameByName.mem_iff {cs cs' : List XmlNode} (h : SameByName cs cs') (c : XmlNode) :
    c ∈ cs ↔ c ∈ cs' := by
  simpa using congrArg (c ∈ ·) (h c.name)

theorem SameByName.forall_iff {cs cs' : List XmlNode} (h : SameByName cs cs')
    (P : XmlNode → Prop) : (∀ c ∈ cs, P c) ↔ ∀ c ∈ cs', P c :=
  forall_congr' fun c => imp_congr_left (h.mem_iff c)

/-- Two adjacent children of different names can be swapped. -/
theorem SameByName.swap {c₁ c₂ : XmlNode} (h : c₁.name ≠ c₂.name) (l₁ l₂ : List XmlNode) :
    SameByName (l₁ ++ c₁ :: c₂ :: l₂) (l₁ ++ c₂ :: c₁ :: l₂) := by
  intro k
  simp only [List.filter_append, List.filter_cons]
  by_cases h₁ : c₁.name = k
  · have h₂ : ¬ c₂.name = k := fun h₂ => h (h₁.trans h₂.symm)
    simp [h₁, h₂]
  · by_cases h₂ : c₂.name = k <;> simp [h₁, h₂]

/-- **Children of different names can be interleaved in any way.** -/
theorem reorder_children_across_names (p : Platform) (nm : String) (props : List XmlAttr)
    (cs cs' : List XmlNode) (h : SameByName cs cs') :
    iioCreateXmlContextHelper p ⟨⟨nm, props, cs⟩⟩ =
        iioCreateXmlContextHelper p ⟨⟨nm, props, cs'⟩⟩ ∧
      createDevice p ⟨nm, props, cs⟩ = createDevice p ⟨nm, props, cs'⟩ ∧
      createChannel p ⟨nm, props, cs⟩ = createChannel p ⟨nm, props, cs'⟩ := by
  have hany (f : XmlNode → Bool) : cs.any f = cs'.any f :=
    Bool.eq_iff_iff.mpr (by simp only [List.any_eq_true, h.mem_iff])
  have hf : ∀ k, cs.filter (·.name = k) = cs'.filter (·.name = k) := h
  refine ⟨?_, ?_, ?_⟩
  · rw [iioCreateXmlContextHelper_eq, iioCreateXmlContextHelper_eq]
    have hacc : ContextAccepted p ⟨nm, props, cs⟩ ↔ ContextAccepted p ⟨nm, props, cs'⟩ :=
      and_congr_right fun _ => h.forall_iff _
    simp only [hacc, denoteContext, attrText, HasAttr, versionOf, XmlNode.childrenNamed, hf]
  · rw [createDevice_eq, createDevice_eq]
    have hacc : DeviceAccepted p ⟨nm, props, cs⟩ ↔ DeviceAccepted p ⟨nm, props, cs'⟩ :=
      and_congr_right fun _ => h.forall_iff _
    simp only [hacc, denoteDevice, attrText, XmlNode.childrenNamed, hf]
  · rw [createChannel_eq, createChannel_eq]
    have hacc : ChannelAccepted p ⟨nm, props, cs⟩ ↔ ChannelAccepted p ⟨nm, props, cs'⟩ :=
      and_congr_right fun _ => h.forall_iff _
    simp only [hacc, denoteChannel, scanProps, attrText, XmlNode.childrenNamed, hf, hany]

/-- A `<device>` and a `<context-attribute>` in either order. -/
theorem reorder_children_across_names_swap :
    SameByName [⟨"device", [⟨"id", .lit "d"⟩], []⟩, ⟨"context-attribute", [], []⟩]
        [⟨"context-attribute", [], []⟩, ⟨"device", [⟨"id", .lit "d"⟩], []⟩] ∧
      iioCreateXmlContextHelper ⟨.lp64, fun _ => ⟨0, 0, false⟩⟩
          ⟨⟨"context", [], [⟨"device", [⟨"id", .lit "d"⟩], []⟩, ⟨"context-attribute", [], []⟩]⟩⟩ =
        iioCreateXmlContextHelper ⟨.lp64, fun _ => ⟨0, 0, false⟩⟩
          ⟨⟨"context", [], [⟨"context-attribute", [], []⟩, ⟨"device", [⟨"id", .lit "d"⟩], []⟩]⟩⟩ ∧
      createDevice ⟨.lp64, fun _ => ⟨0, 0, false⟩⟩
          ⟨"context", [], [⟨"device", [⟨"id", .lit "d"⟩], []⟩, ⟨"context-attribute", [], []⟩]⟩ =
        createDevice ⟨.lp64, fun _ => ⟨0, 0, false⟩⟩
          ⟨"context", [], [⟨"context-attribute", [], []⟩, ⟨"device", [⟨"id", .lit "d"⟩], []⟩]⟩ ∧
      createChannel ⟨.lp64, fun _ => ⟨0, 0, false⟩⟩
          ⟨"context", [], [⟨"device", [⟨"id", .lit "d"⟩], []⟩, ⟨"context-attribute", [], []⟩]⟩ =
        createChannel ⟨.lp64, fun _ => ⟨0, 0, false⟩⟩
          ⟨"context", [], [⟨"context-attribute", [], []⟩, ⟨"device", [⟨"id", .lit "d"⟩], []⟩]⟩ :=
  ⟨SameByName.swap (by decide) [] [],
    reorder_children_across_names _ _ _ _ _ (SameByName.swap (by decide) [] [])⟩

/-- The checks of a `<scan-element>` child are the checks of its attributes. -/
theorem channelChildAccepted_scanElement (p : Platform) (ps : List XmlAttr)
    (cs : List XmlNode) :
    ChannelChildAccepted p ⟨"scan-element", ps, cs⟩ ↔ ∀ a ∈ ps, ScanAttrAccepted p a :=
  ⟨fun h => h.2 rfl, fun h => ⟨fun h' => absurd h' (show "scan-element" ≠ "attribute" by decide),
    fun _ => h⟩⟩

/-- **Adjacent `<scan-element>` children act as one**: the second continues from the
channel the first leaves, and a failure of either is a failure of the merged one. -/
theorem scan_elements_merge (p : Platform) (nm : String) (props ps₁ ps₂ : List XmlAttr)
    (l₁ l₂ cs₁ cs₂ cs : List XmlNode) :
    createChannel p
        ⟨nm, props, l₁ ++ ⟨"scan-element", ps₁, cs₁⟩ :: ⟨"scan-element", ps₂, cs₂⟩ :: l₂⟩ =
      createChannel p ⟨nm, props, l₁ ++ ⟨"scan-element", ps₁ ++ ps₂, cs⟩ :: l₂⟩ := by
  rw [createChannel_eq, createChannel_eq]
  have hacc : ChannelAccepted p
        ⟨nm, props, l₁ ++ ⟨"scan-element", ps₁, cs₁⟩ :: ⟨"scan-element", ps₂, cs₂⟩ :: l₂⟩ ↔
      ChannelAccepted p ⟨nm, props, l₁ ++ ⟨"scan-element", ps₁ ++ ps₂, cs⟩ :: l₂⟩ := by
    simp only [ChannelAccepted, HasAttr, List.forall_mem_append, List.forall_mem_cons,
      channelChildAccepted_scanElement, and_assoc]
  have hscan : scanProps
        ⟨nm, props, l₁ ++ ⟨"scan-element", ps₁, cs₁⟩ :: ⟨"scan-element", ps₂, cs₂⟩ :: l₂⟩ =
      scanProps ⟨nm, props, l₁ ++ ⟨"scan-element", ps₁ ++ ps₂, cs⟩ :: l₂⟩ := by
    simp only [scanProps, XmlNode.childrenNamed, List.filter_append, List.filter_cons,
      decide_True, if_true, List.flatMap_append, List.flatMap_cons, List.append_assoc]
  simp only [hacc, denoteChannel, hscan, XmlNode.childrenNamed, List.filter_append,
    List.filter_cons, List.any_append, List.any_cons]
  rfl

/-! ### Splitting the children -/

/-- Two checks made one after the other fail exactly where their conjunction fails. -/
theorem bind_ite_ok {α β γ : Type} {A B : Prop} [Decidable A] [Decidable B] (x : α) (y : β)
    (g : α → β → γ) (e : Int) :
    (do
        let a ← (if A then .ok x else .error e : Except Int α)
        let b ← (if B then .ok y else .error e : Except Int β)
        pure (g a b)) =
      (if A ∧ B then Except.ok (g x y) else .error e : Except Int γ) := by
  by_cases hA : A <;> by_cases hB : B <;> simp [hA, hB] <;> rfl

theorem contextAccepted_append (p : Platform) (nm : String) (props : List XmlAttr)
    (l₁ l₂ : List XmlNode) :
    ContextAccepted p ⟨nm, props, l₁ ++ l₂⟩ ↔
      ContextAccepted p ⟨nm, props, l₁⟩ ∧ ContextAccepted p ⟨nm, props, l₂⟩ := by
  simp only [ContextAccepted, List.forall_mem_append]
  exact ⟨fun ⟨h, h₁, h₂⟩ => ⟨⟨h, h₁⟩, h, h₂⟩, fun ⟨⟨h, h₁⟩, _, h₂⟩ => ⟨h, h₁, h₂⟩⟩

theorem deviceAccepted_append (p : Platform) (nm : String) (props : List XmlAttr)
    (l₁ l₂ : List XmlNode) :
    DeviceAccepted p ⟨nm, props, l₁ ++ l₂⟩ ↔
      DeviceAccepted p ⟨nm, props, l₁⟩ ∧ DeviceAccepted p ⟨nm, props, l₂⟩ := by
  simp only [DeviceAccepted, List.forall_mem_append]
  exact ⟨fun ⟨h, h₁, h₂⟩ => ⟨⟨h, h₁⟩, h, h₂⟩, fun ⟨⟨h, h₁⟩, _, h₂⟩ => ⟨h, h₁, h₂⟩⟩

/-- The root's fields come from its attributes; its lists, from its children in order. -/
theorem denoteContext_append (p : Platform) (nm : String) (props : List XmlAttr)
    (l₁ l₂ : List XmlNode) :
    denoteContext p ⟨nm, props, l₁ ++ l₂⟩ =
      let c₁ := denoteContext p ⟨nm, props, l₁⟩
      let c₂ := denoteContext p ⟨nm, props, l₂⟩
      { c₁ with attrs := c₁.attrs ++ c₂.attrs, devices := c₁.devices ++ c₂.devices } := by
  simp only [denoteContext, XmlNode.childrenNamed, List.filter_append, List.map_append]
  rfl

theorem denoteDevice_append (p : Platform) (nm : String) (props : List XmlAttr)
    (l₁ l₂ : List XmlNode) :
    denoteDevice p ⟨nm, props, l₁ ++ l₂⟩ =
      let d₁ := denoteDevice p ⟨nm, props, l₁⟩
      let d₂ := denoteDevice p ⟨nm, props, l₂⟩
      { d₁ with
        attrs := d₁.attrs ++ d₂.attrs
        bufferAttrs := d₁.bufferAttrs ++ d₂.bufferAttrs
        debugAttrs := d₁.debugAttrs ++ d₂.debugAttrs
        channels := d₁.channels ++ d₂.channels } := by
  simp only [denoteDevice, XmlNode.childrenNamed, List.filter_append, List.map_append]
  rfl

/-- **The root and a `<device>` build their children piece by piece**: with the children
split anywhere, the element builds as its two halves do: the logs of the calls to
`iio_context_add_attr`, `iio_context_add_device` and `add_iio_dev_attr`, and the channels
appended, are those of the first half followed by those of the second, and it fails
exactly when one half fails. -/
theorem build_children_append (p : Platform) (nm : String) (props : List XmlAttr)
    (l₁ l₂ : List XmlNode) :
    iioCreateXmlContextHelper p ⟨⟨nm, props, l₁ ++ l₂⟩⟩ =
        (do
          let c₁ ← iioCreateXmlContextHelper p ⟨⟨nm, props, l₁⟩⟩
          let c₂ ← iioCreateXmlContextHelper p ⟨⟨nm, props, l₂⟩⟩
          pure { c₁ with attrs := c₁.attrs ++ c₂.attrs, devices := c₁.devices ++ c₂.devices }) ∧
      createDevice p ⟨nm, props, l₁ ++ l₂⟩ =
        (do
          let d₁ ← createDevice p ⟨nm, props, l₁⟩
          let d₂ ← createDevice p ⟨nm, props, l₂⟩
          pure { d₁ with
            attrs := d₁.attrs ++ d₂.attrs
            bufferAttrs := d₁.bufferAttrs ++ d₂.bufferAttrs
            debugAttrs := d₁.debugAttrs ++ d₂.debugAttrs
            channels := d₁.channels ++ d₂.channels }) := by
  constructor
  · simp only [iioCreateXmlContextHelper_eq, contextAccepted_append, denoteContext_append]
    rw [bind_ite_ok]
  · simp only [createDevice_eq, deviceAccepted_append, denoteDevice_append]
    rw [bind_ite_ok]

end IioXml
