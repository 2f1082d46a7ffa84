import IioXml.ScanElement

/-!
# The builder

`iio_create_xml_context_helper` and the functions it calls (`xml.c`), as the code runs
them on a document tree, with allocation taken to succeed and the hooks of
`IioXml.Structs`.  Every function returns the object it builds or a negative error
code; logging is not modelled.

Every loop over attributes sets local variables or fields, each under its own name, and
has no other effect; it is written as one `assignFromAttrs` per variable.  The loops over
children are `List.foldlM`s whose step dispatches on the child's name, as the `if` chains
of the code do, and stop at the first error.
-/

namespace IioXml

/-- `add_attr_to_channel`: the attribute's `name` is required, its `filename` defaults
to the name. -/
def addAttrToChannel (chn : Channel) (n : XmlNode) : Except Int Channel :=
  let name := assignFromAttrs n.properties "name" (some ·.content) none
  let filename := assignFromAttrs n.properties "filename" (some ·.content) none
  match name with
  | none => .error (-EINVAL)
  | some name => .ok { chn with attrs := chn.attrs ++ [⟨name, filename.getD name⟩] }

/-- `add_attr_to_device`: the attribute's `name` is required; the registry and the type
suffix come from the attribute type. -/
def addAttrToDevice (dev : Device) (n : XmlNode) (type : IioAttrType) : Except Int Device :=
  match assignFromAttrs n.properties "name" (some ·.content) none with
  | none => .error (-EINVAL)
  | some name =>
    match type with
    | .debug => addIioDevAttr dev .debugAttrs name " debug"
    | .device => addIioDevAttr dev .attrs name ""
    | .buffer => addIioDevAttr dev .bufferAttrs name " buffer"

/-- One pass of `create_channel`'s loop over the children of a `<channel>`. -/
def createChannelChild (p : Platform) (chn : Channel) (n : XmlNode) : Except Int Channel :=
  if n.name = "attribute" then addAttrToChannel chn n
  else if n.name = "scan-element" then
    let (err, chn) := setupScanElement p { chn with isScanElement := true } n
    if err < 0 then .error err else .ok chn
  else .ok chn

/-- `is_output` after `create_channel`'s loop over the attributes: set by a `type`
attribute whose text is `output`. -/
def channelIsOutput (props : List XmlAttr) : Bool :=
  props.foldl (fun o a =>
    if a.name = "type" then (if a.content.chars = "output".toList then true else o) else o) false

/-- `create_channel`: the channel starts zeroed with index `-ENOENT`; its `id` is
required. -/
def createChannel (p : Platform) (n : XmlNode) : Except Int Channel :=
  let name := assignFromAttrs n.properties "name" (some ·.content) none
  let id := assignFromAttrs n.properties "id" (some ·.content) none
  match id with
  | none => .error (-EINVAL)
  | some id =>
    (n.children.foldlM (createChannelChild p)
      ⟨channelIsOutput n.properties, false, DataFormat.zero, name, id, -ENOENT, []⟩).map
        iioChannelInitFinalize

/-- One pass of `create_device`'s loop over the children of a `<device>`. -/
def createDeviceChild (p : Platform) (dev : Device) (n : XmlNode) : Except Int Device :=
  if n.name = "channel" then
    (createChannel p n).map fun chn => { dev with channels := dev.channels ++ [chn] }
  else if n.name = "attribute" then addAttrToDevice dev n .device
  else if n.name = "debug-attribute" then addAttrToDevice dev n .debug
  else if n.name = "buffer-attribute" then addAttrToDevice dev n .buffer
  else .ok dev

/-- `create_device`: its `id` is required. -/
def createDevice (p : Platform) (n : XmlNode) : Except Int Device :=
  let name := assignFromAttrs n.properties "name" (some ·.content) none
  let label := assignFromAttrs n.properties "label" (some ·.content) none
  let id := assignFromAttrs n.properties "id" (some ·.content) none
  match id with
  | none => .error (-EINVAL)
  | some id => n.children.foldlM (createDeviceChild p) ⟨name, id, label, [], [], [], []⟩

/-- `parse_context_attr`: both `name` and `value` are required. -/
def parseContextAttr (ctx : Context) (n : XmlNode) : Except Int Context :=
  match assignFromAttrs n.properties "name" (some ·.content) none,
      assignFromAttrs n.properties "value" (some ·.content) none with
  | some name, some value => iioContextAddAttr ctx name value
  | _, _ => .error (-EINVAL)

/-- One pass of `iio_populate_xml_context_helper`'s loop over the root's children. -/
def populateChild (p : Platform) (ctx : Context) (n : XmlNode) : Except Int Context :=
  if n.name = "context-attribute" then parseContextAttr ctx n
  else if n.name ≠ "device" then .ok ctx
  else do
    let dev ← createDevice p n
    iioContextAddDevice ctx dev

/-- `iio_populate_xml_context_helper`. -/
def iioPopulateXmlContextHelper (p : Platform) (ctx : Context) (root : XmlNode) :
    Except Int Context := do
  let ctx ← root.children.foldlM (populateChild p) ctx
  iioContextInit ctx

/-- `iio_create_xml_context_helper`.  The root must be a `<context>`; `major` and `minor`
are `long`s read by `strtol` in base 10 (a text it does not read to the end is only
warned about) and stored into the `unsigned int` fields, together with the git tag, only
when a `version-git` attribute is present. -/
def iioCreateXmlContextHelper (p : Platform) (doc : XmlDoc) : Except Int Context :=
  let root := xmlDocGetRootElement doc
  if root.name ≠ "context" then .error (-EINVAL)
  else
    let description := assignFromAttrs root.properties "description" (some ·.content) none
    let major := assignFromAttrs root.properties "version-major"
      (fun a => (strtol p.abi a.content.chars 10).value) 0
    let minor := assignFromAttrs root.properties "version-minor"
      (fun a => (strtol p.abi a.content.chars 10).value) 0
    let gitTag := assignFromAttrs root.properties "version-git" (some ·.content) none
    let ctx := iioContextCreateFromBackend description
    let ctx := match gitTag with
      | some tag => { ctx with
          major := toUnsignedInt major
          minor := toUnsignedInt minor
          gitTag := some tag }
      | none => ctx
    iioPopulateXmlContextHelper p ctx root

end IioXml
