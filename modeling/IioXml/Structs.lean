import IioXml.Strtol

/-!
# The structures the builder fills, and the functions it calls outside `xml.c`

`struct iio_context`, `struct iio_device` and `struct iio_channel` come from
`iio-private.h`; `struct iio_data_format` from the public header.  Only the fields the
builder writes are kept.  `unsigned int` fields are `BitVec 32`, `long` fields and
`long` results are `Int` values in the range of the target's `long`, and `double` is
`Float`.

The builder calls functions defined in files of libiio that are not part of this model
(`context.c`, `device.c`, `channel.c`).  They are modelled from their documented
behaviour where it fixes the result the builder sees: every one of them succeeds, context
creation yields an empty context, and the two finalisation hooks change none of the
modelled fields.  What the registry hooks store is kept as a log: `Context.attrs`,
`Context.devices` and the three registries of a `Device` are the calls made to
`iio_context_add_attr`, `iio_context_add_device` and `add_iio_dev_attr`, in call order.
The registries the spec describes keep the first call of each name and drop a repeated
one; that is a reading of these logs.  Allocation is taken to succeed.
-/

namespace IioXml

/-- `EINVAL`. -/
def EINVAL : Int := 22

/-- `ENOENT`. -/
def ENOENT : Int := 2

/-- What a call of `strtof` yields: the value, how far `*endptr` lies past `nptr`, and
whether `errno` was set to `ERANGE`. -/
structure StrtofResult where
  value : Float
  consumed : Nat
  erange : Bool

/-- The C implementation the code is built for: the data model, and `strtof`, of which
only the result is modelled. -/
structure Platform where
  abi : Abi
  strtof : List Char → StrtofResult

/-- `struct iio_data_format`. -/
@[ext]
structure DataFormat where
  length : BitVec 32
  bits : BitVec 32
  shift : BitVec 32
  isSigned : Bool
  isFullyDefined : Bool
  isBe : Bool
  withScale : Bool
  scale : Float
  «repeat» : BitVec 32

/-- The format of a channel fresh from `zalloc`. -/
def DataFormat.zero : DataFormat := ⟨0, 0, 0, false, false, false, false, 0, 0⟩

/-- `struct iio_channel_attr`. -/
structure ChannelAttr where
  name : CStr
  filename : CStr

/-- `struct iio_channel`, once its `id` has been read. -/
@[ext]
structure Channel where
  isOutput : Bool
  isScanElement : Bool
  format : DataFormat
  name : Option CStr
  id : CStr
  index : Int
  attrs : List ChannelAttr

/-- `enum iio_attr_type`. -/
inductive IioAttrType
  | device
  | debug
  | buffer
deriving DecidableEq

/-- Which of a device's three `struct iio_dev_attrs` a pointer designates. -/
inductive DevAttrsField
  | attrs
  | bufferAttrs
  | debugAttrs
deriving DecidableEq

/-- `struct iio_device`, once its `id` has been read.  Each attribute registry is the
log of the `add_iio_dev_attr` calls made on it: attribute name and type suffix. -/
@[ext]
structure Device where
  name : Option CStr
  id : CStr
  label : Option CStr
  attrs : List (CStr × String)
  bufferAttrs : List (CStr × String)
  debugAttrs : List (CStr × String)
  channels : List Channel

/-- `struct iio_context`.  `attrs` and `devices` are the logs of the
`iio_context_add_attr` and `iio_context_add_device` calls made on it. -/
@[ext]
structure Context where
  description : Option CStr
  major : BitVec 32
  minor : BitVec 32
  gitTag : Option CStr
  attrs : List (CStr × CStr)
  devices : List Device

/-- Modelled from the spec: `add_iio_dev_attr` (`device.c`) succeeds, a name already
present being a no-op success.  The call is appended, with its type suffix, to the log of
the registry its `attrs` argument designates. -/
def addIioDevAttr (dev : Device) (registry : DevAttrsField) (attr : CStr) (type : String) :
    Except Int Device :=
  .ok <| match registry with
    | .attrs => { dev with attrs := dev.attrs ++ [(attr, type)] }
    | .bufferAttrs => { dev with bufferAttrs := dev.bufferAttrs ++ [(attr, type)] }
    | .debugAttrs => { dev with debugAttrs := dev.debugAttrs ++ [(attr, type)] }

/-- Modelled from the spec: `iio_context_create_from_backend` (`context.c`) makes an
empty context with the given description. -/
def iioContextCreateFromBackend (description : Option CStr) : Context :=
  ⟨description, 0, 0, none, [], []⟩

/-- Modelled from the spec: `iio_context_add_attr` (`context.c`) succeeds, a key already
present being a no-op success.  The pair is appended to the log of its calls. -/
def iioContextAddAttr (ctx : Context) (key value : CStr) : Except Int Context :=
  .ok { ctx with attrs := ctx.attrs ++ [(key, value)] }

/-- Modelled from the spec: `iio_context_add_device` (`context.c`) appends the device and
succeeds. -/
def iioContextAddDevice (ctx : Context) (dev : Device) : Except Int Context :=
  .ok { ctx with devices := ctx.devices ++ [dev] }

/-- Modelled from the spec: `iio_context_init` (`context.c`) wires cross-references
that are not modelled, and succeeds. -/
def iioContextInit (ctx : Context) : Except Int Context := .ok ctx

/-- Modelled from the spec: `iio_channel_init_finalize` (`channel.c`) derives the
channel's type and modifier from its id, fields that are not modelled. -/
def iioChannelInitFinalize (chn : Channel) : Channel := chn

end IioXml
