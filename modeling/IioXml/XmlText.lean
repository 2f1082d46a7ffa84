import IioXml.Builder

/-!
# The XML text

The two ends of the model.  `xml_create_context` and `xml_create_context_mem` (`xml.c`)
read an XML text with libxml2 and build the context of its document;
`iio_update_xml_indexes` (`iio-private.h`) is the cursor with which the printers write a
context back out as XML text, or only measure it.

libxml2 is outside the repository: its two readers are parameters (`XmlReader`), and a
document they return is built by `iioCreateXmlContextHelper`.

* `xmlCreateContext_eq` — **a text is read as the document itself exactly when it begins
  with `XML_HEADER`**, and is then built as `xml_create_context_mem` builds it; any other
  text, another XML declaration included, is the name of a file;
* `runXmlIndexes_spec` — **over any sequence of printed lengths** the cursor counts every
  length in `alen`; into a buffer it advances `ptr` and shrinks `len` by the same amount,
  so `ptr + len` stays the end of the buffer, and when only measuring it leaves both.
-/

namespace IioXml

/-- `XML_HEADER`. -/
def xmlHeader : CStr := .lit "<?xml version=\"1.0\" encoding=\"utf-8\"?>"

/-- `(int) n` for a `size_t` `n`: two's complement wrap-around to 32 bits. -/
def toCInt (n : Nat) : Int := (n : Int).bmod (2 ^ 32)

/-- libxml2's readers: `xmlReadMemory` on a buffer and an `int` size, `xmlReadFile` on a
path; `none` is a NULL document. -/
structure XmlReader where
  readMemory : List Char → Int → Option XmlDoc
  readFile : List Char → Option XmlDoc

/-- `xml_create_context_mem`. -/
def xmlCreateContextMem (r : XmlReader) (p : Platform) (xml : List Char) (len : Nat) :
    Except Int Context :=
  match r.readMemory xml (toCInt len) with
  | none => .error (-EINVAL)
  | some doc => iioCreateXmlContextHelper p doc

/-- `xml_create_context`: `sizeof(XML_HEADER) - 1` is the length of `XML_HEADER`
without its terminator. -/
def xmlCreateContext (r : XmlReader) (p : Platform) (arg : CStr) : Except Int Context :=
  let doc :=
    if strncmp arg.chars xmlHeader.chars xmlHeader.chars.length = 0 then
      r.readMemory arg.chars (toCInt arg.chars.length)
    else r.readFile arg.chars
  match doc with
  | none => .error (-EINVAL)
  | some doc => iioCreateXmlContextHelper p doc

/-- The header test of `xml_create_context` is a prefix test. -/
theorem strncmp_xmlHeader_eq_zero_iff (arg : CStr) :
    strncmp arg.chars xmlHeader.chars xmlHeader.chars.length = 0 ↔
      xmlHeader.chars <+: arg.chars := by
  rw [strncmp_eq_zero_iff arg.bytes xmlHeader.bytes, List.take_length, List.prefix_iff_eq_take,
    eq_comm]

/-- `xml_clone`: `ctx->xml`, the text the context was read from, is written by
`iio_context_init` outside `src/`, so it is a parameter; `ctx->params` is the platform. -/
def xmlClone (r : XmlReader) (p : Platform) (xml : CStr) : Except Int Context :=
  xmlCreateContextMem r p xml.chars xml.chars.length

theorem xmlCreateContext_eq (r : XmlReader) (p : Platform) (arg : CStr) :
    xmlCreateContext r p arg =
      if xmlHeader.chars <+: arg.chars then xmlCreateContextMem r p arg.chars arg.chars.length
      else match r.readFile arg.chars with
        | none => .error (-EINVAL)
        | some doc => iioCreateXmlContextHelper p doc := by
  unfold xmlCreateContext xmlCreateContextMem
  simp only [strncmp_xmlHeader_eq_zero_iff]
  split_ifs <;> rfl

/-! ### The printers' cursor -/

/-- Where a printer stands: the position it writes at in its buffer, or `none` when it
was given no buffer and only measures; the room `len` left; the length `alen` printed or
needed so far. -/
structure XmlCursor where
  ptr : Option Int
  len : Int
  alen : Int
deriving DecidableEq

/-- `iio_update_xml_indexes(ret, &ptr, &len, &alen)`: `ssize_t` arithmetic, which the
lengths of a printed context keep far from overflow. -/
def iioUpdateXmlIndexes (ret : Int) (c : XmlCursor) : XmlCursor :=
  match c.ptr with
  | some ptr => ⟨some (ptr + ret), c.len - ret, c.alen + ret⟩
  | none => { c with alen := c.alen + ret }

/-- A printer's calls, one per length its `snprintf`s returned. -/
def runXmlIndexes (c : XmlCursor) (rets : List Int) : XmlCursor :=
  rets.foldl (fun c ret => iioUpdateXmlIndexes ret c) c

/-- One call: `alen` counts the length; `ptr` and `len` move only with a buffer. -/
theorem iioUpdateXmlIndexes_spec (ret : Int) (c : XmlCursor) :
    (iioUpdateXmlIndexes ret c).alen = c.alen + ret ∧
      (iioUpdateXmlIndexes ret c).ptr = c.ptr.map (· + ret) ∧
      (iioUpdateXmlIndexes ret c).len = (if c.ptr.isSome then c.len - ret else c.len) := by
  unfold iioUpdateXmlIndexes
  cases h : c.ptr <;> simp [h]

theorem runXmlIndexes_spec (c : XmlCursor) (rets : List Int) :
    (runXmlIndexes c rets).alen = c.alen + rets.sum ∧
      (runXmlIndexes c rets).ptr = c.ptr.map (· + rets.sum) ∧
      (runXmlIndexes c rets).len = (if c.ptr.isSome then c.len - rets.sum else c.len) := by
  induction rets generalizing c with
  | nil => simp [runXmlIndexes]
  | cons ret rets ih =>
    have hrun : runXmlIndexes c (ret :: rets) = runXmlIndexes (iioUpdateXmlIndexes ret c) rets :=
      rfl
    obtain ⟨h1, h2, h3⟩ := ih (iioUpdateXmlIndexes ret c)
    obtain ⟨s1, s2, s3⟩ := iioUpdateXmlIndexes_spec ret c
    rw [hrun, h1, h2, h3, s1, s2, s3, Option.map_map, Option.isSome_map', List.sum_cons]
    exact ⟨by ring, by simp only [Function.comp_def, add_assoc], by split_ifs <;> ring⟩

end IioXml
