import NakamaCpp.Lib.CInterop

/-!
# Fields of protocol buffers messages

A serialized message is a sequence of fields: a tag with a number and a wire type, and a varint,
eight or four bytes, or a length and as many bytes.  The code generated for a message type deals
with fields; what makes bytes of them, and fields of bytes, is the library that it is linked with,
a `Format`.

    fields that fit are read as they were written                                 (read_write)
    read x = some fs  →  read (x ++ y) = fs and those of y                        (read_append)
-/

namespace Wire

abbrev Bytes := List UInt8

/-! ## Fields -/

/-- What comes after a tag. -/
inductive Payload
  | varint (n : UInt64)
  | fixed64 (n : UInt64)
  | bytes (b : Bytes)
  | fixed32 (n : UInt32)
deriving DecidableEq, Repr

structure Field where
  number : Nat
  payload : Payload
deriving DecidableEq, Repr

/-- A length is an `int`. -/
def Payload.Fits : Payload → Prop
  | .bytes b => b.length < 2 ^ 31
  | _ => True

structure Field.Fits (f : Field) : Prop where
  pos : 0 < f.number
  lt : f.number < 2 ^ 29
  payload : f.payload.Fits

/-- The bytes of a payload. -/
def Payload.size (varintSize : UInt64 → Nat) (lengthDelimitedSize : Nat → Nat) : Payload → Nat
  | .varint n => varintSize n
  | .fixed64 _ => 8
  | .bytes b => lengthDelimitedSize b.length
  | .fixed32 _ => 4

/-- The bytes of a tag, a constant in the generated code. -/
def tagSize (number : Nat) : Nat :=
  if number < 2 ^ 4 then 1
  else if number < 2 ^ 11 then 2
  else if number < 2 ^ 18 then 3
  else if number < 2 ^ 25 then 4
  else 5

/-! ## The library -/

/-- How the numbers of a type stand in a varint. -/
structure Scalar (β : Type) where
  encode : β → UInt64
  decode : UInt64 → β
  decode_encode : ∀ b, decode (encode b) = b

/-- What generated code uses of `WireFormatLite` and `CodedInputStream`. -/
structure Format where
  bool : Scalar Bool
  int32 : Scalar Int32
  int64 : Scalar Int64
  /-- a text, if it is in UTF-8 -/
  readString : Bytes → Option String
  /-- how deep messages may be in a message -/
  recursionLimit : Nat
  /-- a field with its tag; and the sizes of which `ByteSizeLong` is the sum -/
  write : Field → Bytes
  varintSize : UInt64 → Nat
  lengthDelimitedSize : Nat → Nat
  /-- the fields of a message in which messages may still be so deep; groups, which no message has,
  are skipped -/
  read : Nat → Bytes → Option (List Field)
  /-- the order in which `Map` gives its entries -/
  entries : {β : Type} → CInterop.Map β → List (String × β)
  readString_toUTF8 : ∀ s : String, readString s.toUTF8.data.toList = some s
  length_write : ∀ {f}, f.Fits →
    (write f).length = tagSize f.number + f.payload.size varintSize lengthDelimitedSize
  le_lengthDelimitedSize : ∀ n, n ≤ lengthDelimitedSize n
  read_write : ∀ {depth fs}, (∀ f ∈ fs, f.Fits) → (fs.flatMap write).length < 2 ^ 31 →
    read depth (fs.flatMap write) = some fs
  read_append : ∀ {depth x y fs}, read depth x = some fs → (x ++ y).length < 2 ^ 31 →
    read depth (x ++ y) = (read depth y).map fun fs' => fs ++ fs'
  entries_perm : ∀ {β : Type} (m : CInterop.Map β), (entries m).Perm m.toList

namespace Format

variable (F : Format)

def payloadSize (p : Payload) : Nat := p.size F.varintSize F.lengthDelimitedSize

def writeFields (fs : List Field) : Bytes := fs.flatMap F.write

theorem writeFields_append (fs gs : List Field) :
    F.writeFields (fs ++ gs) = F.writeFields fs ++ F.writeFields gs := List.flatMap_append

end Format

end Wire
