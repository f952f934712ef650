import FramedLink.Registry
import FramedLink.Utf8

namespace FramedLink

/-- The codec for text messages of one type id. -/
structure TextCodec where
  id : Int32
deriving DecidableEq, Repr

namespace TextCodec

/-- The body of a text message of the codec's own id. -/
def encode (c : TextCodec) : Option Message → Except BodyError Bytes
  | some (.text id body) =>
    if id = c.id then .ok (Bytes.encodeLE 4 body.length ++ body)
    else .error (.idMismatch c.id id)
  | m => .error (.notText c.id m)

/-- The text message that a body holds, with the codec's own id. -/
def decode (c : TextCodec) (body : Bytes) : Except BodyError Message :=
  if body.length < 4 then .error .short
  else
    let size := Bytes.toInt32 (body.take 4)
    let rest := body.drop 4
    if size < 0 then .error (.negativeLength size)
    else if size.toInt > rest.length then .error (.truncated size.toNatClampNeg rest.length)
    else if size.toInt < rest.length then .error (.trailing (rest.length - size.toNatClampNeg))
    else if !Utf8.valid rest then .error .invalidUtf8
    else .ok (.text c.id rest)

/-- Two messages are equal for the codec when both are text with the same id and body. -/
def equal (_c : TextCodec) : Option Message → Option Message → Bool
  | some (.text i a), some (.text j b) => i == j && a == b
  | _, _ => false

/-- 64-bit FNV-1a. -/
def fnv1a (bs : Bytes) : UInt64 :=
  bs.foldl (fun h b => (h ^^^ b.toUInt64) * 1099511628211) 14695981039346656037

/-- The hash of a text message: FNV-1a over its id's bytes and its body; 0 for anything else. -/
def hash (_c : TextCodec) : Option Message → UInt64
  | some (.text id body) => fnv1a (Bytes.ofInt32 id ++ body)
  | _ => 0

/-- The text codec as a codec of a registry. -/
def codec (c : TextCodec) : Codec := ⟨c.id, c.encode, c.decode, c.equal, c.hash⟩

@[simp] theorem codec_id (c : TextCodec) : c.codec.id = c.id := rfl
@[simp] theorem codec_encode (c : TextCodec) : c.codec.encode = c.encode := rfl
@[simp] theorem codec_decode (c : TextCodec) : c.codec.decode = c.decode := rfl
@[simp] theorem codec_equal (c : TextCodec) : c.codec.equal = c.equal := rfl
@[simp] theorem codec_hash (c : TextCodec) : c.codec.hash = c.hash := rfl

end TextCodec

/-- The registry of the given text codecs, in order. -/
def Registry.ofText (cs : List TextCodec) : Registry := ⟨cs.map TextCodec.codec⟩

end FramedLink
