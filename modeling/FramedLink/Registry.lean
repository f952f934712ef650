import FramedLink.Error
import FramedLink.Frame

namespace FramedLink

/-- A codec: the type id of the messages it handles, and how it writes, reads, compares and
hashes them. Codecs are supplied by the user of the library. -/
structure Codec where
  id : Int32
  encode : Option Message → Except BodyError Bytes
  decode : Bytes → Except BodyError Message
  equal : Option Message → Option Message → Bool
  hash : Option Message → UInt64

/-- No body reads as a control signal. -/
def Codec.NoSignal (c : Codec) : Prop := ∀ body s, c.decode body ≠ .ok (.signal s)

/-- The codecs an endpoint knows, in the order they were given. -/
structure Registry where
  codecs : List Codec

namespace Registry

/-- The registry with no codecs. -/
def empty : Registry := ⟨[]⟩

/-- Whether a type id may be registered: the null and control ids may not. -/
def reserved (id : Int32) : Bool := id == nullTypeId || id == controlTypeId

/-- The codec for a type id. -/
def find? (r : Registry) (id : Int32) : Option Codec := r.codecs.find? (·.id == id)

/-- Adds codecs one by one, refusing the first whose id is reserved or already taken. -/
def addAll (r : Registry) : List Codec → Except Error Registry
  | [] => .ok r
  | c :: cs =>
    if reserved c.id then .error (.reservedType c.id)
    else if (r.find? c.id).isSome then .error (.duplicateType c.id)
    else addAll ⟨r.codecs ++ [c]⟩ cs

/-- A registry of the given codecs. -/
def build (cs : List Codec) : Except Error Registry := empty.addAll cs

/-- None of the registry's codecs reads a body as a control signal. -/
def NoSignal (r : Registry) : Prop := ∀ c ∈ r.codecs, c.NoSignal

/-- The registered type ids, ascending. -/
def ids (r : Registry) : List Int32 := (r.codecs.map (·.id)).mergeSort (· ≤ ·)

/-- The payload of a message. -/
def marshal (r : Registry) : Option Message → Except Error Bytes
  | none => .error .nilMessage
  | some (.signal s) => .error (.signalNotSendable s)
  | some m =>
    match r.find? m.typeId with
    | none => .error (.unknownType m.typeId)
    | some c =>
      match c.encode (some m) with
      | .error e => .error (.encodeFailed m.typeId e)
      | .ok body => .ok (Bytes.ofInt32 m.typeId ++ body)

/-- The message a payload holds. -/
def unmarshal (r : Registry) (payload : Bytes) : Except Error Message :=
  if payload.length < 4 then .error (.truncatedPayload payload.length)
  else
    let id := Bytes.toInt32 (payload.take 4)
    if id = nullTypeId then .error .nullMessage
    else
      match r.find? id with
      | none => .error (.unknownType id)
      | some c =>
        match c.decode (payload.drop 4) with
        | .error e => .error (.decodeFailed id e)
        | .ok m => .ok m

/-- The messages that payloads hold, in order, up to the first payload that does not read,
and the failure of that payload. -/
def unmarshalAll (r : Registry) : List Bytes → List Message × Option Error
  | [] => ([], none)
  | p :: ps =>
    match r.unmarshal p with
    | .error e => ([], some e)
    | .ok m =>
      let rest := r.unmarshalAll ps
      (m :: rest.1, rest.2)

/-- The frame that carries a message. -/
def encodeFrame (r : Registry) (m : Option Message) : Except Error Bytes := do
  let payload ← r.marshal m
  Frame.encode payload

/-- Equality of messages: two absent messages are equal; when a signal is involved, equal
values; otherwise the same registered type id and the codec's judgement. -/
def equal (r : Registry) : Option Message → Option Message → Bool
  | none, none => true
  | none, some _ | some _, none => false
  | some a, some b =>
    match a, b with
    | .signal s, .signal t => s == t
    | .signal _, _ | _, .signal _ => false
    | a, b =>
      if a.typeId != b.typeId then false
      else
        match r.find? a.typeId with
        | none => false
        | some c => c.equal (some a) (some b)

/-- The hash of a message: a signal's own hash, the codec's hash for a registered type, and
0 otherwise. -/
def hash (r : Registry) : Option Message → UInt64
  | some (.signal s) => s.hash
  | none => 0
  | some m =>
    match r.find? m.typeId with
    | none => 0
    | some c => c.hash (some m)

end Registry
end FramedLink
