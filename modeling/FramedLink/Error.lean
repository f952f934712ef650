import FramedLink.Message
import FramedLink.ConnId

namespace FramedLink

/-- The named causes that callers test failures for. -/
inductive Fault where
  | unknownType | duplicateType | reservedType | truncatedPayload | nullMessage
  | signalNotSendable | nilMessage | payloadTooLarge
  | invalidRegistry | invalidStream | invalidPolicy | connectionClosed | endpointDisposed
  | serverClosed | unknownConnection | duplicateConnection | invalidConnectionId
  | shortBody | negativeLength | trailingBytes | invalidUtf8
  | canceled | deadlineExceeded | closedPipe
deriving DecidableEq, Repr

/-- Why a text body could not be read or written. -/
inductive BodyError where
  | short
  | negativeLength (n : Int32)
  | truncated (want got : Nat)
  | trailing (extra : Nat)
  | invalidUtf8
  | notText (codec : Int32) (m : Option Message)
  | idMismatch (codec id : Int32)
deriving DecidableEq, Repr

namespace BodyError

/-- The text of a body error. -/
def message : BodyError → String
  | short => "text: short body"
  | negativeLength n => toString n ++ ": text: negative string length"
  | truncated want got =>
    "want " ++ toString want ++ " bytes, have " ++ toString got ++ ": text: short body"
  | trailing extra => toString extra ++ " bytes: text: trailing bytes after string"
  | invalidUtf8 => "text: invalid utf-8"
  | notText codec m =>
    "text: codec " ++ toString codec ++ " cannot encode " ++ Message.typeName m
  | idMismatch codec id =>
    "text: codec " ++ toString codec ++ " cannot encode type id " ++ toString id

/-- The named cause of a body error, if it has one. -/
def fault? : BodyError → Option Fault
  | short | truncated _ _ => some .shortBody
  | negativeLength _ => some .negativeLength
  | trailing _ => some .trailingBytes
  | invalidUtf8 => some .invalidUtf8
  | notText _ _ | idMismatch _ _ => none

end BodyError

/-- A failure of a library operation. -/
inductive Error where
  | reservedType (id : Int32)
  | duplicateType (id : Int32)
  | nilMessage
  | signalNotSendable (s : Signal)
  | unknownType (id : Int32)
  | encodeFailed (id : Int32) (e : BodyError)
  | truncatedPayload (size : Nat)
  | nullMessage
  | decodeFailed (id : Int32) (e : BodyError)
  | payloadTooLarge (size : Nat)
  | invalidRegistry
  | invalidStream
  | invalidPolicy
  | connectionClosed
  | endpointDisposed
  | serverClosed
  | unknownConnection (id : ConnId)
  | duplicateConnection (id : ConnId)
  | invalidConnectionId
  | atConnection (id : ConnId) (e : Error)
  | several (es : List Error)
  | canceled
  | deadlineExceeded
  | closedPipe
  | stream (text : String)
deriving Repr

/-- How a failure presents itself to a caller. -/
inductive Kind where
  | fault (f : Fault)
  | stream
  | plain
  | several (texts : List String)
deriving DecidableEq, Repr

namespace Error

/-- The text of a failure. -/
def message : Error → String
  | reservedType id => "type id " ++ toString id ++ ": reserved message type"
  | duplicateType id => "type id " ++ toString id ++ ": duplicate message type"
  | nilMessage => "nil message"
  | signalNotSendable s => s.label ++ ": sentinel messages cannot be sent"
  | unknownType id => "type id " ++ toString id ++ ": unknown message type"
  | encodeFailed id e => "encode type id " ++ toString id ++ ": " ++ e.message
  | truncatedPayload n => toString n ++ " bytes: truncated payload"
  | nullMessage => "null message at top level"
  | decodeFailed id e => "decode type id " ++ toString id ++ ": " ++ e.message
  | payloadTooLarge n => toString n ++ " bytes exceeds 65535: payload too large"
  | invalidRegistry => "invalid codec registry"
  | invalidStream => "invalid stream"
  | invalidPolicy => "invalid channel policy"
  | connectionClosed => "connection closed"
  | endpointDisposed => "endpoint disposed"
  | serverClosed => "server closed"
  | unknownConnection id => id.text ++ ": unknown connection"
  | duplicateConnection id => id.text ++ ": duplicate connection"
  | invalidConnectionId => "invalid connection id"
  | atConnection id e => id.text ++ ": " ++ e.message
  | several es => "; ".intercalate (es.attach.map fun ⟨e, _⟩ => e.message)
  | canceled => "context canceled"
  | deadlineExceeded => "context deadline exceeded"
  | closedPipe => "io: read/write on closed pipe"
  | stream text => text

/-- The named cause a failure carries, looking through added context. -/
def fault? : Error → Option Fault
  | reservedType _ => some .reservedType
  | duplicateType _ => some .duplicateType
  | nilMessage => some .nilMessage
  | signalNotSendable _ => some .signalNotSendable
  | unknownType _ => some .unknownType
  | encodeFailed _ e | decodeFailed _ e => e.fault?
  | truncatedPayload _ => some .truncatedPayload
  | nullMessage => some .nullMessage
  | payloadTooLarge _ => some .payloadTooLarge
  | invalidRegistry => some .invalidRegistry
  | invalidStream => some .invalidStream
  | invalidPolicy => some .invalidPolicy
  | connectionClosed => some .connectionClosed
  | endpointDisposed => some .endpointDisposed
  | serverClosed => some .serverClosed
  | unknownConnection _ => some .unknownConnection
  | duplicateConnection _ => some .duplicateConnection
  | invalidConnectionId => some .invalidConnectionId
  | atConnection _ e => e.fault?
  | several _ => none
  | canceled => some .canceled
  | deadlineExceeded => some .deadlineExceeded
  | closedPipe => some .closedPipe
  | stream _ => none

/-- Whether the stream reported this failure, looking through added context. -/
def fromStream : Error → Bool
  | stream _ => true
  | atConnection _ e => e.fromStream
  | _ => false

/-- How a failure presents itself: several failures first, then a named cause, then a stream
report. -/
def kind : Error → Kind
  | several es => .several (es.map message)
  | e =>
    match e.fault? with
    | some f => .fault f
    | none => if e.fromStream then .stream else .plain

/-- Gathers the failures of a sequence of steps: none is no failure, one stands for itself. -/
def gather : List Error → Option Error
  | [] => none
  | [e] => some e
  | es => some (several es)

end Error
end FramedLink
