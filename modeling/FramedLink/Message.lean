import FramedLink.Bytes
import FramedLink.Signal

namespace FramedLink

/-- The type id that stands for "no message" and is never registered. -/
def nullTypeId : Int32 := -1

/-- The type id of every control signal; it is never registered either. -/
def controlTypeId : Int32 := -2147483648

/-- A message an endpoint can be asked to send or can hand its user. -/
inductive Message where
  | text (id : Int32) (body : Bytes)
  | signal (s : Signal)
  | foreign (id : Int32)
deriving DecidableEq, Repr

namespace Message

/-- The type id a message carries. -/
def typeId : Message → Int32
  | text id _ => id
  | signal _ => controlTypeId
  | foreign id => id

/-- The name under which a possibly absent message shows in an encoder's complaint. -/
def typeName : Option Message → String
  | none => "<nil>"
  | some (text _ _) => "text.Message"
  | some (signal _) => "msgstream.Sentinel"
  | some (foreign _) => "main.otherMessage"

end Message
end FramedLink
