import Mathlib.Data.List.Sort
import EspWebChat.JsValues

set_option autoImplicit false

/-! # Messages as `script.js` reads them -/
namespace EspWebChat.ClientMessages
open JsonTree JsValues

/-- `Number(msg.id)` when `isSafeMessageId` accepts it. -/
def messageId (msg : Json) : Option ℕ :=
  (safeNat (numberOfMember (msg.lastMember "id"))).filter (fun n => decide (0 < n))

/-- Every stored message has a safe id; the value for others plays no part. -/
def numericId (msg : Json) : ℕ := (messageId msg).getD 0

def isSafeMessageId (msg : Json) : Bool := (messageId msg).isSome

/-- A non-empty string of at most `maxBytes` bytes. -/
def validText (maxBytes : ℕ) (value : Option Json) : Bool :=
  (text value).any (fun s => s != "" && decide (wsDataSize s ≤ maxBytes))

/-- `wsDataSize` of a string, of which a cut may have left half a character. -/
def stringSize : Option Json → Option ℕ
  | some (.str s) => some (wsDataSize s)
  | some (.cut s) => some (s.points.map pointBytes).sum
  | _ => none

/-- A `validText` that a cut may have shortened. The page cuts names, never an id. -/
def validLabel (maxBytes : ℕ) (value : Option Json) : Bool :=
  (stringSize value).any (fun size => decide (0 < size ∧ size ≤ maxBytes))

def validUserId (value : Option Json) : Bool := validText 63 value

def targetUsers (msg : Json) : List Json := itemsOf (property (msg.lastMember "to") "users")

def targetsAll (msg : Json) : Bool := truthy (property (msg.lastMember "to") "all")

def isBoolean : Option Json → Bool
  | some (.bool _) => true
  | _ => false

def validMessageTarget (target : Option Json) : Bool :=
  let users := property target "users"
  isBoolean (property target "all") && isArray users && decide ((itemsOf users).length ≤ 17) &&
    (itemsOf users).all (fun user => validUserId (some user)) &&
    (truthy (property target "all") || !(itemsOf users).isEmpty)

def validGroupMetadata (msg : Json) : Bool :=
  validText 63 (msg.lastMember "groupId") && validLabel 63 (msg.lastMember "groupName")

def validHistoryMessage (msg : Json) : Bool :=
  let type := msg.lastMember "type"
  let data := msg.lastMember "data"
  isSafeMessageId msg && (isText "text" type || isText "newGroup" type) &&
    validUserId (msg.lastMember "from") && validText 31 (msg.lastMember "name") &&
    validMessageTarget (msg.lastMember "to") && isFinite (numberOfMember (msg.lastMember "timestamp")) &&
    (stringSize data).any (fun size => decide (size ≤ 256)) && !(isText "text" type && isText "" data) &&
    (if isText "newGroup" type || (msg.lastMember "groupId").isSome || (msg.lastMember "groupName").isSome
      then validGroupMetadata msg else true)

def isMessageForMe (userId : String) (msg : Json) : Bool :=
  !truthyValue msg || isText "server" (msg.lastMember "from") || isText userId (msg.lastMember "from") ||
    targetsAll msg || includesText (targetUsers msg) userId

def isMessageVisibleToUser (msg : Json) (targetUserId : Option Json) : Bool :=
  truthyValue msg && (text targetUserId).any (fun userId => userId != "" &&
    (isText userId (msg.lastMember "from") || targetsAll msg || includesText (targetUsers msg) userId))

/-- What `comparableMessage` writes down. The messages it compares are valid ones, whose
    compared fields are strings and numbers. -/
structure Comparable where
  id : ℕ
  type : Option String
  sender : Option String
  name : Option String
  all : Bool
  users : List String
  data : List Point
  timestamp : Number
  groupId : String
  groupName : List Point
  deriving DecidableEq

/-- `value || ''`. -/
def orEmpty (value : Option Json) : String := (text value).getD ""

/-- `value || ''` of a string that may have been cut. -/
def spelling (value : Option Json) : List Point := pointsOf (value.getD .null)

def comparableMessage (msg : Json) : Comparable where
  id := numericId msg
  type := text (msg.lastMember "type")
  sender := text (msg.lastMember "from")
  name := text (msg.lastMember "name")
  all := targetsAll msg
  users := ((targetUsers msg).filterMap (fun user => text (some user))).insertionSort (· ≤ ·)
  data := spelling (msg.lastMember "data")
  timestamp := orZero (numberOfMember (msg.lastMember "timestamp"))
  groupId := orEmpty (msg.lastMember "groupId")
  groupName := spelling (msg.lastMember "groupName")

/-- A member that is left out when its value is `undefined`. -/
def optionalMember (key : String) : Option Json → Members
  | some v => [(key, v)]
  | none => []

def historyMessagePayload (msg : Json) : Members :=
  optionalMember "type" (msg.lastMember "type") ++ optionalMember "from" (msg.lastMember "from") ++
    [("to", .obj [
        ("all", .bool (targetsAll msg)),
        ("users", .arr ((targetUsers msg).filter (fun user => validUserId (some user))))])] ++
    optionalMember "name" (msg.lastMember "name") ++
    [("data", orElse (msg.lastMember "data") (.str "")),
      ("id", .num (.fin (numericId msg))),
      ("timestamp", .num (orZero (numberOfMember (msg.lastMember "timestamp"))))] ++
    (if isText "newGroup" (msg.lastMember "type") || (msg.lastMember "groupId").isSome then
      optionalMember "groupId" (msg.lastMember "groupId") ++
        optionalMember "groupName" (msg.lastMember "groupName")
    else [])

end EspWebChat.ClientMessages
