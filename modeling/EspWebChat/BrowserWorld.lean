import EspWebChat.ClientMessages
import EspWebChat.Interruptible

set_option autoImplicit false

/-!
# The world of one browser page

The variables of `script.js`, the sockets and timers the browser keeps for it, and its local
storage. `Reply`s are what the browser answers: whether a write, a send or a constructor
throws, the clock, and whether the page is still there. Reading the storage does not fail.
What is only shown (status texts, rendered lists) is left out.
-/
namespace EspWebChat.BrowserWorld
open JsonTree JsValues ClientMessages Interruptible

structure Reply where
  unloads : Bool
  stores : Bool
  sends : Bool
  constructs : Bool
  nowMs : ℕ
  random : ℕ
  uuid : String

abbrev Client (S α : Type) := Comp Reply S α

def reply {S : Type} : Client S Reply := ask (fun r => !r.unloads)

/-- `Math.floor(Date.now() / 1000)`. -/
def nowS {S : Type} : Client S Json := do
  let r ← reply
  pure (.num (.fin (r.nowMs / 1000 : ℕ)))

inductive Callback where
  | enter
  | connect
  | connectTimeout (socket : ℕ)
  | joinTimeout (socket : ℕ)
  | receiveTimeout (socket : ℕ)
  | reconnect
  | finishRecovery
  deriving DecidableEq, Repr

/-- What `setTimeout` returns is as good as the timer itself. -/
structure Timer where
  serial : ℕ
  callback : Callback
  delayMs : ℕ
  deriving DecidableEq, Repr

/-- A stored text is represented by what reading it yields: the tree it parses to, and for the cursor the
    number it converts to. -/
structure LocalStorage where
  userId : Option String
  nickname : Option String
  messages : Option Json
  conversations : Option Json
  lastSeenId : Option Number
  outbox : Option Json

structure Recovery where
  requestId : String
  restoreBeforeId : ℕ
  changed : Bool
  timer : Timer

/-- `onlineUsers` maps ids to names, which are strings, `conversations` ids to objects. `pruned` collects what
    `saveMessages` has dropped, over all pages. -/
structure Store where
  userId : String
  nicknameInput : String
  allMessages : List Json
  conversations : Members
  currentConversation : Json
  onlineUsers : Members
  outbox : List Json
  lastSeenId : ℕ
  historyInfo : Option ℕ
  activeRecovery : Option Recovery
  storage : LocalStorage
  pruned : List Json

inductive ReadyState where
  | connecting
  | opened
  | closing
  | closed
  deriving DecidableEq, Repr

/-- `closeFired`: the close event has been delivered. `opened` is the variable of `connect`. -/
structure Socket where
  readyState : ReadyState
  closeFired : Bool
  opened : Bool
  deriving DecidableEq, Repr

structure Location where
  secure : Bool
  host : String

/-- A socket is its position in `sockets`; `timers` are those still to fire, and `sent` is
    every frame a socket took. -/
structure Link where
  location : Location
  ws : Option ℕ
  wsJoined : Bool
  hasJoined : Bool
  reconnectTimer : Option Timer
  connectTimer : Option Timer
  joinTimer : Option Timer
  receiveTimer : Option Timer
  heartbeatIntervalMs : ℕ
  reconnectDelayMs : ℕ
  wsUrlAttempt : ℕ
  wsConnectionSequence : ℕ
  reconnectBlocked : Bool
  loginShown : Bool
  sockets : List Socket
  timers : List Timer
  nextTimer : ℕ
  sent : List (ℕ × Json)

structure Page where
  store : Store
  link : Link

def current : Client Store Store := reads (fun s => s)

def onStore {α : Type} (m : Client Store α) : Client Page α :=
  zoom Page.store (fun s w => { w with store := s }) m

def store : Client Page Store := reads Page.store

def link : Client Page Link := reads Page.link

def setLink (f : Link → Link) : Client Page Unit := writes (fun w => { w with link := f w.link })

def setStore (f : Store → Store) : Client Page Unit := writes (fun w => { w with store := f w.store })

/-- Writing one key of the storage; the result says whether it succeeded. -/
def writeStoredValue (f : LocalStorage → LocalStorage) : Client Store Bool := do
  let r ← reply
  if r.stores then do
    writes (fun s => { s with storage := f s.storage })
    pure true
  else pure false

/-- `object[key] = value` on the members. -/
def assign (key : String) (v : Json) (ms : Members) : Members :=
  if ms.any (fun m => m.1 == key) then ms.map (fun m => if m.1 = key then (key, v) else m)
  else ms ++ [(key, v)]

/-- `{ ...base, ...overlay }`. -/
def spread (base overlay : Members) : Members := overlay.foldl (fun ms m => assign m.1 m.2 ms) base

def setName (id : String) (name : Json) : Members → Members
  | [] => [(id, name)]
  | u :: us => if u.1 = id then (id, name) :: us else u :: setName id name us

end EspWebChat.BrowserWorld
