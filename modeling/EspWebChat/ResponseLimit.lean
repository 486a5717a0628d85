import EspWebChat.NodeSteps
import EspWebChat.ResponseSize
import EspWebChat.Utf8Texts
import EspWebChat.StoreSteps

set_option autoImplicit false

/-!
# Which recovery responses the server takes

The limit for a frame is the same for a chat message and for the response that wraps it.
-/
namespace EspWebChat.ResponseLimit
open JsonTree JsonGate JsValues JsonText ClientMessages BrowserWorld ClientStore ClientSocket ResponseSize
open Interruptible

/-- `CHAT_MAX_WS_PAYLOAD_BYTES`, unless it is configured. -/
abbrev limit : ℕ := 1024

abbrev Node := WebSocketServer.Node (ServerWorld.Config.default CjsonPrinter.fifteenDigits)

/-- The node serves a chat frame within the limit, and stores and broadcasts `m` for it. -/
structure Publishes (cJSONParse : CJSONParse) (s : Node) (fd : ℤ) (frame : WebSocketServer.Frame)
    (env : ℕ → ServerWorld.Reply) (m : ServerWorld.Message) : Prop where
  small : frame.payload.length ≤ limit
  stored : ∃ new, (WebSocketServer.step cJSONParse s (.frame fd frame env)).world.trace = s.world.trace ++ new ∧
    .stored m ∈ new

/-- A responder, a requester and a request with valid ids and names, by which the stored message
    is asked for. -/
structure Recovers (s : Store) (requestId requester : String) (before : ℕ) (m : Json) : Prop where
  responder : validUserId (some (str s.userId)) = true
  name : validText 31 (some (str (getNickname s))) = true
  asker : validUserId (some (str requester)) = true
  request : validRequestId (some (str requestId)) = some requestId
  answered : m ∈ answers s (some (str requester)) before

def AlwaysRecoverable (cJSONParse : CJSONParse) : Prop :=
  ∀ flash events fd frame env m,
    Publishes cJSONParse (WebSocketServer.run cJSONParse (WebSocketServer.Node.initial flash) events) fd frame env m →
    ∀ (s : Store) (requestId requester : String) (before now : ℕ), Recovers s requestId requester before m.payload →
      encodedSize (responseFrame s (nat now) requestId (str requester) m.payload) ≤ limit

def storedOf : ServerWorld.TraceEvent → Option ServerWorld.Message
  | .stored m => some m
  | _ => none

def storedBy (cJSONParse : CJSONParse) (s : Node) (e : WebSocketServer.Event) : List ServerWorld.Message :=
  ((WebSocketServer.step cJSONParse s e).world.trace.drop s.world.trace.length).filterMap storedOf

theorem publishes_of_storedBy {cJSONParse : CJSONParse} {s : Node} {fd : ℤ} {frame : WebSocketServer.Frame}
    {env : ℕ → ServerWorld.Reply} {m : ServerWorld.Message} (small : frame.payload.length ≤ limit)
    (h : m ∈ storedBy cJSONParse s (.frame fd frame env)) : Publishes cJSONParse s fd frame env m := by
  obtain ⟨new, extended⟩ : ∃ new, (WebSocketServer.step cJSONParse s (.frame fd frame env)).world.trace =
      s.world.trace ++ new := by
    rcases NodeSteps.step_steps cJSONParse s (.frame fd frame env) with ⟨same, -⟩ | ⟨-, path⟩
    · exact ⟨[], by rw [same, List.append_nil]⟩
    · exact ServerSteps.steps_trace path
  refine ⟨small, new, extended, ?_⟩
  unfold storedBy at h
  rw [extended, List.drop_left, List.mem_filterMap] at h
  obtain ⟨e, he, hm⟩ := h
  cases e with
  | stored x => exact Option.some.inj hm ▸ he
  | _ => cases hm

theorem mem_answers {s : Store} {requester : Option Json} {before : ℕ} {m : Json} :
    m ∈ answers s requester before ↔ m ∈ s.allMessages ∧ isRecovered m = false ∧ validHistoryMessage m = true ∧
      numericId m < before ∧ isMessageVisibleToUser m requester = true := by
  unfold answers
  rw [(StoreSteps.sortById_perm _).mem_iff, List.mem_filter]
  simp only [Bool.and_eq_true, Bool.not_eq_true', decide_eq_true_eq]
  tauto

/-- A page that answers a request sends, for every stored message it answers with, the frame of
    that message; the frame is within the limit exactly when the parts that vary take at most
    824 bytes, and a longer one makes the server give up the connection. -/
theorem response_within_limit (w : Page) (requestId requester : String) (before : ℕ) :
    (∀ (now : ℕ) (m : Json), m ∈ answers w.store (some (str requester)) before →
      (encodedSize (responseFrame w.store (nat now) requestId (str requester) m) ≤ limit ↔
        responseBytes w.store now requestId requester m ≤ 824)) ∧
    (∀ (socket : ℕ) (r : BrowserWorld.Reply) (msg : Json),
      steady r → w.link.ws = some socket → readyState w.link socket = .opened →
      Asked w msg requestId requester before →
      (handleHistoryRequest msg (fun _ => r) w).world.link.sent = w.link.sent ++
        (answers w.store (some (str requester)) before).map
          (fun m => (socket, responseFrame w.store (nat (r.nowMs / 1000)) requestId (str requester) m))) ∧
    (∀ (printer : CjsonPrinter.Printer) (cJSONParse : CJSONParse) (fd : ℤ) (frame : WebSocketServer.Frame),
      frame.probe = .ok → limit < frame.payload.length →
      (WebSocketServer.handleFrame cJSONParse fd frame : ServerWorld.Server (ServerWorld.Config.default printer) _) = do
        let _ ← Sessions.chatWsSendError fd "payload_too_large" "WebSocket payload is too large"
        WebSocketServer.markBrokenSession fd
        pure .fail) := by
  refine ⟨?_, ?_, ?_⟩
  · intro now m answered
    have shape := shape_of_valid (mem_answers.mp answered).2.2.1
    have bound : limit = 1024 := rfl
    rw [responseFrame_size shape, bound]
    omega
  · intro socket r msg h current state asked
    exact handleHistoryRequest_steady h current state asked
  · intro printer cJSONParse fd frame probe long
    have some_bytes : frame.payload ≠ [] := by
      intro none
      rw [none] at long
      simp at long
    unfold WebSocketServer.handleFrame
    have exceeds : (ServerWorld.Config.default printer).maxWsPayloadBytes < frame.payload.length := long
    rw [if_neg (by simp [probe]), if_neg (by simp [some_bytes]), if_neg some_bytes, if_pos exceeds]

variable {printer : CjsonPrinter.Printer}

def serving (fd : ℤ) (root : Json) : ServerWorld.Server (ServerWorld.Config.default printer) ServerWorld.EspErr := do
  let ready ← Sessions.chatSessionsEnsureSlot fd
  if !ready then pure .fail
  else do
    let buffer ← ServerWorld.allocates
    if !buffer then pure .noMem else Protocol.chatProtocolHandleJson fd root

theorem chatWsHandler_text {cJSONParse : CJSONParse} {payload : List UInt8} {root : Json} (fd : ℤ)
    (parsed : chatJsonParseObject cJSONParse payload = some root) (short : payload.length ≤ limit) :
    (WebSocketServer.chatWsHandler cJSONParse fd ⟨.text, true, payload, .ok, .ok⟩ :
      ServerWorld.Server (ServerWorld.Config.default printer) _) = serving fd root := by
  have filled : payload ≠ [] := by
    intro none
    rw [none, chatJsonParseObject, if_pos (.inl rfl)] at parsed
    cases parsed
  have long : ¬(ServerWorld.Config.default printer).maxWsPayloadBytes < payload.length := Nat.not_lt.mpr short
  have handled : (WebSocketServer.handleFrame cJSONParse fd ⟨.text, true, payload, .ok, .ok⟩ :
      ServerWorld.Server (ServerWorld.Config.default printer) _) = (do
        let buffer ← ServerWorld.allocates
        if !buffer then pure .noMem else Protocol.chatProtocolHandleJson fd root) := by
    unfold WebSocketServer.handleFrame WebSocketServer.handleReceived WebSocketServer.handleText
    rw [if_neg (by simp), if_neg (by simp [filled]), if_neg filled, if_neg long, parsed]
    rfl
  unfold WebSocketServer.chatWsHandler serving
  rw [handled]

theorem parsed_whole {cJSONParse : CJSONParse} {cs : List Char} {root : Json}
    (reads : cJSONParse (Utf8Texts.encoded cs) = some (root, (Utf8Texts.encoded cs).length))
    (filled : Utf8Texts.encoded cs ≠ []) (scanned : scanFrom (Utf8Texts.encoded cs) 0 false = true)
    (distinct : jsonHasDuplicateKeys root = false) (object : root.isObject = true) :
    chatJsonParseObject cJSONParse (Utf8Texts.encoded cs) = some root := by
  have passes : ¬(Utf8Texts.encoded cs = [] ∨ validUtf8 (Utf8Texts.encoded cs) ≠ some true ∨
      scanFrom (Utf8Texts.encoded cs) 0 false = false) := by
    rw [Utf8Texts.validUtf8_encoded, scanned]
    simp [filled]
  unfold chatJsonParseObject
  rw [if_neg passes, reads]
  dsimp only
  rw [List.drop_length, distinct, object]
  rfl

def memberText (c : Char) : List Char := List.replicate 35 '0' ++ [c]

def member (c : Char) : String := String.ofList (memberText c)

def groupLetters : List Char := ['a', 'b', 'c', 'd', 'e', 'f', 'g', 'h', 'i', 'j']

def letters : List Char := List.replicate 60 '中'

def quoted (cs : List Char) : List Char := '"' :: cs ++ ['"']

def joined : List (List Char) → List Char
  | [] => []
  | [x] => x
  | x :: xs => x ++ ',' :: joined xs

def field (key : String) (value : List Char) : List Char := quoted key.toList ++ ':' :: value

def braces (fields : List (List Char)) : List Char := '\x7b' :: joined fields ++ ['\x7d']

def joinText : List UInt8 := Utf8Texts.encoded (braces [field "type" (quoted "join".toList), field "from" (quoted (memberText 'a')),
  field "name" (quoted "Alice".toList), field "since_id" ['0']])

def joinRoot : Json := .obj [("type", str "join"), ("from", str (member 'a')), ("name", str "Alice"), ("since_id", nat 0)]

def chatText : List UInt8 := Utf8Texts.encoded (braces [field "type" (quoted "text".toList), field "from" (quoted (memberText 'a')),
  field "name" (quoted "Alice".toList),
  field "to" (braces [field "all" "false".toList,
    field "users" ('[' :: joined (groupLetters.map (fun c => quoted (memberText c))) ++ [']'])]),
  field "data" (quoted letters), field "groupId" (quoted ("group-".toList ++ memberText 'g')),
  field "groupName" (quoted "Friends".toList)])

def chatRoot : Json := .obj [("type", str "text"), ("from", str (member 'a')), ("name", str "Alice"),
  ("to", .obj [("all", .bool false), ("users", .arr (groupLetters.map (fun c => str (member c))))]),
  ("data", str (String.ofList letters)), ("groupId", str (String.ofList ("group-".toList ++ memberText 'g'))),
  ("groupName", str "Friends")]

def parse (payload : List UInt8) : Option (Json × ℕ) :=
  if payload = joinText then some (joinRoot, payload.length)
  else if payload = chatText then some (chatRoot, payload.length)
  else none

def answered : ServerWorld.Reply := .calm 1710000000

def environment : ℕ → ServerWorld.Reply := fun _ => answered

def textFrame (payload : List UInt8) : WebSocketServer.Frame := ⟨.text, true, payload, .ok, .ok⟩

def emptyFlash : WebSocketServer.InitialFlash := ⟨⟨none, none⟩, by simp⟩

def joining : List WebSocketServer.Event :=
  [.powerOn environment, .openSession 1, .frame 1 (textFrame joinText) environment]

def joinedNode : Node := WebSocketServer.run parse (WebSocketServer.Node.initial emptyFlash) joining

def newMessages : List ServerWorld.Message :=
  ((serving 1 chatRoot environment joinedNode.world).world.trace.drop joinedNode.world.trace.length).filterMap storedOf

def responder : Store :=
  { freshStore ⟨some (member 'b'), some "Bob", none, none, none, none⟩ [] with
    allMessages := newMessages.map ServerWorld.Message.payload }

def requestId : String := String.ofList ("hist-".toList ++ memberText 'h')

def unrecoverable (m : Json) : Bool :=
  !isRecovered m && validHistoryMessage m && decide (numericId m < 2) &&
    isMessageVisibleToUser m (some (str (member 'c'))) &&
    decide (limit < encodedSize (responseFrame responder (nat 1710000100) requestId (str (member 'c')) m))

set_option maxRecDepth 100000 in
theorem chatText_scanned : scanFrom chatText 0 false = true := by decide +kernel

theorem chatText_filled : chatText ≠ [] := by decide +kernel

theorem chatText_short : chatText.length = 762 := by decide +kernel

theorem chatText_other : chatText ≠ joinText := by decide +kernel

theorem chatRoot_distinct : jsonHasDuplicateKeys chatRoot = false := by decide

theorem chat_parsed : chatJsonParseObject parse chatText = some chatRoot := by
  have parsed : parse chatText = some (chatRoot, chatText.length) := by
    unfold parse
    rw [if_neg chatText_other, if_pos rfl]
  exact parsed_whole parsed chatText_filled chatText_scanned chatRoot_distinct rfl

theorem chat_served : (WebSocketServer.chatWsHandler parse 1 (textFrame chatText) :
    ServerWorld.Server (ServerWorld.Config.default printer) _) = serving 1 chatRoot :=
  chatWsHandler_text 1 chat_parsed (by rw [chatText_short]; decide)

theorem joinedNode_serves : joinedNode.serves 1 := by decide +kernel

theorem step_served {cJSONParse : CJSONParse} {s : Node} {fd : ℤ} {frame : WebSocketServer.Frame}
    {env : ℕ → ServerWorld.Reply} (h : s.serves fd) :
    (WebSocketServer.step cJSONParse s (.frame fd frame env)).world =
      (WebSocketServer.chatWsHandler cJSONParse fd frame env s.world).world := by
  have served : WebSocketServer.step cJSONParse s (.frame fd frame env) =
      s.exec (WebSocketServer.chatWsHandler cJSONParse fd frame) env := if_pos h
  rw [served]
  rfl

theorem newMessages_stored {m : ServerWorld.Message} (h : m ∈ newMessages) :
    m ∈ storedBy parse joinedNode (.frame 1 (textFrame chatText) environment) := by
  unfold storedBy
  unfold newMessages at h
  rw [step_served joinedNode_serves, chat_served]
  exact h

set_option maxRecDepth 100000 in
theorem newMessages_unrecoverable : newMessages.any (fun m => unrecoverable m.payload) = true := by
  decide +kernel

theorem mem_responder {m : ServerWorld.Message} (h : m ∈ newMessages) : m.payload ∈ responder.allMessages := by
  simp only [responder]
  exact List.mem_map_of_mem h

/-- Sixty Chinese characters to a group of ten: the chat frame has 762 bytes, the response 1035. -/
theorem chat_message_unrecoverable : ¬AlwaysRecoverable parse := by
  intro recoverable
  obtain ⟨m, new, unfit⟩ := List.any_eq_true.mp newMessages_unrecoverable
  simp only [unrecoverable, Bool.and_eq_true, Bool.not_eq_true', decide_eq_true_eq] at unfit
  obtain ⟨⟨⟨⟨live, valid⟩, old⟩, visible⟩, long⟩ := unfit
  have published : Publishes parse joinedNode 1 (textFrame chatText) environment m :=
    publishes_of_storedBy (by rw [textFrame, chatText_short]; decide) (newMessages_stored new)
  have recovers : Recovers responder requestId (member 'c') 2 m.payload :=
    ⟨by decide +kernel, by decide +kernel, by decide +kernel, by decide +kernel,
      mem_answers.mpr ⟨mem_responder new, live, valid, old, visible⟩⟩
  have fits := recoverable emptyFlash joining 1 (textFrame chatText) environment m published
    responder requestId (member 'c') 2 1710000100 recovers
  exact absurd fits (Nat.not_le.mpr long)

end EspWebChat.ResponseLimit
