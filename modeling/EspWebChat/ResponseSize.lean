import EspWebChat.ClientSocket
import EspWebChat.JsonText
import EspWebChat.WebSocketServer
import EspWebChat.WrittenMessages

set_option autoImplicit false

/-!
# How long a recovery response is

A response wraps a whole stored message, and the server takes no frame from a browser that is
longer than the limit for the message itself.
-/
namespace EspWebChat.ResponseSize
open JsonTree JsValues JsonText ClientMessages Interruptible BrowserWorld ClientStore ClientSocket WrittenMessages

def controlFrame (s : Store) (now : Json) (type : String) (extra : Members) : Json :=
  .obj ([("type", str type), ("from", str s.userId), ("name", str (getNickname s)), ("timestamp", now)] ++ extra)

def responseFrame (s : Store) (now : Json) (requestId : String) (requester stored : Json) : Json :=
  controlFrame s now "historyResponse" (historyResponse requestId requester stored)

def grouped (m : Json) : Bool := isText "newGroup" (m.lastMember "type") || (m.lastMember "groupId").isSome

/-- The bytes between the quotes of a string that is written. -/
def writtenBytes (value : Option Json) : ℕ := ((spelling value).map pointTextBytes).sum

def messageBytes (m : Json) : ℕ :=
  textBytes (orEmpty (m.lastMember "type")) + textBytes (orEmpty (m.lastMember "from")) +
    textBytes (orEmpty (m.lastMember "name")) + writtenBytes (m.lastMember "data") +
    (if targetsAll m then 4 else 5) + encodedSize (.arr (targetUsers m)) +
    numberBytes (.fin (numericId m)) + numberBytes (orZero (numberOfMember (m.lastMember "timestamp"))) +
    (if grouped m then textBytes (orEmpty (m.lastMember "groupId")) +
      writtenBytes (m.lastMember "groupName") + 28 else 0)

/-- The bytes of a response that vary. -/
def responseBytes (s : Store) (now : ℕ) (requestId requester : String) (m : Json) : ℕ :=
  textBytes s.userId + textBytes (getNickname s) + numberBytes (.fin now) + stringBytes (sliceTo 63 requestId) +
    textBytes requester + messageBytes m

theorem optionalMember_size (key : String) {o : Option Json} (h : (text o).isSome = true) :
    membersSize (optionalMember key o) = textBytes key + textBytes (orEmpty o) + 6 := by
  obtain ⟨s, hs⟩ := Option.isSome_iff_exists.mp h
  rw [text_eq_some hs]
  simp only [optionalMember, membersSize_cons, encodedSize_str, membersSize_nil, orEmpty, text]
  simp
  omega

theorem string_size {o : Option Json} (h : (stringSize o).isSome = true) :
    encodedSize (orElse o (.str "")) = writtenBytes o + 2 ∧
      ∀ key, membersSize (optionalMember key o) = textBytes key + writtenBytes o + 6 := by
  have read := string_or_empty h
  have written : ∀ j, o = some j → encodedSize j = writtenBytes o + 2 := by
    rintro j rfl
    rcases string_of_size h with ⟨s, is_text⟩ | ⟨s, is_cut⟩
    · obtain rfl := Option.some.inj is_text
      rw [encodedSize_str, writtenBytes, spelling, Option.getD_some, pointsOf, List.map_map]
      rfl
    · obtain rfl := Option.some.inj is_cut
      rfl
  refine ⟨written _ read.symm, fun key => ?_⟩
  rw [← read, optionalMember, membersSize_cons, membersSize_nil, written _ read.symm, read]
  omega

/-- What the size reads of a valid message. -/
structure Shape (m : Json) : Prop where
  type : (text (m.lastMember "type")).isSome = true
  sender : (text (m.lastMember "from")).isSome = true
  name : (text (m.lastMember "name")).isSome = true
  users : (targetUsers m).filter (fun user => validUserId (some user)) = targetUsers m
  data : (stringSize (m.lastMember "data")).isSome = true
  group : grouped m = true → (text (m.lastMember "groupId")).isSome = true ∧
    (stringSize (m.lastMember "groupName")).isSome = true

theorem shape_of_valid {m : Json} (valid : validHistoryMessage m = true) : Shape m := by
  unfold validHistoryMessage at valid
  simp only [Bool.and_eq_true] at valid
  obtain ⟨⟨⟨⟨⟨⟨⟨⟨-, type⟩, sender⟩, name⟩, target⟩, -⟩, data⟩, -⟩, group⟩ := valid
  obtain ⟨size, found, -⟩ := (Option.any_eq_true _ _).mp data
  refine ⟨?_, isSome_of_validText sender, isSome_of_validText name, ?_, by rw [found]; rfl, ?_⟩
  · simp only [Bool.or_eq_true] at type
    cases type with
    | inl h => exact isSome_of_isText h
    | inr h => exact isSome_of_isText h
  · unfold validMessageTarget at target
    simp only [Bool.and_eq_true] at target
    exact List.filter_eq_self.mpr (List.all_eq_true.mp target.1.2)
  · intro h
    have required : (isText "newGroup" (m.lastMember "type") || (m.lastMember "groupId").isSome ||
        (m.lastMember "groupName").isSome) = true := by
      unfold grouped at h
      rw [h]
      rfl
    rw [if_pos required] at group
    unfold validGroupMetadata at group
    simp only [Bool.and_eq_true] at group
    exact ⟨isSome_of_validText group.1, (string_of_validLabel group.2).1⟩

theorem keyBytes : textBytes "type" = 4 ∧ textBytes "from" = 4 ∧ textBytes "to" = 2 ∧ textBytes "all" = 3 ∧
    textBytes "users" = 5 ∧ textBytes "name" = 4 ∧ textBytes "data" = 4 ∧ textBytes "id" = 2 ∧
    textBytes "timestamp" = 9 ∧ textBytes "groupId" = 7 ∧ textBytes "groupName" = 9 ∧
    textBytes "requestId" = 9 ∧ textBytes "message" = 7 ∧ textBytes "historyResponse" = 15 := by
  decide

theorem group_size {m : Json} (shape : Shape m) :
    membersSize (if isText "newGroup" (m.lastMember "type") || (m.lastMember "groupId").isSome then
      optionalMember "groupId" (m.lastMember "groupId") ++ optionalMember "groupName" (m.lastMember "groupName")
      else []) =
    if grouped m then textBytes (orEmpty (m.lastMember "groupId")) +
      writtenBytes (m.lastMember "groupName") + 28 else 0 := by
  have keys := keyBytes
  change membersSize (if grouped m then _ else _) = _
  split_ifs with h
  · obtain ⟨id, name⟩ := shape.group h
    rw [membersSize_append, optionalMember_size _ id, (string_size name).2]
    omega
  · rfl

theorem payload_size {m : Json} (shape : Shape m) :
    encodedSize (.obj (historyMessagePayload m)) = messageBytes m + 83 := by
  have keys := keyBytes
  have target : encodedSize (.obj [("all", .bool (targetsAll m)), ("users", .arr (targetUsers m))]) =
      (if targetsAll m then 4 else 5) + encodedSize (.arr (targetUsers m)) + 17 := by
    rw [encodedSize_obj (by simp)]
    simp only [membersSize_cons, membersSize_nil, encodedSize_bool]
    omega
  unfold historyMessagePayload
  rw [encodedSize_obj (by simp), shape.users]
  simp only [membersSize_append, membersSize_cons, membersSize_nil, optionalMember_size _ shape.type,
    optionalMember_size _ shape.sender, optionalMember_size _ shape.name, group_size shape, target,
    (string_size shape.data).1, encodedSize_num]
  unfold messageBytes
  omega

theorem responseFrame_size {m : Json} (shape : Shape m) (s : Store) (now : ℕ) (requestId requester : String) :
    encodedSize (responseFrame s (nat now) requestId (str requester) m) =
      responseBytes s now requestId requester m + 200 := by
  have keys := keyBytes
  have users : encodedSize (.arr [str requester]) = textBytes requester + 4 := by
    change 1 + (textBytes requester + 2 + 1 + 0) = _
    omega
  have target : encodedSize (.obj [("all", .bool false), ("users", .arr [str requester])]) =
      textBytes requester + 26 := by
    rw [encodedSize_obj (by simp)]
    simp only [membersSize_cons, membersSize_nil, encodedSize_bool, users]
    simp
    omega
  unfold responseFrame controlFrame historyResponse
  rw [encodedSize_obj (by simp)]
  simp only [membersSize_append, membersSize_cons, membersSize_nil, str, nat, encodedSize_str, encodedSize_num,
    payload_size shape]
  have target' := target
  simp only [str] at target'
  have asked : encodedSize (sliceTo 63 requestId) = stringBytes (sliceTo 63 requestId) + 2 := encodedSize_ofPoints _
  rw [target', asked]
  unfold responseBytes
  omega

/-- Nothing fails: the page stays, and the socket takes every frame. -/
def steady (r : Reply) : Prop := r.unloads = false ∧ r.sends = true

def afterSending (s : ℕ) (payload : Json) (w : Page) : Page := { w with link := recordSent s payload w.link }

theorem sendRaw_steady {w : Page} {s : ℕ} {r : Reply} (h : steady r) (current : w.link.ws = some s)
    (state : readyState w.link s = .opened) (payload : Json) :
    sendRaw payload (fun _ => r) w = ⟨some true, afterSending s payload w, fun _ => r⟩ := by
  obtain ⟨stays, takes⟩ := h
  have read : link (fun _ => r) w = ⟨some w.link, w, fun _ => r⟩ := rfl
  unfold sendRaw
  rw [bind_run read]
  simp only [current]
  simp only [state, ne_eq, not_true_eq_false, if_false]
  have alive : reply (S := Page) (fun _ => r) w = ⟨some r, w, fun _ => r⟩ := by
    simp [reply, ask, stays]
  rw [bind_run alive, if_pos takes]
  rfl

theorem sendControl_steady {w : Page} {s : ℕ} {r : Reply} (h : steady r) (current : w.link.ws = some s)
    (state : readyState w.link s = .opened) (type : String) (extra : Members) :
    sendControl type extra (fun _ => r) w =
      ⟨some true, afterSending s (controlFrame w.store (nat (r.nowMs / 1000)) type extra) w, fun _ => r⟩ := by
  have alive : nowS (S := Page) (fun _ => r) w = ⟨some (nat (r.nowMs / 1000)), w, fun _ => r⟩ := by
    simp [nowS, reply, ask, h.1, Bind.bind, Pure.pure, nat]
  have sends := sendRaw_steady h current state (controlFrame w.store (nat (r.nowMs / 1000)) type extra)
  have read : store (fun _ => r) w = ⟨some w.store, w, fun _ => r⟩ := rfl
  unfold sendControl
  rw [bind_run read, bind_run alive]
  exact sends

theorem sendResponses_steady {s : ℕ} {r : Reply} (h : steady r) (requestId : String) (requester : Json)
    (stored : List Json) {w : Page} (current : w.link.ws = some s) (state : readyState w.link s = .opened) :
    (sendResponses requestId requester stored (fun _ => r) w).world.link.sent = w.link.sent ++
      stored.map (fun m => (s, responseFrame w.store (nat (r.nowMs / 1000)) requestId requester m)) := by
  induction stored generalizing w with
  | nil => simp [sendResponses, pure]
  | cons m rest ih =>
    have first := sendControl_steady h current state "historyResponse" (historyResponse requestId requester m)
    unfold sendResponses
    rw [bind_run first, ih (w := afterSending s _ w) current state]
    simp [afterSending, recordSent, responseFrame]

/-- The request is one the page answers. -/
structure Asked (w : Page) (msg : Json) (requestId requester : String) (before : ℕ) : Prop where
  named : validRequestId (msg.lastMember "requestId") = some requestId
  sender : msg.lastMember "from" = some (str requester)
  boundary : safeNat (numberOfMember (msg.lastMember "restore_before_id")) = some before
  other : isText w.store.userId (some (str requester)) = false
  valid : validUserId (some (str requester)) = true
  older : 1 < before

theorem handleHistoryRequest_steady {w : Page} {s : ℕ} {r : Reply} {msg : Json} {requestId requester : String}
    {before : ℕ} (h : steady r) (current : w.link.ws = some s) (state : readyState w.link s = .opened)
    (asked : Asked w msg requestId requester before) :
    (handleHistoryRequest msg (fun _ => r) w).world.link.sent = w.link.sent ++
      (answers w.store (some (str requester)) before).map
        (fun m => (s, responseFrame w.store (nat (r.nowMs / 1000)) requestId (str requester) m)) := by
  have go : ¬(isText w.store.userId (some (str requester)) || !validUserId (some (str requester)) ||
      decide (before ≤ 1)) = true := by
    have older := asked.older
    simp [asked.other, asked.valid]
    omega
  have run : handleHistoryRequest msg (fun _ => r) w =
      sendResponses requestId (str requester) (answers w.store (some (str requester)) before) (fun _ => r) w := by
    have read : store (fun _ => r) w = ⟨some w.store, w, fun _ => r⟩ := rfl
    unfold handleHistoryRequest
    rw [bind_run read]
    simp only [asked.named, asked.sender, asked.boundary]
    simp only [if_neg go]
  rw [run]
  exact sendResponses_steady h requestId (str requester) _ current state

end EspWebChat.ResponseSize
