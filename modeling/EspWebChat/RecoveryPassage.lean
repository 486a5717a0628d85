import EspWebChat.Agreement
import EspWebChat.HistoryRelay
import EspWebChat.QuietPresence

set_option autoImplicit false

/-!
# How a recovery passes through the server

A request comes out with its boundary lowered to the one of the server. A response already has
everything the server would fill in, so it comes out as it went in, but for what printing does to
its numbers.
-/
namespace EspWebChat.RecoveryPassage
open JsonTree CircularBuffer CjsonPrinter ClientSlots Interruptible ServerWorld Sessions History JsonGate Protocol WebSocketServer
open TargetFields AdmittedMessages SlotSteps SlotInvariant SenderAuthenticity

variable {cfg : Config} {w : World cfg} {fd : ℤ} {root message : Json} {users : List String} {userId : String} {id : ℕ}

theorem setKey_found {key : String} {v : Json} {ms : Members} (found : ms.lookup key = some v) : setKey key v ms = ms := by
  induction ms with
  | nil => cases found
  | cons m ms ih =>
    rw [lookup_cons] at found
    unfold setKey
    split_ifs at found with here
    · obtain rfl := Option.some.inj found
      rw [if_pos here.symm, here]
    · rw [if_neg (Ne.symm here), ih found]

theorem set_found {key : String} {v : Json} (found : root.member key = some v) : root.set key v = root := by
  cases root with
  | obj ms => exact congrArg Json.obj (setKey_found found)
  | _ => rfl

theorem pure_then {α β : Type} (a : α) (f : α → Server cfg β) : (pure a >>= f) = f a := rfl

theorem memberOrDefault_found {key : String} {v : Json} (default : Json) (found : root.member key = some v) :
    (memberOrDefault root key default : Server cfg _) = pure (some (v, root)) := by
  unfold memberOrDefault
  rw [found]

theorem validTargets_target {all : Bool} (target : Target cfg root all users) : validTargets cfg (.arr (users.map .str)) = true := by
  rw [validTargets_iff]
  refine ⟨rfl, by simpa [Json.items] using target.few, ?_⟩
  intro user among
  obtain ⟨name, listed, rfl⟩ := List.mem_map.mp among
  exact ⟨name, rfl, target.ids name listed⟩

theorem validateToObject_whole {all : Bool} (target : Target cfg root all users) :
    (validateToObject root : Server cfg _) = pure (true, root) := by
  obtain ⟨to_users, at_to, -, is_all, is_users⟩ := target.read
  have object : to_users.isObject = true := by
    cases to_users with
    | obj ms => rfl
    | _ => cases is_all
  have someone : (isTrue (some (.bool all)) || !(Json.arr (users.map .str)).items.isEmpty) = true := by
    rcases target.someone with everyone | listed
    · rw [everyone]
      rfl
    · cases users with
      | nil => exact absurd rfl listed
      | cons user users => simp [Json.items]
  unfold validateToObject
  rw [memberOrDefault_found _ at_to, pure_then]
  dsimp only
  rw [if_neg (by rw [object]; decide), memberOrDefault_found _ is_all, pure_then]
  dsimp only
  rw [if_neg (by simp [isBool]), memberOrDefault_found _ is_users, pure_then]
  dsimp only
  rw [if_neg (by rw [validTargets_target target]; decide), someone, set_found at_to]

theorem inRange_of {item : Option Json} {maxLen : ℕ} {s : String} (value : item = some (.str s)) (filled : s ≠ "")
    (short : strlen s ≤ maxLen) : jsonStringInRange item maxLen false = true := by
  rw [value]
  simp [jsonStringInRange, stringInRange, filled, short]

theorem inRange_empty_of {item : Option Json} {maxLen : ℕ} {s : String} (value : item = some (.str s))
    (short : strlen s ≤ maxLen) : jsonStringInRange item maxLen true = true := by
  rw [value]
  simp [jsonStringInRange, stringInRange, short]

/-- A message with an id and a time, and all that the server asks of one. -/
structure Whole (cfg : Config) (message : Json) (id : ℕ) : Prop where
  admitted : Admitted cfg message
  id : jsonSafeMessageId (message.member "id") = some id
  timestamp : (numberValue (message.member "timestamp")).isSome = true

theorem validateHistoryMessageObject_whole (whole : Whole cfg message id) :
    (validateHistoryMessageObject (some message) : Server cfg _) = pure (true, message) := by
  obtain ⟨admitted, is_id, timestamp⟩ := whole
  obtain ⟨moment, is_time⟩ := Option.isSome_iff_exists.mp timestamp
  obtain ⟨sender, is_sender, some_sender, short_sender⟩ := admitted.sender
  obtain ⟨name, is_name, some_name, short_name⟩ := admitted.name
  obtain ⟨type, data, is_type, known, is_data, short, filled, group⟩ := admitted.content
  obtain ⟨all, users, target⟩ := admitted.target
  have typed : stringInRange (message.member "type") maxTypeLen false = some type := by
    rw [is_type]
    rcases known with rfl | rfl
    · decide
    · decide
  unfold validateHistoryMessageObject
  dsimp only
  rw [if_neg (by rw [admitted.object]; decide), is_id, is_time, typed]
  dsimp only
  rw [if_neg (by
      rw [inRange_of is_sender some_sender short_sender, inRange_of is_name some_name short_name]
      decide),
    validateToObject_whole target, pure_then]
  dsimp only
  rw [if_neg (by rw [group]; decide)]
  rcases known with rfl | rfl
  · rw [if_pos rfl, inRange_of is_data (filled rfl) short]
  · rw [if_neg (by decide), if_pos rfl, inRange_empty_of is_data short]

/-- The same client on the same connection under the same name. -/
structure Seat (s s' : ClientSlot) : Prop where
  active : s'.active = s.active
  closing : s'.closing = s.closing
  joined : s'.joined = s.joined
  fd : s'.fd = s.fd
  userId : s'.userId = s.userId

def Seated (t t' : SlotTable cfg.maxClients) : Prop := ∀ i, Seat (t i) (t' i)

theorem seat_self (s : ClientSlot) : Seat s s := ⟨rfl, rfl, rfl, rfl, rfl⟩

theorem Seated.trans {t t' t'' : SlotTable cfg.maxClients} (h : Seated t t') (h' : Seated t' t'') : Seated t t'' := by
  intro i
  exact ⟨(h' i).active.trans (h i).active, (h' i).closing.trans (h i).closing, (h' i).joined.trans (h i).joined,
    (h' i).fd.trans (h i).fd, (h' i).userId.trans (h i).userId⟩

theorem Seated.joinedOn {u : World cfg} (h : Seated w.ctx.clientSlots u.ctx.clientSlots) :
    JoinedOn u fd userId ↔ JoinedOn w fd userId := by
  unfold JoinedOn
  apply exists_congr
  intro i
  rw [(h i).active, (h i).closing, (h i).joined, (h i).fd, (h i).userId]

def Distinct (t : SlotTable cfg.maxClients) : Prop :=
  ∀ i j, (t i).active = true → (t j).active = true → (t i).fd = (t j).fd → i = j

theorem Seated.distinct {t t' : SlotTable cfg.maxClients} (h : Seated t t') (distinct : Distinct t) : Distinct t' := by
  intro i j active active' same
  rw [(h i).active] at active
  rw [(h j).active] at active'
  rw [(h i).fd, (h j).fd] at same
  exact distinct i j active active' same

/-- The connections of the clients that `p` picks, in slot order. -/
def picked (p : ClientSlot → Bool) (t : SlotTable cfg.maxClients) : List ℤ :=
  (List.finRange cfg.maxClients).filterMap (fun i => if p (t i) then some (t i).fd else none)

variable {p : ClientSlot → Bool} {t t' : SlotTable cfg.maxClients} {target : ℤ}

theorem mem_picked : target ∈ picked p t ↔ ∃ i, p (t i) = true ∧ (t i).fd = target := by
  unfold picked
  rw [List.mem_filterMap]
  constructor
  · rintro ⟨i, -, hi⟩
    split_ifs at hi with chosen
    exact ⟨i, chosen, Option.some.inj hi⟩
  · rintro ⟨i, chosen, rfl⟩
    exact ⟨i, List.mem_finRange i, by rw [if_pos chosen]⟩

theorem picked_nodup (active : ∀ s, p s = true → s.active = true) (distinct : Distinct t) : (picked p t).Nodup := by
  apply List.Nodup.filterMap _ (List.nodup_finRange _)
  intro i j fd here there
  split_ifs at here with chosen
  · split_ifs at there with chosen'
    · have same : (t i).fd = (t j).fd := (Option.some.inj here).trans (Option.some.inj there).symm
      exact distinct i j (active _ chosen) (active _ chosen') same
    · cases there
  · cases here

theorem Seated.picked (h : Seated t t') (same : ∀ s s', Seat s s' → p s' = p s) :
    RecoveryPassage.picked p t' = RecoveryPassage.picked p t := by
  unfold RecoveryPassage.picked
  apply List.filterMap_congr
  intro i _
  rw [same _ _ (h i), (h i).fd]

theorem receives_seat {s s' : ClientSlot} (h : Seat s s') : receives s' = receives s := by
  unfold receives
  rw [h.active, h.closing, h.joined]

theorem receives_active {s : ClientSlot} (h : receives s = true) : s.active = true := by
  unfold receives at h
  simp only [Bool.and_eq_true] at h
  exact h.1.1

/-- Whom a response with these targets goes to. -/
def addressed (users : List String) (s : ClientSlot) : Bool := relayTarget false (some (.arr (users.map .str))) s

theorem addressed_iff {s : ClientSlot} :
    addressed users s = true ↔ s.active = true ∧ s.joined = true ∧ s.userId ≠ "" ∧ s.userId ∈ users := by
  unfold addressed relayTarget
  have listed : Json.str s.userId ∈ users.map Json.str ↔ s.userId ∈ users := by
    rw [List.mem_map]
    constructor
    · rintro ⟨user, among, same⟩
      exact Json.str.inj same ▸ among
    · intro among
      exact ⟨_, among, rfl⟩
  simp only [Bool.and_eq_true, bne_iff_ne, Bool.false_or, containsString_iff, Option.map_some, Option.getD_some, and_assoc]
  rw [show (Json.arr (users.map .str)).items = users.map Json.str from rfl, listed]

theorem addressed_seat {s s' : ClientSlot} (h : Seat s s') : addressed users s' = addressed users s := by
  unfold addressed relayTarget
  rw [h.active, h.joined, h.userId]

/-- Memory, sockets and power are all there. -/
def Works (r : Reply) : Prop := r.powered = true ∧ r.alloc = true ∧ r.isWebsocket = true ∧ r.send = .ok

theorem sendText_works (payload : Json) {target : ℤ} (known : 0 ≤ target) :
    Returns Works (chatWsSendText target payload : Server cfg _) w (fun ret u =>
      ret = .ok ∧ u = w.record (.sent ⟨target, payload, true⟩)) := by
  apply Returns.ite (fun low => by omega)
  intro _
  apply Returns.bind (P := fun (r : Reply) u => Works r ∧ u = w) (.ask (fun _ h => h.1) (fun _ h => ⟨h, rfl⟩))
  rintro r u ⟨works, rfl⟩
  apply Returns.ite
  · intro closed
    rw [works.2.2.1] at closed
    cases closed
  · intro _
    apply Returns.bind (P := fun _ v => v = u.record (.sent ⟨target, payload, true⟩))
    · exact .writes (by rw [works.2.2.2, decide_eq_true rfl])
    · intro _ v hv
      exact .pure ⟨works.2.2.2, hv⟩

/-- One copy for each target, and nothing else. -/
def Delivered (payload : Json) (targets : List ℤ) (w u : World cfg) : Prop :=
  u.ctx = w.ctx ∧ u.trace = w.trace ++ targets.map (fun t => .sent ⟨t, payload, true⟩)

theorem relayToAll_works (payload : Json) (targets : List ℤ) (known : ∀ t ∈ targets, 0 ≤ t) :
    Returns Works (relayToAll payload targets : Server cfg _) w (fun ret u => ret = .ok ∧ Delivered payload targets w u) := by
  induction targets generalizing w with
  | nil => exact .pure ⟨rfl, rfl, (List.append_nil _).symm⟩
  | cons t targets ih =>
    apply (sendText_works payload (known t List.mem_cons_self)).bind
    rintro ret u ⟨rfl, rfl⟩
    apply Returns.ite
    · intro _
      apply (ih (fun t' ht => known t' (List.mem_cons_of_mem _ ht))).post
      rintro ret v ⟨done, same, sent⟩
      refine ⟨done, same, ?_⟩
      rw [sent]
      simp [World.record]
    · intro failed
      exact absurd rfl failed

theorem sendToAll_works (payload : Json) (targets : List ℤ) (known : ∀ t ∈ targets, 0 ≤ t) :
    Returns Works (sendToAll payload targets : Server cfg _) w (fun closed u => closed = false ∧ Delivered payload targets w u) := by
  induction targets generalizing w with
  | nil => exact .pure ⟨rfl, rfl, (List.append_nil _).symm⟩
  | cons t targets ih =>
    apply (sendText_works payload (known t List.mem_cons_self)).bind
    rintro ret u ⟨rfl, rfl⟩
    apply Returns.ite
    · intro _
      apply (ih (fun t' ht => known t' (List.mem_cons_of_mem _ ht))).post
      rintro closed v ⟨done, same, sent⟩
      refine ⟨done, same, ?_⟩
      rw [sent]
      simp [World.record]
    · intro failed
      exact absurd rfl failed

/-- A response for the listed users that wants nothing. -/
structure Passes (cfg : Config) (root message : Json) (users : List String) (id : ℕ) : Prop where
  sender : ∃ s, root.member "from" = some (.str s) ∧ s ≠ "" ∧ strlen s ≤ maxUserIdLen
  name : ∃ s, root.member "name" = some (.str s) ∧ s ≠ "" ∧ strlen s ≤ maxNameLen
  request : ∃ s, root.member "requestId" = some (.str s) ∧ s ≠ "" ∧ strlen s ≤ maxRequestIdLen
  target : Target cfg root false users
  carries : root.member "message" = some message
  whole : Whole cfg message id
  entitled : ∀ user ∈ users, Entitled message user

theorem Passes.matches (h : Passes cfg root message users id) : historyResponseTargetsMatchMessage root message = true := by
  obtain ⟨to_users, at_to, -, -, is_users⟩ := h.target.read
  have object : isObjectItem (root.member "to") = true := by
    rw [at_to]
    cases to_users with
    | obj ms => rfl
    | _ => cases is_users
  have some_users : users ≠ [] := by
    rcases h.target.someone with no | some_users
    · cases no
    · exact some_users
  have listed : itemMember (root.member "to") "users" = some (.arr (users.map .str)) := by
    rw [at_to]
    exact is_users
  unfold historyResponseTargetsMatchMessage
  dsimp only
  rw [if_pos object, listed]
  simp only [Bool.and_eq_true, Bool.not_eq_true', List.all_eq_true, List.mem_map]
  refine ⟨by simpa using some_users, ?_⟩
  rintro _ ⟨user, among, rfl⟩
  obtain ⟨named, short⟩ := h.target.ids user among
  have read : stringInRange (some (.str user)) maxUserIdLen false = some user := by
    simp [stringInRange, named, short]
  unfold targetVisible
  rw [read]
  exact messageVisibleToUser_iff.mpr ⟨h.whole.admitted.object, named, h.entitled user among⟩

theorem allocates_works : Returns Works (allocates : Server cfg Bool) w (fun done u => done = true ∧ u = w) := by
  apply Returns.bind (P := fun (r : Reply) u => r.alloc = true ∧ u = w) (.ask (fun _ h => h.1) (fun _ h => ⟨h.2.1, rfl⟩))
  rintro r u h
  exact .pure h

theorem printUnformatted_works (j : Json) :
    Returns Works (printUnformatted j : Server cfg (Option Json)) w (fun printed u =>
      printed = some (cfg.printer.printed j) ∧ u = w) := by
  apply allocates_works.bind
  rintro done u ⟨rfl, rfl⟩
  exact .pure ⟨rfl, rfl⟩

theorem relayPayloadToTargets_works {to_users : Json} (is_all : to_users.member "all" = some (.bool false))
    (is_users : to_users.member "users" = some (.arr (users.map .str))) (some_users : users ≠ []) (payload : Json)
    (known : ∀ t ∈ picked (addressed users) w.ctx.clientSlots, 0 ≤ t) :
    Returns Works (relayPayloadToTargets to_users payload : Server cfg _) w (fun ret u =>
      ret = .ok ∧ Delivered payload (picked (addressed users) w.ctx.clientSlots) w u) := by
  have object : to_users.isObject = true := by
    cases to_users with
    | obj ms => rfl
    | _ => cases is_all
  unfold relayPayloadToTargets
  rw [if_neg (by rw [object]; decide), is_all, is_users]
  dsimp only
  rw [if_neg (by simp [Protocol.isTrue, hasItems, some_users])]
  apply Returns.bind (P := fun table u => table = w.ctx.clientSlots ∧ u = w) (.reads ⟨rfl, rfl⟩)
  rintro table u ⟨rfl, rfl⟩
  exact relayToAll_works payload _ known

theorem handleHistoryResponseMessage_works (h : Passes cfg root message users id) (older : id < restoreBeforeId w.ctx)
    (known : ∀ t ∈ picked (addressed users) w.ctx.clientSlots, 0 ≤ t) :
    Returns Works (handleHistoryResponseMessage fd root : Server cfg _) w (fun ret u =>
      ret = .ok ∧ Delivered (cfg.printer.printed root) (picked (addressed users) w.ctx.clientSlots) w u) := by
  obtain ⟨sender, is_sender, some_sender, short_sender⟩ := h.sender
  obtain ⟨name, is_name, some_name, short_name⟩ := h.name
  obtain ⟨request, is_request, some_request, short_request⟩ := h.request
  obtain ⟨to_users, at_to, -, is_all, is_users⟩ := h.target.read
  have some_users : users ≠ [] := by
    rcases h.target.someone with no | some_users
    · cases no
    · exact some_users
  unfold handleHistoryResponseMessage
  rw [if_neg (by
      rw [inRange_of is_sender some_sender short_sender, inRange_of is_name some_name short_name,
        inRange_of is_request some_request short_request]
      decide),
    validateToObject_whole h.target, pure_then]
  dsimp only
  rw [if_neg (by decide), if_neg (by
      rw [at_to]
      change ¬isTrue (to_users.member "all") = true
      rw [is_all]
      decide),
    h.carries, validateHistoryMessageObject_whole h.whole, pure_then]
  dsimp only
  rw [if_neg (by decide), set_found h.carries]
  apply Returns.bind (P := fun before u => before = restoreBeforeId w.ctx ∧ u = w) (.reads ⟨rfl, rfl⟩)
  rintro before u ⟨rfl, rfl⟩
  rw [h.whole.id, if_neg (by simpa using older), if_neg (by rw [h.matches]; decide)]
  apply (printUnformatted_works root).bind
  rintro printed v ⟨rfl, rfl⟩
  dsimp only
  rw [at_to]
  apply (relayPayloadToTargets_works is_all is_users some_users _ known).bind
  rintro ret x ⟨rfl, delivered⟩
  apply Returns.ite (fun failed => absurd rfl failed)
  intro _
  exact .pure ⟨rfl, delivered⟩

/-- A history request with a boundary. -/
structure Requests (root : Json) (requested : ℕ) : Prop where
  sender : ∃ s, root.member "from" = some (.str s) ∧ s ≠ "" ∧ strlen s ≤ maxUserIdLen
  name : ∃ s, root.member "name" = some (.str s) ∧ s ≠ "" ∧ strlen s ≤ maxNameLen
  request : ∃ s, root.member "requestId" = some (.str s) ∧ s ≠ "" ∧ strlen s ≤ maxRequestIdLen
  boundary : jsonSafeMessageId (root.member "restore_before_id") = some requested

/-- What the clients get to see of a request. -/
def passedOn (printer : Printer) (root : Json) (before : ℕ) : Json :=
  printer.printed ((root.delete "restore_before_id").append "restore_before_id" (natJson before))

section passedOn
variable (printer : Printer)

theorem passedOn_boundary (object : root.isObject = true) (unique : UniqueKeys root.members) (before : ℕ) :
    (passedOn printer root before).member "restore_before_id" = some (.num (printer.read before)) := by
  unfold passedOn
  rw [printer.printed_member,
    member_append_self _ _ (by rw [delete_isObject]; exact object) (member_delete_self _ unique)]
  rfl

theorem passedOn_others {key : String} (other : key ≠ "restore_before_id") (before : ℕ) :
    (passedOn printer root before).member key = (root.member key).map printer.printed := by
  unfold passedOn
  rw [printer.printed_member, member_append_ne _ _ other, member_delete_ne _ other]

end passedOn

/-- Everybody who is joined gets the request, and learns the lower of the two boundaries. -/
theorem handleHistoryRequestMessage_works {requested : ℕ} (h : Requests root requested) (some_asked : 1 < requested)
    (some_older : 1 < restoreBeforeId w.ctx) (known : ∀ t ∈ picked receives w.ctx.clientSlots, 0 ≤ t) :
    Returns Works (handleHistoryRequestMessage fd root : Server cfg _) w (fun ret u =>
      ret = .ok ∧ Delivered (passedOn cfg.printer root (min requested (restoreBeforeId w.ctx))) (picked receives w.ctx.clientSlots) w u) := by
  obtain ⟨sender, is_sender, some_sender, short_sender⟩ := h.sender
  obtain ⟨name, is_name, some_name, short_name⟩ := h.name
  obtain ⟨request, is_request, some_request, short_request⟩ := h.request
  unfold handleHistoryRequestMessage
  rw [h.boundary]
  dsimp only
  rw [if_neg (by
    rw [inRange_of is_sender some_sender short_sender, inRange_of is_name some_name short_name,
      inRange_of is_request some_request short_request]
    simpa using some_asked)]
  apply Returns.bind (P := fun before u => before = restoreBeforeId w.ctx ∧ u = w) (.reads ⟨rfl, rfl⟩)
  rintro before u ⟨rfl, rfl⟩
  apply Returns.ite (fun low => absurd (lt_min some_asked some_older) (Nat.not_lt.mpr low))
  intro _
  apply allocates_works.bind
  rintro added v ⟨rfl, rfl⟩
  apply Returns.ite (fun failed => by cases failed)
  intro _
  apply (printUnformatted_works _).bind
  rintro printed v ⟨rfl, rfl⟩
  dsimp only
  apply Returns.bind (P := fun closed x => closed = false ∧
    Delivered (passedOn cfg.printer root (min requested (restoreBeforeId v.ctx))) (picked receives v.ctx.clientSlots) v x)
  · apply Returns.bind (P := fun table x => table = v.ctx.clientSlots ∧ x = v) (.reads ⟨rfl, rfl⟩)
    rintro table x ⟨rfl, rfl⟩
    exact sendToAll_works _ _ known
  rintro closed x ⟨rfl, delivered⟩
  apply Returns.ite (fun failed => by cases failed)
  intro _
  exact .pure ⟨rfl, delivered⟩

/-- What a computation that only notes the time or a sign of life leaves. -/
def Noted (w u : World cfg) : Prop := ∃ t, u = w.setSlots t ∧ Seated w.ctx.clientSlots t

theorem uptime_works : Returns Works (deviceUptimeS : Server cfg ℤ) w (fun _ u => u = w) := by
  apply Returns.bind (P := fun _ u => u = w) (.ask (fun _ h => h.1) (fun _ _ => rfl))
  rintro r u rfl
  exact .pure rfl

theorem firstSlot_only {i : Fin cfg.maxClients} (here : p (t i) = true) (only : ∀ k, p (t k) = true → k = i) :
    firstSlot p t = some i := by
  cases found : firstSlot p t with
  | none =>
    rw [firstSlot_none found i] at here
    cases here
  | some k => rw [only k (firstSlot_some found)]

theorem ensureSlot_works (distinct : Distinct w.ctx.clientSlots) (joined : JoinedOn w fd userId) :
    Returns Works (chatSessionsEnsureSlot fd : Server cfg Bool) w (fun ready u => ready = true ∧ Noted w u) := by
  obtain ⟨i, active, open_slot, -, same, -⟩ := joined
  have first : firstSlot (holdsFd fd) w.ctx.clientSlots = some i := by
    apply firstSlot_only (holdsFd_iff.mpr ⟨active, same⟩)
    intro k holds
    obtain ⟨active', same'⟩ := holdsFd_iff.mp holds
    exact distinct k i active' active (same'.trans same.symm)
  apply uptime_works.bind
  rintro now u rfl
  apply Returns.bind (P := fun table v => table = u.ctx.clientSlots ∧ v = u) (.reads ⟨rfl, rfl⟩)
  rintro table v ⟨rfl, rfl⟩
  have ensured : ensureSlot now v.ctx.clientSlots fd =
      (true, Function.update v.ctx.clientSlots i { v.ctx.clientSlots i with isAlive := true }) := by
    unfold ensureSlot
    rw [first]
    dsimp only
    rw [if_neg (by rw [open_slot]; decide)]
  rw [ensured]
  have seated : Seated v.ctx.clientSlots
      (Function.update v.ctx.clientSlots i { v.ctx.clientSlots i with isAlive := true }) := by
    intro k
    by_cases here : k = i
    · subst here
      rw [Function.update_self]
      exact ⟨rfl, rfl, rfl, rfl, rfl⟩
    · rw [Function.update_of_ne here]
      exact seat_self _
  apply Returns.bind (P := fun _ x => Noted v x) (.writes ⟨_, rfl, seated⟩)
  intro _ x noted
  exact .pure ⟨rfl, noted⟩

theorem updateTimeSample_works (root : Json) :
    Returns Works (chatSessionsUpdateTimeSample fd root : Server cfg Unit) w (fun _ u => Noted w u) := by
  have unchanged : Noted w w := ⟨w.ctx.clientSlots, rfl, fun _ => seat_self _⟩
  unfold chatSessionsUpdateTimeSample
  split
  · refine Returns.ite ?_ ?_
    · intro _
      exact .pure unchanged
    · intro _
      apply uptime_works.bind
      rintro uptime u rfl
      apply Returns.bind (P := fun table v => table = u.ctx.clientSlots ∧ v = u) (.reads ⟨rfl, rfl⟩)
      rintro table v ⟨rfl, rfl⟩
      refine .writes ⟨_, rfl, ?_⟩
      intro i
      rcases updateTimeSample_slot v.ctx.clientSlots fd (truncate _ - uptime) i with same | ⟨-, sampled⟩
      · rw [same]
        exact seat_self _
      · rw [sampled]
        exact ⟨rfl, rfl, rfl, rfl, rfl⟩
  · exact .pure unchanged

theorem requireJoinedIdentity_works (distinct : Distinct w.ctx.clientSlots) (joined : JoinedOn w fd userId)
    (sender : root.member "from" = some (.str userId)) (named : userId ≠ "") (short : strlen userId ≤ maxUserIdLen) :
    Returns Works (requireJoinedIdentity fd root : Server cfg EspErr) w (fun ret u => ret = .ok ∧ Noted w u) := by
  obtain ⟨i, active, open_slot, is_joined, same, rfl⟩ := joined
  have first : firstSlot (liveOn fd) w.ctx.clientSlots = some i := by
    apply firstSlot_only (liveOn_iff.mpr ⟨active, open_slot, same⟩)
    intro k live
    obtain ⟨active', -, same'⟩ := liveOn_iff.mp live
    exact distinct k i active' active (same'.trans same.symm)
  have read : stringInRange (root.member "from") maxUserIdLen false = some (w.ctx.clientSlots i).userId := by
    rw [sender]
    simp [stringInRange, named, short]
  have status : checkIdentity w.ctx.clientSlots fd (some (w.ctx.clientSlots i).userId) = .ok := by
    unfold checkIdentity
    rw [first]
    simp [is_joined, named]
  unfold requireJoinedIdentity
  rw [read]
  dsimp only
  apply Returns.bind (P := fun identity u => identity = .ok ∧ u = w) (.reads ⟨status, rfl⟩)
  rintro identity u ⟨rfl, rfl⟩
  apply Returns.ite (fun no => by cases no)
  intro _
  apply Returns.ite (fun no => by simp at no)
  intro _
  apply (updateTimeSample_works root).bind
  intro _ v noted
  exact .pure ⟨rfl, noted⟩

/-- A text frame that reached the node whole, on the connection its sender is joined on. -/
structure Arrives (cfg : Config) (cJSONParse : CJSONParse) (w : World cfg) (fd : ℤ) (payload : List UInt8) (root : Json) (type : String) :
    Prop where
  short : payload.length ≤ cfg.maxWsPayloadBytes
  parsed : chatJsonParseObject cJSONParse payload = some root
  typed : root.member "type" = some (.str type)
  sender : ∃ userId, root.member "from" = some (.str userId) ∧ userId ≠ "" ∧ strlen userId ≤ maxUserIdLen ∧ JoinedOn w fd userId

variable {cJSONParse : CJSONParse} {payload : List UInt8} {type : String} {out : Json}

theorem chatWsHandler_works (table : Distinct w.ctx.clientSlots) (arrives : Arrives cfg cJSONParse w fd payload root type)
    (handled : type = "historyRequest" ∨ type = "historyResponse")
    (passed : ∀ t, Seated w.ctx.clientSlots t → Returns Works (handleTyped fd type root : Server cfg _) (w.setSlots t) (fun ret u =>
      ret = .ok ∧ Delivered out (picked p t) (w.setSlots t) u))
    (same : ∀ s s', Seat s s' → p s' = p s) :
    Returns Works (chatWsHandler cJSONParse fd ⟨.text, true, payload, .ok, .ok⟩ : Server cfg EspErr) w (fun ret u =>
      ret = .ok ∧ Seated w.ctx.clientSlots u.ctx.clientSlots ∧
        u.trace = w.trace ++ (picked p w.ctx.clientSlots).map (fun t => .sent ⟨t, out, true⟩)) := by
  obtain ⟨short, parsed, typed, userId, sender, named, brief, joined⟩ := arrives
  have filled : payload ≠ [] := by
    rintro rfl
    rw [chatJsonParseObject, if_pos (.inl rfl)] at parsed
    cases parsed
  have long : ¬cfg.maxWsPayloadBytes < payload.length := Nat.not_lt.mpr short
  have read : stringInRange (root.member "type") maxTypeLen false = some type := by
    rw [typed]
    rcases handled with rfl | rfl
    · decide
    · decide
  have others : type ≠ "pong" ∧ type ≠ "join" := by
    rcases handled with rfl | rfl
    · decide
    · decide
  apply (ensureSlot_works table joined).bind
  rintro ready u ⟨rfl, t, rfl, seated⟩
  apply Returns.ite (fun no => by cases no)
  intro _
  unfold handleFrame
  rw [if_neg (by simp), if_neg (by simp [filled]), if_neg filled, if_neg long]
  apply allocates_works.bind
  rintro buffer u ⟨rfl, rfl⟩
  apply Returns.ite (fun no => by cases no)
  intro _
  rw [if_neg (by simp)]
  unfold handleReceived handleText
  rw [if_neg (by simp), if_neg (by simp), if_neg (by simp), parsed]
  dsimp only
  unfold chatProtocolHandleJson
  rw [read]
  dsimp only
  rw [if_neg others.1, if_neg others.2]
  apply (requireJoinedIdentity_works (seated.distinct table) (seated.joinedOn (u := w.setSlots t) |>.mpr joined) sender named brief).bind
  rintro ret u ⟨rfl, t', rfl, seated'⟩
  apply Returns.ite (fun no => absurd rfl no)
  intro _
  have still : Seated w.ctx.clientSlots t' := seated.trans seated'
  apply (passed t' still).post
  rintro ret u ⟨rfl, unchanged, sent⟩
  refine ⟨rfl, ?_, ?_⟩
  · rw [unchanged]
    exact still
  · rw [← still.picked same]
    exact sent

theorem positive_run (cJSONParse : CJSONParse) {s : Node cfg} (h : ∀ fd ∈ s.openFds, 0 ≤ fd) (events : List Event) :
    ∀ fd ∈ (run cJSONParse s events).openFds, 0 ≤ fd := by
  induction events generalizing s with
  | nil => exact h
  | cons e events ih => exact ih (QuietPresence.positive_step cJSONParse h e)

/-- Exactly one copy of `out` goes to each client that `who` tells, nothing else goes out, and everybody stays
    where they are. -/
def Spreads (s s' : Node cfg) (out : Json) (who : String → Prop) : Prop :=
  s'.powered = true ∧ (∃ targets : List ℤ, targets.Nodup ∧
    (∀ t, t ∈ targets ↔ ∃ user, who user ∧ JoinedOn s.world t user) ∧
    s'.world.trace = s.world.trace ++ targets.map (fun t => .sent ⟨t, out, true⟩)) ∧
  ∀ t user, JoinedOn s'.world t user ↔ JoinedOn s.world t user

theorem frame_spreads {s : Node cfg} {env : ℕ → Reply} {who : String → Prop} (serves : s.serves fd)
    (table : TableInvariant s.openFds s.world.ctx.clientSlots) (works : ∀ k, Works (env k))
    (active : ∀ s, p s = true → s.active = true)
    (chosen : ∀ t, t ∈ picked p s.world.ctx.clientSlots ↔ ∃ user, who user ∧ JoinedOn s.world t user)
    (spread : Returns Works (chatWsHandler cJSONParse fd ⟨.text, true, payload, .ok, .ok⟩ : Server cfg EspErr) s.world
      (fun ret u => ret = .ok ∧ Seated s.world.ctx.clientSlots u.ctx.clientSlots ∧
        u.trace = s.world.trace ++ (picked p s.world.ctx.clientSlots).map (fun t => .sent ⟨t, out, true⟩))) :
    Spreads s (step cJSONParse s (.frame fd ⟨.text, true, payload, .ok, .ok⟩ env)) out who := by
  obtain ⟨ret, u, env', ran, -, -, seated, sent⟩ := spread.run env works
  have stepped : step cJSONParse s (.frame fd ⟨.text, true, payload, .ok, .ok⟩ env) = { s with world := u, powered := true } := by
    unfold step
    dsimp only
    rw [if_pos serves]
    unfold Node.exec
    rw [ran]
    rfl
  rw [stepped]
  exact ⟨rfl, ⟨_, picked_nodup active table.distinct, chosen, sent⟩, fun t user => seated.joinedOn⟩

theorem picked_receives {t : ℤ} :
    t ∈ picked receives w.ctx.clientSlots ↔ ∃ user, True ∧ JoinedOn w t user := by
  rw [mem_picked]
  constructor
  · rintro ⟨i, receiving, rfl⟩
    unfold receives at receiving
    simp only [Bool.and_eq_true, Bool.not_eq_true'] at receiving
    exact ⟨_, trivial, i, receiving.1.1, receiving.1.2, receiving.2, rfl, rfl⟩
  · rintro ⟨user, -, i, active, open_slot, joined, same, -⟩
    exact ⟨i, by simp [receives, active, open_slot, joined], same⟩

theorem picked_addressed {fds : List ℤ} (table : TableInvariant fds w.ctx.clientSlots) {t : ℤ} :
    t ∈ picked (addressed users) w.ctx.clientSlots ↔ ∃ user, user ∈ users ∧ JoinedOn w t user := by
  rw [mem_picked]
  constructor
  · rintro ⟨i, chosen, rfl⟩
    obtain ⟨active, joined, -, among⟩ := addressed_iff.mp chosen
    exact ⟨_, among, i, active, ((table.slot i).joined joined).2.1, joined, rfl, rfl⟩
  · rintro ⟨user, among, i, active, open_slot, joined, same, rfl⟩
    exact ⟨i, addressed_iff.mpr ⟨active, joined, ((table.slot i).joined joined).2.2, among⟩, same⟩

theorem picked_known {fds : List ℤ} {t : SlotTable cfg.maxClients} (table : TableInvariant fds t) (positive : ∀ fd ∈ fds, 0 ≤ fd)
    (active : ∀ s, p s = true → s.active = true) : ∀ fd ∈ picked p t, 0 ≤ fd := by
  intro fd among
  obtain ⟨i, chosen, rfl⟩ := mem_picked.mp among
  exact positive _ (table.isOpen i (active _ chosen))

structure Sound (s : Node cfg) : Prop where
  table : TableInvariant s.openFds s.world.ctx.clientSlots
  positive : ∀ fd ∈ s.openFds, 0 ≤ fd

theorem sound_node (cJSONParse : CJSONParse) (flash : InitialFlash) (events : List Event) :
    Sound (run cJSONParse (Node.initial flash : Node cfg) events) :=
  ⟨sound_run cJSONParse flash events, positive_run cJSONParse (fun _ among => absurd among List.not_mem_nil) events⟩

theorem response_spreads {s : Node cfg} {env : ℕ → Reply} (sound : Sound s) (serves : s.serves fd)
    (arrives : Arrives cfg cJSONParse s.world fd payload root "historyResponse") (passes : Passes cfg root message users id)
    (older : id < restoreBeforeId s.world.ctx) (works : ∀ k, Works (env k)) :
    Spreads s (step cJSONParse s (.frame fd ⟨.text, true, payload, .ok, .ok⟩ env)) (cfg.printer.printed root)
      (fun user => user ∈ users) := by
  have active : ∀ c, addressed users c = true → c.active = true := fun _ chosen => (addressed_iff.mp chosen).1
  apply frame_spreads serves sound.table works active (fun _ => picked_addressed sound.table)
  apply chatWsHandler_works sound.table.distinct arrives (.inr rfl)
  · intro t still
    have known : ∀ target ∈ picked (addressed users) t, 0 ≤ target := by
      rw [still.picked (fun _ _ => addressed_seat)]
      exact picked_known sound.table sound.positive active
    exact handleHistoryResponseMessage_works (w := s.world.setSlots t) passes older known
  · exact fun _ _ => addressed_seat

theorem request_spreads {s : Node cfg} {env : ℕ → Reply} {requested : ℕ} (sound : Sound s) (serves : s.serves fd)
    (arrives : Arrives cfg cJSONParse s.world fd payload root "historyRequest") (requests : Requests root requested)
    (some_asked : 1 < requested) (some_older : 1 < restoreBeforeId s.world.ctx) (works : ∀ k, Works (env k)) :
    Spreads s (step cJSONParse s (.frame fd ⟨.text, true, payload, .ok, .ok⟩ env))
      (passedOn cfg.printer root (min requested (restoreBeforeId s.world.ctx))) (fun _ => True) := by
  apply frame_spreads serves sound.table works (fun _ => receives_active) (fun _ => picked_receives)
  apply chatWsHandler_works sound.table.distinct arrives (.inl rfl)
  · intro t still
    have known : ∀ target ∈ picked receives t, 0 ≤ target := by
      rw [still.picked (fun _ _ => receives_seat)]
      exact picked_known sound.table sound.positive (fun _ => receives_active)
    exact handleHistoryRequestMessage_works (w := s.world.setSlots t) requests some_asked some_older known
  · exact fun _ _ => receives_seat

/-! Alice and Bob are here, and five messages were sent before the node was switched on. -/

open ResponseLimit (quoted field braces)

def joinText (user : String) : List Char := braces [field "type" (quoted "join".toList), field "from" (quoted user.toList),
  field "name" (quoted user.toList), field "since_id" ['0']]

def joinRoot (user : String) : Json :=
  .obj [("type", .str "join"), ("from", .str user), ("name", .str user), ("since_id", natJson 0)]

def requestText (before : String) : List Char := braces [field "type" (quoted "historyRequest".toList),
  field "from" (quoted "alice".toList), field "name" (quoted "alice".toList), field "requestId" (quoted "hist-1".toList),
  field "restore_before_id" before.toList]

def requestRoot (before : ℕ) : Json := .obj [("type", .str "historyRequest"), ("from", .str "alice"), ("name", .str "alice"),
  ("requestId", .str "hist-1"), ("restore_before_id", natJson before)]

def noteText : List Char := braces [field "id" ['3'], field "type" (quoted "text".toList), field "from" (quoted "bob".toList),
  field "name" (quoted "bob".toList),
  field "to" (braces [field "all" "true".toList, field "users" ['[', ']']]),
  field "data" (quoted "hi".toList), field "timestamp" ['7']]

def noteRoot : Json := .obj [("id", natJson 3), ("type", .str "text"), ("from", .str "bob"), ("name", .str "bob"),
  ("to", .obj [("all", .bool true), ("users", .arr [])]), ("data", .str "hi"), ("timestamp", natJson 7)]

def responseText : List Char := braces [field "type" (quoted "historyResponse".toList), field "from" (quoted "bob".toList),
  field "name" (quoted "bob".toList),
  field "to" (braces [field "all" "false".toList, field "users" ('[' :: quoted "alice".toList ++ [']'])]),
  field "requestId" (quoted "hist-1".toList), field "message" noteText]

def responseRoot : Json := .obj [("type", .str "historyResponse"), ("from", .str "bob"), ("name", .str "bob"),
  ("to", .obj [("all", .bool false), ("users", .arr [.str "alice"])]), ("requestId", .str "hist-1"), ("message", noteRoot)]

def bytes (text : List Char) : List UInt8 := Utf8Texts.encoded text

def parse (payload : List UInt8) : Option (Json × ℕ) :=
  if payload = bytes (requestText "9") then some (requestRoot 9, payload.length)
  else if payload = bytes (requestText "4503599627370500") then some (requestRoot 4503599627370500, payload.length)
  else if payload = bytes responseText then some (responseRoot, payload.length)
  else if payload = bytes (joinText "alice") then some (joinRoot "alice", payload.length)
  else if payload = bytes (joinText "bob") then some (joinRoot "bob", payload.length)
  else none

def oldFlash : InitialFlash := ⟨⟨some 5, none⟩, by simp [chatMessageMaxSafeId]⟩

def joinFrame (user : String) : Frame := ⟨.text, true, bytes (joinText user), .ok, .ok⟩

def gathering : List Event :=
  [.powerOn ResponseLimit.environment, .openSession 1, .frame 1 (joinFrame "alice") ResponseLimit.environment,
    .openSession 2, .frame 2 (joinFrame "bob") ResponseLimit.environment]

def gathered : Node (Config.default fifteenDigits) := run parse (Node.initial oldFlash) gathering

def seatedAs (s : Node (Config.default fifteenDigits)) (fd : ℤ) (user : String) : Bool :=
  (List.finRange (Config.default fifteenDigits).maxClients).any (fun i =>
    let c := s.world.ctx.clientSlots i
    c.active && !c.closing && c.joined && decide (c.fd = fd) && decide (c.userId = user))

theorem joinedOn_of_seated {s : Node (Config.default fifteenDigits)} {user : String} (h : seatedAs s fd user = true) :
    JoinedOn s.world fd user := by
  obtain ⟨i, -, seated⟩ := List.any_eq_true.mp h
  simp only [Bool.and_eq_true, Bool.not_eq_true', decide_eq_true_eq] at seated
  obtain ⟨⟨⟨⟨active, open_slot⟩, joined⟩, same⟩, named⟩ := seated
  exact ⟨i, active, open_slot, joined, same, named⟩

set_option maxRecDepth 100000 in
theorem gathered_here : gathered.serves 1 ∧ gathered.serves 2 ∧ seatedAs gathered 1 "alice" = true ∧
    seatedAs gathered 2 "bob" = true ∧
    3 < restoreBeforeId (run parse (Node.initial oldFlash : Node (Config.default fifteenDigits)) gathering).world.ctx := by decide +kernel

theorem environment_works (k : ℕ) : Works (ResponseLimit.environment k) := ⟨rfl, rfl, rfl, rfl⟩

theorem request_parsed : chatJsonParseObject parse (bytes (requestText "9")) = some (requestRoot 9) :=
  ResponseLimit.parsed_whole (if_pos rfl) (by decide +kernel) (by decide +kernel) (by decide) rfl

theorem response_parsed : chatJsonParseObject parse (bytes responseText) = some responseRoot := by
  have other : bytes responseText ≠ bytes (requestText "9") := by decide +kernel
  have longer : bytes responseText ≠ bytes (requestText "4503599627370500") := by decide +kernel
  have reads : parse (bytes responseText) = some (responseRoot, (bytes responseText).length) := by
    unfold parse
    rw [if_neg other, if_neg longer, if_pos rfl]
  exact ResponseLimit.parsed_whole reads (by decide +kernel) (by decide +kernel) (by decide) rfl

theorem request_arrives : Arrives (Config.default fifteenDigits) parse gathered.world 1 (bytes (requestText "9")) (requestRoot 9)
    "historyRequest" where
  short := by decide +kernel
  parsed := request_parsed
  typed := rfl
  sender := ⟨"alice", rfl, by decide, by decide, joinedOn_of_seated gathered_here.2.2.1⟩

theorem response_arrives : Arrives (Config.default fifteenDigits) parse gathered.world 2 (bytes responseText) responseRoot "historyResponse" where
  short := by decide +kernel
  parsed := response_parsed
  typed := rfl
  sender := ⟨"bob", rfl, by decide, by decide, joinedOn_of_seated gathered_here.2.2.2.1⟩

theorem requestRoot_requests : Requests (requestRoot 9) 9 where
  sender := ⟨"alice", rfl, by decide, by decide⟩
  name := ⟨"alice", rfl, by decide, by decide⟩
  request := ⟨"hist-1", rfl, by decide, by decide⟩
  boundary := by decide

theorem noteRoot_whole : Whole (Config.default fifteenDigits) noteRoot 3 where
  admitted :=
    { object := rfl
      unique := by
        unfold UniqueKeys
        decide
      sender := ⟨"bob", rfl, by decide, by decide⟩
      name := ⟨"bob", rfl, by decide, by decide⟩
      content := ⟨"text", "hi", rfl, .inl rfl, rfl, by decide, fun _ => by decide, by decide⟩
      target := ⟨true, [], ⟨⟨_, rfl, by unfold UniqueKeys; decide, rfl, rfl⟩, by decide, by simp, .inl rfl⟩⟩ }
  id := by decide
  timestamp := by decide

theorem responseRoot_passes : Passes (Config.default fifteenDigits) responseRoot noteRoot ["alice"] 3 where
  sender := ⟨"bob", rfl, by decide, by decide⟩
  name := ⟨"bob", rfl, by decide, by decide⟩
  request := ⟨"hist-1", rfl, by decide, by decide⟩
  target := ⟨⟨_, rfl, by unfold UniqueKeys; decide, rfl, rfl⟩, by decide, by simp; decide, .inr (by decide)⟩
  carries := rfl
  whole := noteRoot_whole
  entitled := by
    intro user _
    exact .inr (.inl (by decide))

/-- In every run, a response that lacks nothing goes out as it is printed to the listed users who are joined, and
    to nobody else, when all of them may see the message and it is older than the boundary. -/
theorem response_passed_on (cJSONParse : CJSONParse) (flash : InitialFlash) (events : List Event) (fd : ℤ)
    (payload : List UInt8) (root message : Json) (users : List String) (id : ℕ)
    (serves : (run cJSONParse (Node.initial flash : Node cfg) events).serves fd)
    (arrives : Arrives cfg cJSONParse (run cJSONParse (Node.initial flash) events).world fd payload root "historyResponse")
    (passes : Passes cfg root message users id)
    (older : id < restoreBeforeId (run cJSONParse (Node.initial flash : Node cfg) events).world.ctx)
    (env : ℕ → Reply) (works : ∀ k, Works (env k)) :
    let s := run cJSONParse (Node.initial flash : Node cfg) events
    Spreads s (step cJSONParse s (.frame fd ⟨.text, true, payload, .ok, .ok⟩ env)) (cfg.printer.printed root)
      (fun user => user ∈ users) :=
  response_spreads (sound_node cJSONParse flash events) serves arrives passes older works

/-- Alice gets what Bob has kept. -/
theorem response_passed_on_bob : Spreads gathered
    (step parse gathered (.frame 2 ⟨.text, true, bytes responseText, .ok, .ok⟩ ResponseLimit.environment)) (fifteenDigits.printed responseRoot)
    (fun user => user ∈ ["alice"]) :=
  response_passed_on parse oldFlash gathering 2 _ responseRoot noteRoot ["alice"] 3 gathered_here.2.1 response_arrives
    responseRoot_passes gathered_here.2.2.2.2 ResponseLimit.environment environment_works

def countedFlash : InitialFlash := ⟨⟨some 4503599627370498, none⟩, by simp [chatMessageMaxSafeId]⟩

def counted : Node (Config.default fifteenDigits) := run parse (Node.initial countedFlash) gathering

set_option maxRecDepth 100000 in
theorem counted_here : counted.serves 1 ∧ seatedAs counted 1 "alice" = true ∧
    restoreBeforeId counted.world.ctx = 4503599627370499 := by
  decide +kernel

theorem counted_parsed : chatJsonParseObject parse (bytes (requestText "4503599627370500")) =
    some (requestRoot 4503599627370500) := by
  have other : bytes (requestText "4503599627370500") ≠ bytes (requestText "9") := by decide +kernel
  have reads : parse (bytes (requestText "4503599627370500")) =
      some (requestRoot 4503599627370500, (bytes (requestText "4503599627370500")).length) := by
    unfold parse
    rw [if_neg other, if_pos rfl]
  exact ResponseLimit.parsed_whole reads (by decide +kernel) (by decide +kernel) (by decide) rfl

theorem counted_arrives : Arrives (Config.default fifteenDigits) parse counted.world 1 (bytes (requestText "4503599627370500"))
    (requestRoot 4503599627370500) "historyRequest" where
  short := by decide +kernel
  parsed := counted_parsed
  typed := rfl
  sender := ⟨"alice", rfl, by decide, by decide, joinedOn_of_seated counted_here.2.1⟩

theorem counted_requests : Requests (requestRoot 4503599627370500) 4503599627370500 where
  sender := ⟨"alice", rfl, by decide, by decide⟩
  name := ⟨"alice", rfl, by decide, by decide⟩
  request := ⟨"hist-1", rfl, by decide, by decide⟩
  boundary := by decide

theorem counted_spreads : Spreads counted (step parse counted
    (.frame 1 ⟨.text, true, bytes (requestText "4503599627370500"), .ok, .ok⟩ ResponseLimit.environment))
    (passedOn fifteenDigits (requestRoot 4503599627370500) 4503599627370499) (fun _ => True) := by
  have sound : Sound counted := sound_node parse countedFlash gathering
  have spreads := request_spreads sound counted_here.1 counted_arrives counted_requests (by decide)
    (by rw [counted_here.2.2]; decide) environment_works
  rw [counted_here.2.2] at spreads
  exact spreads

/-- What is asked for is above the boundary, since that has too many digits. -/
theorem boundary_exceeded : ¬∀ (cJSONParse : CJSONParse) (flash : InitialFlash) (events : List Event) (e : Event)
    (new : List TraceEvent) (d : Delivery),
    let s := run cJSONParse (Node.initial flash : Node (Config.default fifteenDigits)) events
    (step cJSONParse s e).world.trace = s.world.trace ++ new → .sent d ∈ new →
    d.payload.member "type" = some (.str "historyRequest") →
    ∃ before : ℕ, 2 ≤ before ∧ before ≤ restoreBeforeId s.world.ctx ∧
      RecoveryBoundary.AsksBefore d.payload (natJson before) := by
  intro always
  obtain ⟨-, ⟨targets, -, among, sent⟩, -⟩ := counted_spreads
  have alice := (among 1).mpr ⟨"alice", trivial, joinedOn_of_seated counted_here.2.1⟩
  have type : (passedOn fifteenDigits (requestRoot 4503599627370500) 4503599627370499).member "type" =
      some (.str "historyRequest") := passedOn_others _ (by decide) _
  have object : (requestRoot 4503599627370500).isObject = true := rfl
  have unique : UniqueKeys (requestRoot 4503599627370500).members := by
    unfold UniqueKeys
    decide
  have carried := passedOn_boundary fifteenDigits object unique 4503599627370499
  have here : counted = run parse (Node.initial countedFlash) gathering := rfl
  rw [here] at sent
  obtain ⟨before, -, low, asks⟩ := always parse countedFlash gathering _ _ _ sent (List.mem_map.mpr ⟨1, alice, rfl⟩) type
  rw [← here, counted_here.2.2] at low
  have read : fifteenDigits.read (4503599627370499 : ℕ) = .fin (4503599627370500 : ℕ) := by decide
  have same : (before : ℚ) = (4503599627370500 : ℕ) := by
    have carries := carried.symm.trans asks.1
    rw [read] at carries
    exact (Number.fin.inj (Json.num.inj (Option.some.inj carries))).symm
  have above : before = 4503599627370500 := Nat.cast_injective same
  omega

end EspWebChat.RecoveryPassage
