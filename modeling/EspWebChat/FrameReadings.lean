import EspWebChat.Deliveries
import EspWebChat.WrittenMessages

set_option autoImplicit false

/-!
# What a tab takes for a chat message

The payloads the server makes up itself are read by a browser: none of them brings a message,
and only a refused join resets the cursor of a tab.
-/
namespace EspWebChat.FrameReadings
open JsonTree JsValues ClientSlots Interruptible ServerWorld MessageIdStore Sessions History Protocol
open ServerSteps SessionSteps HistorySteps

variable {cfg : Config} {w : World cfg} {fd : ℤ}

/-- A frame that neither brings a message nor resets the cursor. -/
structure Aside (payload : Json) : Prop where
  chat : (isText "text" (payload.lastMember "type") || isText "newGroup" (payload.lastMember "type")) = false
  recovered : isText "historyResponse" (payload.lastMember "type") = false
  resets : ¬(isText "error" (payload.lastMember "type") = true ∧ isText "bad_since_id" (payload.lastMember "code") = true)

/-- All members of that name have the value. -/
def Only (key : String) (v : Json) (ms : Members) : Prop := ∀ x, (key, x) ∈ ms → x = v

theorem only_nil (key : String) (v : Json) : Only key v [] := fun _ h => absurd h List.not_mem_nil

theorem only_append {key other : String} {v x : Json} {ms : Members} (h : Only key v ms) (agrees : other = key → x = v) :
    Only key v (ms ++ [(other, x)]) := by
  intro y hy
  cases List.mem_append.mp hy with
  | inl earlier => exact h y earlier
  | inr last =>
    obtain ⟨rfl, rfl⟩ := Prod.mk.inj (List.mem_singleton.mp last)
    exact agrees rfl

theorem only_last {key : String} {v x : Json} {ms : Members} (h : Only key v ms)
    (found : (Json.obj ms).lastMember key = some x) : x = v :=
  h x (List.mem_reverse.mp (mem_of_lookup found))

theorem only_text {key value other : String} {ms : Members} (h : Only key (.str value) ms)
    (reads : isText other ((Json.obj ms).lastMember key) = true) : other = value := by
  cases found : (Json.obj ms).lastMember key with
  | none =>
    rw [found] at reads
    cases reads
  | some x =>
    rw [found, only_last h found] at reads
    have same : some value = some other := eq_of_beq reads
    exact (Option.some.inj same).symm

theorem aside_of_type {type : String} {ms : Members} (only : Only "type" (.str type) ms) (own : type ∈ serverTypes)
    (harmless : type = "error" → ∃ code, code ≠ "bad_since_id" ∧ Only "code" (.str code) ms) : Aside (.obj ms) := by
  have other : ∀ t, t ∉ serverTypes → isText t ((Json.obj ms).lastMember "type") = false := by
    intro t foreign
    rw [Bool.eq_false_iff]
    intro reads
    exact foreign (only_text only reads ▸ own)
  refine ⟨?_, other _ (by decide), ?_⟩
  · rw [other "text" (by decide), other "newGroup" (by decide)]
    rfl
  · rintro ⟨error, reset⟩
    obtain ⟨code, fine, only_code⟩ := harmless (only_text only error).symm
    exact fine (only_text only_code reset).symm

theorem Aside.printed {payload : Json} (h : Aside payload) (p : CjsonPrinter.Printer) : Aside (p.printed payload) := by
  have same : ∀ key value, isText value ((p.printed payload).lastMember key) = isText value (payload.lastMember key) := by
    intro key value
    rw [p.printed_lastMember]
    exact WrittenMessages.isText_mapped p.numeric value _
  refine ⟨?_, ?_, ?_⟩
  · rw [same, same]
    exact h.chat
  · rw [same]
    exact h.recovered
  · rw [same, same]
    exact h.resets

section builders
variable {Step : World cfg → World cfg → Prop} {key other : String} {v x : Json} {ms : Members}

theorem addMember_only (h : Only key v ms) (agrees : other = key → x = v) :
    Traces Step (addMember ms other x : Server cfg Members) w (fun ms' u => u = w ∧ Only key v ms') := by
  apply addMember_spec.post
  intro ms' u _ hu
  obtain ⟨same, added⟩ := hu
  refine ⟨same, ?_⟩
  cases added with
  | inl dropped =>
    rw [dropped]
    exact h
  | inr appended =>
    rw [appended]
    exact only_append h agrees

theorem addMember_type {type : String} (h : Only "type" (.str type) ms) (agrees : other = "type" → x = .str type := by simp) :
    Traces Step (addMember ms other x : Server cfg Members) w (fun ms' u => u = w ∧ Only "type" (.str type) ms') :=
  addMember_only h agrees

structure ErrorCode (code : String) (ms : Members) : Prop where
  type : Only "type" (.str "error") ms
  code : Only "code" (.str code) ms

theorem addMember_error {code : String} (h : ErrorCode code ms) (type : other = "type" → x = .str "error" := by simp)
    (agrees : other = "code" → x = .str code := by simp) :
    Traces Step (addMember ms other x : Server cfg Members) w (fun ms' u => u = w ∧ ErrorCode code ms') := by
  apply addMember_spec.post
  intro ms' u _ hu
  obtain ⟨same, added⟩ := hu
  refine ⟨same, ?_⟩
  cases added with
  | inl dropped =>
    rw [dropped]
    exact h
  | inr appended =>
    rw [appended]
    exact ⟨only_append h.type type, only_append h.code agrees⟩

theorem chatHistoryBuildInfoPayload_aside : Traces Step (chatHistoryBuildInfoPayload : Server cfg _) w
    (fun payload u => u = w ∧ ∀ p ∈ payload, Aside p) := by
  apply allocates_spec.bind
  intro created u _ hu
  subst hu
  apply Traces.ite (fun _ => .pure ⟨rfl, by simp⟩)
  intro _
  apply (addMember_type (only_nil "type" (.str "historyInfo"))).bind
  intro ms u _ hu
  obtain ⟨rfl, h⟩ := hu
  apply (addMember_type h).bind
  intro ms u _ hu
  obtain ⟨rfl, h⟩ := hu
  apply currentTimestampS_spec.bind
  intro now u _ hu
  subst hu
  apply (addMember_type h).bind
  intro ms u _ hu
  obtain ⟨rfl, h⟩ := hu
  apply (addMember_type h).bind
  intro ms u _ hu
  obtain ⟨rfl, h⟩ := hu
  apply allocates_spec.bind
  intro toOk u _ hu
  subst hu
  apply Traces.bind (P := fun _ v => v = u) (.ite (fun _ => allocates_spec) (fun _ => .pure rfl))
  intro usersOk v _ hv
  subst hv
  apply Traces.ite (fun _ => .pure ⟨rfl, by simp⟩)
  intro _
  apply addMember_spec.bind
  intro all u _ hu
  obtain ⟨rfl, -⟩ := hu
  apply Traces.bind (P := fun _ v => v = u) (.reads rfl)
  intro bounds v _ hv
  subst hv
  apply (addMember_type (only_append h (by simp))).bind
  intro ms u _ hu
  obtain ⟨rfl, h⟩ := hu
  apply (addMember_type h).bind
  intro ms u _ hu
  obtain ⟨rfl, h⟩ := hu
  apply (addMember_type h).bind
  intro ms u _ hu
  obtain ⟨rfl, h⟩ := hu
  apply (addMember_type h).bind
  intro ms u _ hu
  obtain ⟨rfl, h⟩ := hu
  apply (addMember_type h).bind
  intro ms u _ hu
  obtain ⟨rfl, h⟩ := hu
  apply (addMember_type h).bind
  intro ms u _ hu
  obtain ⟨rfl, h⟩ := hu
  apply (addMember_type h).bind
  intro ms u _ hu
  obtain ⟨rfl, h⟩ := hu
  apply (addMember_type h).bind
  intro ms u _ hu
  obtain ⟨rfl, h⟩ := hu
  apply printUnformatted_spec.post
  intro printed v _ hv
  obtain ⟨rfl, hp⟩ := hv
  refine ⟨rfl, ?_⟩
  intro p hpm
  rw [hp p hpm]
  exact (aside_of_type h (by decide) (fun error => absurd error (by decide))).printed _

theorem chatSessionsBuildOnlineUsersPayload_aside : Traces Step (chatSessionsBuildOnlineUsersPayload : Server cfg _) w
    (fun payload u => u = w ∧ ∀ p ∈ payload, Aside p) := by
  apply allocates_spec.bind
  intro created u _ hu
  subst hu
  apply Traces.ite (fun _ => .pure ⟨rfl, by simp⟩)
  intro _
  apply (addMember_type (only_nil "type" (.str "onlineUsers"))).bind
  intro ms u _ hu
  obtain ⟨rfl, h⟩ := hu
  apply (addMember_type h).bind
  intro ms u _ hu
  obtain ⟨rfl, h⟩ := hu
  apply currentTimestampS_spec.bind
  intro now u _ hu
  subst hu
  apply (addMember_type h).bind
  intro ms u _ hu
  obtain ⟨rfl, h⟩ := hu
  apply allocates_spec.bind
  intro toOk u _ hu
  subst hu
  apply Traces.bind (P := fun _ v => v = u) (.ite (fun _ => allocates_spec) (fun _ => .pure rfl))
  intro usersOk v _ hv
  subst hv
  apply allocates_spec.bind
  intro dataOk u _ hu
  subst hu
  apply Traces.ite (fun _ => .pure ⟨rfl, by simp⟩)
  intro _
  apply addMember_spec.bind
  intro all u _ hu
  obtain ⟨rfl, -⟩ := hu
  apply slots_spec.bind
  intro table u _ hu
  obtain ⟨rfl, rfl⟩ := hu
  apply (listUsers_spec _ _ _).bind
  intro lists v _ hv
  subst hv
  apply printUnformatted_spec.post
  intro printed u _ hu
  obtain ⟨rfl, hp⟩ := hu
  refine ⟨rfl, ?_⟩
  intro p hpm
  rw [hp p hpm]
  have both : Only "type" (.str "onlineUsers") ((ms ++ [("to", Json.obj (("users", .arr lists.1) :: all))]) ++
      [("data", .arr lists.2)]) := only_append (only_append h (by simp)) (by simp)
  rw [List.append_assoc] at both
  exact (aside_of_type both (by decide) (fun error => absurd error (by decide))).printed _

end builders

def asides (cfg : Config) : Permission cfg := fun _ a => (∃ fd, a = .closing fd) ∨ ∃ d, a = .send d ∧ Aside d.payload

theorem chatWsSendText_aside {payload : Json} (aside : Aside payload) :
    Traces (Steps (asides cfg)) (chatWsSendText fd payload) w (fun _ _ => True) :=
  (chatWsSendText_spec (fun _ => .inr ⟨_, rfl, aside⟩)).post (fun _ _ _ _ => trivial)

theorem chatWsCloseClient_aside : Traces (Steps (asides cfg)) (chatWsCloseClient fd) w (fun _ _ => True) :=
  (chatWsCloseClient_spec (.inl ⟨fd, rfl⟩)).post (fun _ _ _ _ => trivial)

theorem chatWsSendError_aside {code : String} (message : String) (harmless : code ≠ "bad_since_id") :
    Traces (Steps (asides cfg)) (chatWsSendError fd code message) w (fun _ _ => True) := by
  apply allocates_spec.bind
  intro created u _ hu
  subst hu
  apply Traces.ite (fun _ => .pure trivial)
  intro _
  have empty : ErrorCode code [] := ⟨only_nil _ _, only_nil _ _⟩
  apply (addMember_error empty).bind
  intro ms u _ hu
  obtain ⟨rfl, h⟩ := hu
  apply (addMember_error h).bind
  intro ms u _ hu
  obtain ⟨rfl, h⟩ := hu
  apply (addMember_error h).bind
  intro ms u _ hu
  obtain ⟨rfl, h⟩ := hu
  apply (addMember_error h).bind
  intro ms u _ hu
  obtain ⟨rfl, h⟩ := hu
  apply currentTimestampS_spec.bind
  intro now u _ hu
  subst hu
  apply (addMember_error h).bind
  intro ms u _ hu
  obtain ⟨rfl, h⟩ := hu
  apply printUnformatted_spec.bind
  intro printed u _ hu
  obtain ⟨rfl, hp⟩ := hu
  cases printed with
  | none => exact .pure trivial
  | some payload =>
    apply chatWsSendText_aside
    rw [hp payload rfl]
    exact (aside_of_type h.type (by decide) (fun _ => ⟨code, harmless, h.code⟩)).printed _

theorem sendErrorAndClose_aside {code : String} (message : String) (harmless : code ≠ "bad_since_id") :
    Traces (Steps (asides cfg)) (sendErrorAndClose fd code message) w (fun ret _ => ret ≠ .ok) := by
  apply (chatWsSendError_aside message harmless).bind
  intro ret u _ _
  apply chatWsCloseClient_aside.bind
  intro _ v _ _
  apply Traces.pure
  split_ifs with ok
  · decide
  · exact ok

theorem chatWsBroadcast_aside {payload : Json} (aside : Aside payload) :
    Traces (Steps (asides cfg)) (chatWsBroadcast payload) w (fun _ _ => True) := by
  apply permitsAll chatWsBroadcast_spec
  intro u a permitted
  obtain ⟨fd, -, closing | ⟨_, sent⟩⟩ := permitted
  · exact .inl ⟨fd, closing⟩
  · exact .inr ⟨_, sent, aside⟩

theorem notifyStale_aside (fds : List ℤ) : Traces (Steps (asides cfg)) (notifyStale fds) w (fun _ _ => True) := by
  induction fds generalizing w with
  | nil => exact .pure trivial
  | cons fd fds ih =>
    apply (chatWsSendError_aside _ (by decide)).bind
    intro _ u _ _
    apply chatWsCloseClient_aside.bind
    intro _ v _ _
    exact ih

theorem broadcastOnlineUsersAttempts_aside (attempts : ℕ) (anyClosed : Bool) :
    Traces (Steps (asides cfg)) (broadcastOnlineUsersAttempts attempts anyClosed) w (fun _ _ => True) := by
  induction attempts generalizing w anyClosed with
  | zero => exact .pure trivial
  | succ k ih =>
    apply chatSessionsBuildOnlineUsersPayload_aside.bind
    intro payload u _ hu
    obtain ⟨rfl, aside⟩ := hu
    cases payload with
    | none => exact .pure trivial
    | some p =>
      apply (chatWsBroadcast_aside (aside p rfl)).bind
      intro closedClient v _ _
      apply Traces.ite
      · intro _
        exact ih true
      · intro _
        exact .pure trivial

theorem chatSessionsBroadcastOnlineUsers_aside :
    Traces (Steps (asides cfg)) chatSessionsBroadcastOnlineUsers w (fun _ _ => True) :=
  broadcastOnlineUsersAttempts_aside _ _

theorem chatHistoryBroadcastInfo_aside :
    Traces (Steps (asides cfg)) chatHistoryBroadcastInfo w (fun _ _ => True) := by
  apply chatHistoryBuildInfoPayload_aside.bind
  intro payload u _ hu
  obtain ⟨rfl, aside⟩ := hu
  cases payload with
  | none => exact .pure trivial
  | some p => exact chatWsBroadcast_aside (aside p rfl)

theorem sendBuilt_aside {build : Server cfg (Option Json)} {k : Option Json → Server cfg EspErr}
    (built : Traces (Steps (asides cfg)) build w (fun payload u => u = w ∧ ∀ p ∈ payload, Aside p))
    (failed : Traces (Steps (asides cfg)) (k none) w (fun _ _ => True)) (sends : ∀ p, k (some p) = chatWsSendText fd p) :
    Traces (Steps (asides cfg)) (build >>= k) w (fun _ _ => True) := by
  apply built.bind
  intro payload u _ hu
  obtain ⟨rfl, aside⟩ := hu
  cases payload with
  | none => exact failed
  | some p =>
    rw [sends]
    exact chatWsSendText_aside (aside p rfl)

theorem failed_aside (message : String) : Traces (Steps (asides cfg)) (do
    let ret ← chatWsSendError fd "server_busy" message
    pure (if ret = .ok then .noMem else ret) : Server cfg EspErr) w (fun _ _ => True) := by
  apply (chatWsSendError_aside message (by decide)).bind
  intro ret v _ _
  exact .pure trivial

theorem chatHistorySendInfoToClient_aside :
    Traces (Steps (asides cfg)) (chatHistorySendInfoToClient fd) w (fun _ _ => True) :=
  sendBuilt_aside chatHistoryBuildInfoPayload_aside (failed_aside _) (fun _ => rfl)

theorem chatSessionsSendOnlineUsersToClient_aside :
    Traces (Steps (asides cfg)) (chatSessionsSendOnlineUsersToClient fd) w (fun _ _ => True) :=
  sendBuilt_aside chatSessionsBuildOnlineUsersPayload_aside (failed_aside _) (fun _ => rfl)

end EspWebChat.FrameReadings
