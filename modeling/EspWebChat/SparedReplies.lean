import EspWebChat.GoodReplies
import EspWebChat.PresenceRounds

set_option autoImplicit false

/-!
# The parts of the server that leave good replies

The handlers ask for their replies one after the other and pass on what is left of them.
-/
namespace EspWebChat.SparedReplies
open Relation JsonTree ClientSlots Interruptible ServerWorld Sessions History Protocol JsonGate WebSocketServer
open ServerSteps SlotSteps SessionSteps HistorySteps ProtocolSteps NodeSteps SlotInvariant PresenceRounds TargetFields

variable {cfg : Config} {good : Reply → Prop} {fd : ℤ}

theorem reply_spares : Spares good (reply : Server cfg Reply) := .ask

theorem allocates_spares : Spares good (allocates : Server cfg Bool) := reply_spares.bind (fun _ => .pure _)

theorem deviceUptimeS_spares : Spares good (deviceUptimeS : Server cfg ℤ) := reply_spares.bind (fun _ => .pure _)

theorem addMember_spares (ms : Members) (key : String) (v : Json) : Spares good (addMember ms key v : Server cfg Members) :=
  allocates_spares.bind (fun _ => .pure _)

theorem printUnformatted_spares (j : Json) : Spares good (printUnformatted j : Server cfg (Option Json)) :=
  allocates_spares.bind (fun _ => .pure _)

theorem currentTimestampS_spares : Spares good (currentTimestampS : Server cfg ℤ) := by
  apply reply_spares.bind
  intro r
  apply Spares.ite (.pure _)
  apply deviceUptimeS_spares.bind
  intro uptime
  apply reply_spares.bind
  intro lock
  apply Spares.bind .reads
  intro table
  split
  · exact .pure _
  · exact .pure _

theorem sendText_spares (payload : Json) : Spares good (chatWsSendText fd payload : Server cfg EspErr) := by
  apply Spares.ite (.pure _)
  apply reply_spares.bind
  intro r
  apply Spares.ite (.pure _)
  exact Spares.bind .writes (fun _ => .pure _)

theorem closeClient_spares : Spares good (chatWsCloseClient fd : Server cfg Unit) := by
  apply Spares.ite (.pure _)
  apply Spares.bind (Spares.bind .reads (fun _ => Spares.bind .writes (fun _ => .pure _)))
  intro _
  exact .pure _

theorem sendError_spares (code message : String) : Spares good (chatWsSendError fd code message : Server cfg EspErr) := by
  apply allocates_spares.bind
  intro created
  apply Spares.ite (.pure _)
  apply (addMember_spares _ _ _).bind
  intro ms
  apply (addMember_spares _ _ _).bind
  intro ms
  apply (addMember_spares _ _ _).bind
  intro ms
  apply (addMember_spares _ _ _).bind
  intro ms
  apply currentTimestampS_spares.bind
  intro now
  apply (addMember_spares _ _ _).bind
  intro ms
  apply (printUnformatted_spares _).bind
  intro printed
  cases printed with
  | none => exact .pure _
  | some payload => exact sendText_spares payload

theorem ensureSlot_spares : Spares good (chatSessionsEnsureSlot fd : Server cfg Bool) := by
  apply deviceUptimeS_spares.bind
  intro now
  apply Spares.bind .reads
  intro table
  exact Spares.bind .writes (fun _ => .pure _)

theorem sample_spares (root : Json) : Spares good (chatSessionsUpdateTimeSample fd root : Server cfg Unit) := by
  unfold chatSessionsUpdateTimeSample
  split
  · apply Spares.ite (.pure _)
    apply deviceUptimeS_spares.bind
    intro uptime
    exact Spares.bind .reads (fun _ => .writes)
  · exact .pure _

theorem refuse_spares (code message : String) : Spares good (sendErrorAndClose fd code message : Server cfg EspErr) := by
  apply (sendError_spares code message).bind
  intro ret
  exact closeClient_spares.bind (fun _ => .pure _)

theorem requireJoinedIdentity_spares (root : Json) :
    Spares good (requireJoinedIdentity fd root : Server cfg EspErr) := by
  apply Spares.bind .reads
  intro identity
  apply Spares.ite (refuse_spares _ _)
  apply Spares.ite (refuse_spares _ _)
  exact (sample_spares root).bind (fun _ => .pure _)

theorem nvsSet_spares (f : NvsStore → NvsStore) : Spares good (MessageIdStore.nvsSet f : Server cfg EspErr) := by
  apply reply_spares.bind
  intro r
  apply Spares.bind .writes
  intro _
  split
  · exact .pure _
  · exact .pure _

theorem persist_spares (currentId bootStartId : ℕ) :
    Spares good (MessageIdStore.chatMessageIdsPersist currentId bootStartId : Server cfg EspErr) := by
  have opens : Spares good (MessageIdStore.nvsOpenReadwrite : Server cfg EspErr) := by
    apply reply_spares.bind
    intro r
    split
    · exact .pure _
    · exact .pure _
  have commits : Spares good (MessageIdStore.nvsCommit : Server cfg EspErr) := by
    apply reply_spares.bind
    intro r
    apply Spares.bind .writes
    intro _
    split
    · exact .pure _
    · exact .pure _
  apply opens.bind
  intro opened
  apply Spares.ite (.pure _)
  apply (nvsSet_spares _).bind
  intro first
  apply Spares.ite (.pure _)
  apply (nvsSet_spares _).bind
  intro second
  exact Spares.ite (.pure _) commits

theorem ensureIdState_spares : Spares good (chatHistoryEnsureIdState : Server cfg EspErr) := by
  have opens : Spares good (MessageIdStore.nvsOpenReadonly : Server cfg EspErr) := by
    apply reply_spares.bind
    intro r
    split
    · exact .pure _
    · exact .reads
  have gets : Spares good (MessageIdStore.nvsGetCurrent : Server cfg (EspErr × ℕ)) := by
    apply reply_spares.bind
    intro r
    split
    · exact .pure _
    · exact .reads
  have loads : Spares good (MessageIdStore.chatMessageIdsLoad : Server cfg _) := by
    apply opens.bind
    intro opened
    apply Spares.bind (.ite gets (.pure _))
    intro read
    apply Spares.ite (.pure _)
    exact (persist_spares _ _).bind (fun _ => .pure _)
  apply Spares.bind .reads
  intro valid
  apply Spares.ite (.pure _)
  apply loads.bind
  intro loaded
  apply Spares.ite (.pure _)
  exact Spares.bind .writes (fun _ => .pure _)

theorem notifyStale_spares (targets : List ℤ) : Spares good (notifyStale targets : Server cfg Unit) := by
  induction targets with
  | nil => exact .pure _
  | cons fd targets ih =>
    apply (sendError_spares _ _).bind
    intro _
    exact closeClient_spares.bind (fun _ => ih)

theorem updateIdentity_spares (userId name : String) :
    Spares good (chatSessionsUpdateIdentity fd userId name : Server cfg Bool) := by
  apply deviceUptimeS_spares.bind
  intro now
  apply Spares.bind .reads
  intro table
  split
  · exact .pure _
  · apply Spares.bind .writes
    intro _
    exact (notifyStale_spares _).bind (fun _ => .pure _)

theorem replayFrom_spares (replayUntil k cursor : ℕ) :
    Spares good (replayFrom fd replayUntil k cursor : Server cfg EspErr) := by
  induction k generalizing cursor with
  | zero => exact .pure _
  | succ k ih =>
    apply Spares.ite _ (.pure _)
    apply Spares.bind .reads
    intro ring
    split
    · exact .pure _
    · apply allocates_spares.bind
      intro copied
      apply Spares.ite
      · exact (sendError_spares _ _).bind (fun _ => .pure _)
      · apply (sendText_spares _).bind
        intro ret
        apply Spares.ite
        · exact closeClient_spares.bind (fun _ => .pure _)
        · exact ih _

theorem sendToClient_spares (sinceId : ℕ) : Spares good (chatHistorySendToClient fd sinceId : Server cfg EspErr) :=
  Spares.bind .reads (fun _ => replayFrom_spares _ _ _)

theorem infoPayload_spares : Spares good (chatHistoryBuildInfoPayload : Server cfg (Option Json)) := by
  apply allocates_spares.bind
  intro created
  apply Spares.ite (.pure _)
  apply (addMember_spares _ _ _).bind
  intro ms
  apply (addMember_spares _ _ _).bind
  intro ms
  apply currentTimestampS_spares.bind
  intro now
  apply (addMember_spares _ _ _).bind
  intro ms
  apply (addMember_spares _ _ _).bind
  intro ms
  apply allocates_spares.bind
  intro toOk
  apply Spares.bind (.ite allocates_spares (.pure _))
  intro usersOk
  apply Spares.ite (.pure _)
  apply (addMember_spares _ _ _).bind
  intro all
  apply Spares.bind .reads
  intro bounds
  apply (addMember_spares _ _ _).bind
  intro ms
  apply (addMember_spares _ _ _).bind
  intro ms
  apply (addMember_spares _ _ _).bind
  intro ms
  apply (addMember_spares _ _ _).bind
  intro ms
  apply (addMember_spares _ _ _).bind
  intro ms
  apply (addMember_spares _ _ _).bind
  intro ms
  apply (addMember_spares _ _ _).bind
  intro ms
  apply (addMember_spares _ _ _).bind
  intro ms
  exact printUnformatted_spares _

theorem sendInfo_spares : Spares good (chatHistorySendInfoToClient fd : Server cfg EspErr) := by
  apply infoPayload_spares.bind
  intro payload
  cases payload with
  | none => exact (sendError_spares _ _).bind (fun _ => .pure _)
  | some p => exact sendText_spares p

theorem listUsers_spares (ss : List ClientSlot) (users data : List Json) :
    Spares good (listUsers ss users data : Server cfg (List Json × List Json)) := by
  induction ss generalizing users data with
  | nil => exact .pure _
  | cons s ss ih =>
    apply Spares.bind
    · apply allocates_spares.bind
      intro idOk
      apply allocates_spares.bind
      intro entryOk
      apply Spares.ite (.pure _)
      apply (addMember_spares _ _ _).bind
      intro entry
      exact (addMember_spares _ _ _).bind (fun _ => .pure _)
    · intro both
      exact ih _ _

theorem buildPayload_spares : Spares good (chatSessionsBuildOnlineUsersPayload : Server cfg (Option Json)) := by
  apply allocates_spares.bind
  intro created
  apply Spares.ite (.pure _)
  apply (addMember_spares _ _ _).bind
  intro ms
  apply (addMember_spares _ _ _).bind
  intro ms
  apply currentTimestampS_spares.bind
  intro now
  apply (addMember_spares _ _ _).bind
  intro ms
  apply allocates_spares.bind
  intro toOk
  apply Spares.bind (.ite allocates_spares (.pure _))
  intro usersOk
  apply allocates_spares.bind
  intro dataOk
  apply Spares.ite (.pure _)
  apply (addMember_spares _ _ _).bind
  intro all
  apply Spares.bind .reads
  intro table
  apply (listUsers_spares _ _ _).bind
  intro both
  exact printUnformatted_spares _

theorem sendOnline_spares : Spares good (chatSessionsSendOnlineUsersToClient fd : Server cfg EspErr) := by
  apply buildPayload_spares.bind
  intro payload
  cases payload with
  | none => exact (sendError_spares _ _).bind (fun _ => .pure _)
  | some p => exact sendText_spares p

end EspWebChat.SparedReplies
