import EspWebChat.SparedReplies
import EspWebChat.SettledPresence
import EspWebChat.HeartbeatSweeps
import EspWebChat.ResponseLimit

set_option autoImplicit false

/-!
# The presence list in a quiet table

The broadcast makes the lists right whatever they were before, if no allocation fails in it.
-/
namespace EspWebChat.QuietPresence
open Relation JsonTree NumberMaps CjsonPrinter ClientSlots Interruptible ServerWorld Sessions History Protocol JsonGate WebSocketServer
open ServerSteps SlotSteps SessionSteps HistorySteps ProtocolSteps NodeSteps SlotInvariant PresenceRounds TargetFields
open SettledPresence SparedReplies

variable {cfg : Config} {w u : World cfg} {fds : List ℤ} {n : ℕ} {t t' : SlotTable n} {a : Action}

theorem faces_entries (t : SlotTable n) : (faces t).map faceEntry = (joinedSlots t).map presenceEntry :=
  List.map_map.trans (List.map_congr_left fun _ _ => rfl)

theorem presencePayload_printed (p : Printer) (now : ℚ) (listed : List (String × String)) :
    p.printed (presencePayload (.fin now) listed) = presencePayload (p.read now) listed := by
  unfold Printer.printed presencePayload
  simp only [mapNumbers, mapMembers, mapItems_eq, Printer.number, List.map_map]
  rfl

theorem buildPayload_written (table : TableInvariant fds w.ctx.clientSlots) :
    Returns Allocates (chatSessionsBuildOnlineUsersPayload : Server cfg _) w
      (fun payload u => u = w ∧ ∃ now, payload = some (presencePayload now (faces w.ctx.clientSlots))) := by
  apply allocates_allocates.bind
  intro created u hu
  obtain ⟨rfl, rfl⟩ := hu
  refine Returns.ite (fun no => by cases no) ?_
  intro _
  apply (addMember_allocates _ _ _).bind
  intro ms u' hu
  obtain ⟨rfl, rfl⟩ := hu
  apply (addMember_allocates _ _ _).bind
  intro ms u hu
  obtain ⟨rfl, rfl⟩ := hu
  apply currentTimestampS_allocates.bind
  intro now u' hu
  subst hu
  apply (addMember_allocates _ _ _).bind
  intro ms u hu
  obtain ⟨rfl, rfl⟩ := hu
  apply allocates_allocates.bind
  intro toOk u' hu
  obtain ⟨rfl, rfl⟩ := hu
  rw [if_pos rfl]
  apply allocates_allocates.bind
  intro usersOk u hu
  obtain ⟨rfl, rfl⟩ := hu
  apply allocates_allocates.bind
  intro dataOk u' hu
  obtain ⟨rfl, rfl⟩ := hu
  refine Returns.ite (fun no => by cases no) ?_
  intro _
  apply (addMember_allocates _ _ _).bind
  intro all u hu
  obtain ⟨rfl, rfl⟩ := hu
  apply Returns.bind (P := fun table v => table = u.ctx.clientSlots ∧ v = u) (.reads ⟨rfl, rfl⟩)
  intro slots v hv
  obtain ⟨rfl, rfl⟩ := hv
  rw [listed_of_sound table]
  apply (listUsers_allocates _ _ _).bind
  intro r u hu
  obtain ⟨rfl, rfl⟩ := hu
  apply (printUnformatted_allocates _).post
  intro printed v hv
  obtain ⟨rfl, rfl⟩ := hv
  have ids : (faces v.ctx.clientSlots).map (fun f => Json.str f.1) =
      (joinedSlots v.ctx.clientSlots).map (fun s => .str s.userId) := List.map_map.trans (List.map_congr_left fun _ _ => rfl)
  refine ⟨rfl, cfg.printer.read now, ?_⟩
  rw [← presencePayload_printed]
  unfold presencePayload
  rw [faces_entries, ids]
  rfl

theorem presenceRounds_written (k : ℕ) (table : TableInvariant fds w.ctx.clientSlots)
    (known : ∀ i, receives (w.ctx.clientSlots i) = true → 0 ≤ (w.ctx.clientSlots i).fd) :
    Returns Allocates (presenceRounds k : Server cfg _) w
      (fun r _ => ∀ round ∈ r.1, ∃ now listed, round.payload = presencePayload now listed) := by
  induction k generalizing w with
  | zero => exact .pure (by simp)
  | succ k ih =>
    apply (buildPayload_written table).bind
    intro payload u hu
    obtain ⟨rfl, now, rfl⟩ := hu
    have round : Returns Allocates (broadcastFailures (presencePayload now (faces u.ctx.clientSlots))) u
        (fun failed v => v.ctx.clientSlots = closeFds failed u.ctx.clientSlots) := by
      apply Returns.bind (P := fun table v => table = u.ctx.clientSlots ∧ v = u) (.reads ⟨rfl, rfl⟩)
      intro slots v hv
      obtain ⟨rfl, rfl⟩ := hv
      exact (failedSends_allocates _ _ (receiverFds_nonneg known)).post (fun _ _ sent => sent.slots)
    apply round.bind
    intro failed v slots
    apply Returns.ite
    · intro _
      apply Returns.pure
      intro round among
      obtain rfl := List.mem_singleton.mp among
      exact ⟨now, _, rfl⟩
    · intro _
      have table' : TableInvariant fds v.ctx.clientSlots := slots ▸ closeFds_sound table failed
      have known' : ∀ i, receives (v.ctx.clientSlots i) = true → 0 ≤ (v.ctx.clientSlots i).fd := by
        intro i joined
        rw [slots] at joined ⊢
        have same := ((closeFds_slot failed u.ctx.clientSlots i).2.2.2 joined).1
        rw [same] at joined ⊢
        exact known i joined
      apply (ih table' known').bind
      intro rest x written
      apply Returns.pure
      intro round among
      cases among with
      | head => exact ⟨now, _, rfl⟩
      | tail _ later => exact written round later

theorem faceEntry_injective : Function.Injective faceEntry := by
  intro f g same
  unfold faceEntry at same
  simp only [Json.obj.injEq, List.cons.injEq, Prod.mk.injEq, Json.str.injEq, true_and, and_true] at same
  exact Prod.ext same.1 same.2

theorem listed_of_lists {listed : List (String × String)} {now : Number} (h : Lists (presencePayload now listed) t) :
    listed = faces t := by
  have data : (presencePayload now listed).member "data" = some (.arr (listed.map faceEntry)) := rfl
  have same : listed.map faceEntry = (faces t).map faceEntry := by
    have both := data.symm.trans h.data
    have arrays := Json.arr.inj (Option.some.inj both)
    rw [arrays, faces_entries]
  exact faceEntry_injective.list_map same

theorem known_of_table (table : TableInvariant fds w.ctx.clientSlots) (positive : ∀ fd ∈ fds, 0 ≤ fd) :
    ∀ i, receives (w.ctx.clientSlots i) = true → 0 ≤ (w.ctx.clientSlots i).fd := by
  intro i receiving
  simp only [receives, Bool.and_eq_true] at receiving
  exact positive _ (table.isOpen i receiving.1.1)

theorem receiverFds_mem {i : Fin n} (receiving : receives (t i) = true) : (t i).fd ∈ receiverFds t :=
  List.mem_filterMap.mpr ⟨i, List.mem_finRange i, if_pos receiving⟩

/-- The broadcast makes the lists right, whatever they were before. -/
theorem broadcast_settles (positive : ∀ fd ∈ fds, 0 ≤ fd) (table : TableInvariant fds w.ctx.clientSlots) :
    Given Allocates (chatSessionsBroadcastOnlineUsers : Server cfg Bool) w (fun _ u => Standing fds u) := by
  have known := known_of_table table positive
  have few : (receivers w.ctx.clientSlots).card < cfg.maxClients + 1 :=
    Nat.lt_succ_of_le (receivers_card w.ctx.clientSlots)
  constructor
  intro env replies closed _
  obtain ⟨r, u, env', run, -, ⟨-, converged⟩, written⟩ :=
    ((presenceRounds_converge _ few table known).both (presenceRounds_written _ table known)).run env replies
  have world : (chatSessionsBroadcastOnlineUsers env w).world = u := by
    unfold chatSessionsBroadcastOnlineUsers broadcastOnlineUsersNow
    rw [attempts_shortens (cfg.maxClients + 1) false env w, run]
  rw [world]
  obtain ⟨failed, slots⟩ := converged.slots
  obtain ⟨earlier, p, rounds, lists, before, trace⟩ := converged.last
  obtain ⟨now, listed, rfl⟩ := written ⟨p, []⟩ (by rw [rounds]; exact List.mem_append_right _ (List.mem_singleton_self _))
  obtain rfl := listed_of_lists lists
  refine ⟨slots ▸ closeFds_sound table failed, .inr ?_⟩
  intro i receiving
  refine ⟨now, ?_⟩
  rw [trace]
  exact lastPresence_broadcast (receiverFds_mem receiving) (isPresence_payload now _) before

theorem sendOnline_settles {fd : ℤ} (standing : Standing fds w) :
    Given Allocates (chatSessionsSendOnlineUsersToClient fd : Server cfg EspErr) w (fun _ u => Standing fds u) := by
  have sent : Returns Allocates (chatSessionsSendOnlineUsersToClient fd : Server cfg EspErr) w (fun _ u =>
      ∃ now, u = w ∨ ∃ delivered,
        u = w.record (.sent ⟨fd, presencePayload now (faces w.ctx.clientSlots), delivered⟩)) := by
    apply (buildPayload_written standing.table).bind
    intro payload u hu
    obtain ⟨rfl, now, rfl⟩ := hu
    apply Returns.ite (fun _ => .pure ⟨now, .inl rfl⟩)
    intro _
    apply reply_allocates.bind
    intro r v hv
    subst hv
    apply Returns.ite (fun _ => .pure ⟨now, .inl rfl⟩)
    intro _
    apply Returns.bind (P := fun _ x => x = v.record (.sent ⟨fd, _, decide (r.send = .ok)⟩)) (.writes rfl)
    intro _ x hx
    exact .pure ⟨now, .inr ⟨_, hx⟩⟩
  apply sent.given.post
  intro ret u hu
  obtain ⟨now, rfl | ⟨delivered, rfl⟩⟩ := hu
  · exact standing
  · refine ⟨standing.table, standing.settled.imp id ?_⟩
    intro current i receiving
    obtain ⟨before, last⟩ := current i receiving
    by_cases reaches : fd = (w.ctx.clientSlots i).fd ∧ delivered = true
    · refine ⟨now, ?_⟩
      obtain ⟨rfl, rfl⟩ := reaches
      exact lastPresence_broadcast (List.mem_singleton_self _) (isPresence_payload now _) w.trace
    · refine ⟨before, ?_⟩
      refine Eq.trans (lastPresence_silent ?_) last
      intro e he
      obtain rfl := List.mem_singleton.mp he
      exact if_neg (fun found => reaches ⟨found.1, found.2.1⟩)

section joining
variable {fd : ℤ} {root : Json} {α : Type}

/-- Between the binding and the broadcast the lists may be wrong, but the table is in order. -/
structure Tabled (fds : List ℤ) (fd : ℤ) (w : World cfg) : Prop where
  table : TableInvariant fds w.ctx.clientSlots
  held : Held fd w

theorem Tabled.act (h : Tabled fds fd u) (permitted : slotSteps cfg fds u a) : Tabled fds fd (act a u) :=
  ⟨tableInvariant_act h.table permitted, held_act h.table permitted h.held⟩

theorem tabled_traces {Steps' : Permission cfg} {m : Server cfg α} {P : α → World cfg → Prop}
    (h : Traces (Steps Steps') m w P) (permits : ∀ u a, Steps' u a → slotSteps cfg fds u a) (tabled : Tabled fds fd w) :
    Given Allocates m w (fun _ u => Tabled fds fd u) := by
  apply Traces.given
  apply h.keeping _ tabled
  intro u v h step
  obtain ⟨a, permitted, rfl⟩ := step
  exact h.act (permits u a permitted)

theorem slotSteps_replays (h : replays cfg fd u a) : slotSteps cfg fds u a := by
  rcases h with answer | rfl | ⟨i, m, delivered, -, rfl⟩
  · exact slotSteps_answers answer
  · trivial
  · trivial

theorem syncJoined_settles (positive : ∀ fd ∈ fds, 0 ≤ fd) (known : 0 ≤ fd) (sinceId : ℕ) (tabled : Tabled fds fd w) :
    Given Allocates (syncJoined fd root sinceId : Server cfg EspErr) w (fun _ u => Standing fds u) := by
  apply (tabled_traces (sample_plain root) (fun _ _ h => h.slots) tabled).bind (sample_spares root)
  intro _ u tabled
  apply (tabled_traces (chatHistorySendToClient_spec sinceId) (fun _ _ => slotSteps_replays) tabled).bind
    (sendToClient_spares sinceId)
  intro replayed v tabled
  apply Given.bind (P := fun _ x => Tabled fds fd x) _ (.ite sendInfo_spares (.pure _))
  · intro informed x tabled
    apply Given.bind (P := fun _ y => Tabled fds fd y) _ (.ite sendOnline_spares (.pure _))
    · intro synced y tabled
      apply Given.ite
      · intro _
        have shut : Given Allocates (chatWsCloseClient fd : Server cfg Unit) y (fun _ z => Standing fds z) := by
          constructor
          intro env _ _ _
          rw [closeClient_world known]
          have permitted : slotSteps cfg fds y (.closing fd) := trivial
          exact ⟨(tabled.act permitted).table, .inl (closing_held tabled.held)⟩
        exact shut.bind closeClient_spares (fun _ z standing => .pure standing)
      · intro _
        constructor
        intro env replies ret returned
        obtain ⟨closed, z, env', first, whole⟩ := bind_returned returned
        have settled := (broadcast_settles positive tabled.table).run env replies closed (by rw [first])
        rw [first] at settled
        rw [whole]
        exact settled
    · apply Given.ite
      · intro _
        exact tabled_traces chatSessionsSendOnlineUsersToClient_spec (fun _ _ => slotSteps_answers) tabled
      · intro _
        exact .pure tabled
  · apply Given.ite
    · intro _
      exact tabled_traces chatHistorySendInfoToClient_spec (fun _ _ => slotSteps_answers) tabled
    · intro _
      exact .pure tabled

theorem given_rests {m : Server cfg α} (h : Rests fds m w) : Given Allocates m w (fun _ u => Standing fds u) := h.given

theorem refuse_given (code message : String) (standing : Standing fds w) :
    Given Allocates (sendErrorAndClose fd code message : Server cfg EspErr) w (fun _ u => Standing fds u) :=
  given_rests (rests_plain (refuse_plain code message) standing)

theorem handleJoinMessage_settles (positive : ∀ fd ∈ fds, 0 ≤ fd) (known : 0 ≤ fd) (live : Live fd w)
    (standing : Standing fds w) :
    Given Allocates (handleJoinMessage fd root : Server cfg EspErr) w (fun _ u => Standing fds u) := by
  unfold handleJoinMessage
  split
  · rename_i sender name hsender hname
    obtain ⟨-, short, nonempty⟩ := stringInRange_eq_some hsender
    obtain ⟨-, shortName, named⟩ := stringInRange_eq_some hname
    split
    · exact refuse_given _ _ standing
    · rename_i sinceId _
      apply Given.bind (P := fun identity u => u = w ∧ identity = checkIdentity w.ctx.clientSlots fd (some sender))
        (.reads ⟨rfl, rfl⟩) .reads
      intro identity u hu
      obtain ⟨rfl, rfl⟩ := hu
      apply Given.ite (fun _ => refuse_given _ _ standing)
      intro matching
      apply (plain_ends ensureIdState_plain standing).given.bind ensureIdState_spares
      intro ready v hv
      obtain ⟨onward, loaded⟩ := hv
      obtain ⟨slots, valid⟩ := loaded ready rfl
      apply Given.ite (fun _ => refuse_given _ _ onward.standing)
      intro ok
      have may : MayBind v fd sender name := ⟨by rw [slots]; exact live, by rw [slots]; exact matching,
        ⟨nonempty rfl, short⟩, ⟨named rfl, shortName⟩, valid (not_not.mp ok)⟩
      have held : Held fd v := onward.held fd live.held
      have binds : Given Allocates (chatSessionsUpdateIdentity fd sender name : Server cfg Bool) v
          (fun done x => (done = false → x = v) ∧ Tabled fds fd x) := by
        have spec : Traces _ (chatSessionsUpdateIdentity fd sender name) v _ := chatSessionsUpdateIdentity_spec sender name
        constructor
        intro env replies done returned
        refine ⟨?_, (tabled_traces spec ?_ ⟨onward.standing.table, held⟩).run env replies done returned⟩
        · intro failed
          rcases (spec env).2 done returned with ⟨-, same⟩ | ⟨done', -⟩
          · exact same
          · rw [failed] at done'
            cases done'
        · intro x b permitted
          rcases permitted with ⟨rfl, now, rfl⟩ | ⟨-, announced⟩
          · exact may
          · exact slotSteps_announces announced
      apply binds.bind (updateIdentity_spares sender name)
      intro done x hx
      apply Given.ite
      · intro failed
        rw [hx.1 (by simpa using failed)]
        exact refuse_given _ _ onward.standing
      · intro _
        exact syncJoined_settles positive known sinceId hx.2
  · exact refuse_given _ _ standing

theorem handleTyped_settles (positive : ∀ fd ∈ fds, 0 ≤ fd) {type : String} (typed : root.member "type" = some (.str type))
    (object : root.isObject = true) (standing : Standing fds w) :
    Given Allocates (handleTyped fd type root : Server cfg EspErr) w (fun _ u => Standing fds u) := by
  unfold handleTyped
  apply Given.ite (fun _ => sendOnline_settles standing)
  intro _
  apply Given.ite (fun chat => given_rests
    (handleChatMessage_rests positive (by simpa [chatTypes] using chat) typed object standing))
  intro _
  apply Given.ite (fun request => given_rests (handleHistoryRequestMessage_rests positive (request ▸ typed) standing))
  intro _
  apply Given.ite
  · intro response
    exact given_rests (handleHistoryResponseMessage_rests positive (response ▸ typed) object standing)
  · intro _
    exact given_rests (answer_rests _ _ standing)

theorem chatProtocolHandleJson_settles (positive : ∀ fd ∈ fds, 0 ≤ fd) (known : 0 ≤ fd) (live : Live fd w)
    (object : root.isObject = true) (standing : Standing fds w) :
    Given Allocates (chatProtocolHandleJson fd root : Server cfg EspErr) w (fun _ u => Standing fds u) := by
  unfold chatProtocolHandleJson
  split
  · apply given_rests
    apply rests_bind (P := fun _ _ => True) (.reads trivial) standing
    intro joined u _ standing
    exact Ends.ite (fun _ => rests_plain (refuse_plain _ _) standing) (fun _ => answer_rests _ _ standing)
  · rename_i type found
    have typed : root.member "type" = some (.str type) := (stringInRange_eq_some found).1
    apply Given.ite
    · intro _
      apply given_rests
      apply rests_bind (requireJoinedIdentity_plain root) standing
      intro ret u _ standing
      apply Ends.ite (fun _ => rests_pure _ standing)
      intro _
      exact rests_bind alive_plain standing (fun _ v _ standing => rests_pure _ standing)
    · intro _
      apply Given.ite (fun _ => handleJoinMessage_settles positive known live standing)
      intro _
      apply (given_rests (rests_plain (requireJoinedIdentity_plain root) standing)).bind (requireJoinedIdentity_spares root)
      intro ret u standing
      exact Given.ite (fun _ => .pure standing) (fun _ => handleTyped_settles positive typed object standing)

theorem handleFrame_settles (cJSONParse : CJSONParse) (positive : ∀ fd ∈ fds, 0 ≤ fd) (known : 0 ≤ fd) (live : Live fd w)
    (frame : Frame) (standing : Standing fds w) :
    Given Allocates (handleFrame cJSONParse fd frame : Server cfg EspErr) w (fun _ u => Standing fds u) := by
  have broken : ∀ {u : World cfg} (x : EspErr), Standing fds u → Rests fds (do
      markBrokenSession fd
      pure x : Server cfg EspErr) u := by
    intro u x standing
    apply (markBrokenSession_rests standing).bind (fun v h => h)
    intro _ v standing
    exact rests_pure _ standing
  unfold handleFrame
  apply Given.ite (fun _ => given_rests (broken _ standing))
  intro _
  apply Given.ite (fun _ => given_rests (handlePong_rests _ standing))
  intro _
  apply Given.ite (fun _ => given_rests (dismiss_rests _ _ standing))
  intro _
  apply Given.ite
  · intro _
    exact given_rests (rests_bind (sendError_plain _ _) standing (fun _ u _ standing => broken _ standing))
  · intro _
    apply allocates_allocates.given.bind allocates_spares
    intro buffer u hu
    obtain ⟨rfl, rfl⟩ := hu
    apply Given.ite (fun _ => given_rests (rests_pure _ standing))
    intro _
    apply Given.ite (fun _ => given_rests (broken _ standing))
    intro _
    unfold handleReceived
    apply Given.ite (fun _ => given_rests (broken _ standing))
    intro _
    apply Given.ite (fun _ => given_rests (handlePong_rests _ standing))
    intro _
    apply Given.ite
    · intro _
      apply given_rests
      apply rests_bind (sendError_plain _ _) standing
      intro _ v _ standing
      exact rests_bind closeClient_plain standing (fun _ x _ standing => rests_pure _ standing)
    · intro _
      unfold handleText
      split
      · exact given_rests (dismiss_rests _ _ standing)
      · rename_i root parsed
        exact chatProtocolHandleJson_settles positive known live (chatJsonParseObject_spec parsed).1 standing

theorem chatWsHandler_settles (cJSONParse : CJSONParse) (positive : ∀ fd ∈ fds, 0 ≤ fd) (among : fd ∈ fds) (frame : Frame)
    (standing : Standing fds w) :
    Given Allocates (chatWsHandler cJSONParse fd frame : Server cfg EspErr) w (fun _ u => Standing fds u) := by
  apply (plain_ends (ensureSlot_plain among) standing).given.bind ensureSlot_spares
  intro ready u hu
  obtain ⟨onward, live⟩ := hu
  apply Given.ite (fun _ => given_rests (rests_pure _ onward.standing))
  intro isReady
  exact handleFrame_settles cJSONParse positive (positive fd among) (live ready rfl (by simpa using isReady)) frame
    onward.standing

end joining

theorem sweep_changed {interval now : ℤ} {delayed : Bool} {s : ClientSlot}
    (changed : (sweepSlot interval now delayed s).changed = true) :
    (sweepSlot interval now delayed s).slot.closing = true := by
  have judged := HeartbeatSweeps.sweepSlot_judged interval now delayed s
  generalize sweepSlot interval now delayed s = r at judged changed ⊢
  cases judged with
  | missed live _ _ _ _ => exact closing_marked live.1
  | _ => cases changed

theorem sweep_pinged {interval now : ℤ} {delayed : Bool} {s : ClientSlot}
    (pinged : (sweepSlot interval now delayed s).verdict = .ping) : s.active = true := by
  have judged := HeartbeatSweeps.sweepSlot_judged interval now delayed s
  generalize sweepSlot interval now delayed s = r at judged pinged
  cases judged with
  | pinged live _ _ => exact live.1
  | _ => cases pinged

theorem sweep_closing {now : ℤ} {delayed : Bool}
    (changed : ((List.finRange cfg.maxClients).any fun i => (sweepTable cfg now delayed w.ctx.clientSlots i).changed) = true) :
    Closing (act (.sweep now delayed) w) := by
  obtain ⟨i, -, hi⟩ := List.any_eq_true.mp changed
  exact ⟨i, sweep_changed hi⟩

theorem closeAll_plain (targets : List ℤ) : Traces (Steps (plain cfg fds)) (closeAll targets) w (fun _ _ => True) := by
  induction targets generalizing w with
  | nil => exact .pure trivial
  | cons fd targets ih => exact closeClient_plain.bind (fun _ u _ _ => ih)

theorem heartbeatSweepWork_rests (positive : ∀ fd ∈ fds, 0 ≤ fd) (standing : Standing fds w) :
    Rests fds (heartbeatSweepWork : Server cfg Unit) w := by
  apply rests_bind deviceUptimeS_spec standing
  intro now u same standing
  apply rests_bind (P := fun x v => x = u ∧ v = u) (.reads ⟨rfl, rfl⟩) standing
  intro x v₀ hx standing
  obtain ⟨rfl, rfl⟩ := hx
  have permitted : ∀ delayed, plain cfg fds v₀ (.sweep now delayed) :=
    fun _ => plain_quiet trivial (by simp) (by simp)
  refine Ends.bind (plain_ends (takes (.sweep now _) (permitted _) rfl) standing) (fun _ h => h.1.standing) ?_
  intro _ v swept
  have marked := swept.2 () rfl
  apply (plain_ends (closeAll_plain _) swept.1.standing).bind (fun _ h => h.1.standing)
  intro _ y shut
  have onward : Onward fds v₀ y := swept.1.trans shut.1
  have known : ∀ delayed, Targets v₀ (sweepFds cfg now delayed v₀.ctx.clientSlots .ping) := by
    intro delayed
    apply targets_of_table standing.table positive
    intro fd hfd
    obtain ⟨i, pinged, same⟩ := HeartbeatSweeps.mem_sweepFds.mp hfd
    exact ⟨i, sweep_pinged pinged, same⟩
  have other : isPresence pingPayload = false := rfl
  apply (sendToAll_ends other _ ((known _).onward onward) shut.1.standing).bind (fun _ h => h.1.standing)
  intro closed z sent
  apply announceLost_ends sent.1.standing
  intro lost
  rcases Bool.or_eq_true_iff.mp lost with changed | failed
  · have closing : Closing v := marked ▸ sweep_closing changed
    exact sent.1.closing (shut.1.closing closing)
  · exact sent.2 closed rfl failed

/-- A freed slot takes nobody off the list unless a broadcast follows. -/
theorem freed_settles {fd : ℤ} (standing : Standing fds w) (idle : (removeByFd w.ctx.clientSlots fd).1 = false) :
    Settled (act (.free fd) w) := by
  have same : (act (.free fd) w).ctx.clientSlots = w.ctx.clientSlots := by
    funext i
    apply if_neg
    intro holds
    have free : ((List.finRange cfg.maxClients).any fun i => holdsFd fd (w.ctx.clientSlots i)) = false := idle
    exact List.any_eq_false.mp free i (List.mem_finRange i) holds
  apply settled_same standing.settled
  · intro i
    rw [same]
    exact .inl rfl
  · rintro ⟨i, hi⟩
    exact ⟨i, by rw [same]; exact hi⟩
  · intro _
    rfl

theorem chatWsSessionCloseHandler_settles {fd : ℤ} (positive : ∀ fd ∈ fds, 0 ≤ fd) (standing : Standing fds w) :
    Given Allocates (chatWsSessionCloseHandler fd : Server cfg Unit) w
      (fun _ u => Standing (fds.filter (fun f => f != fd)) u) := by
  have table := tableInvariant_free standing.table fd
  have rest : Given Allocates (if (removeByFd w.ctx.clientSlots fd).1 then do
      let _ ← chatSessionsBroadcastOnlineUsers
      pure ()
    else pure () : Server cfg Unit) (act (.free fd) w) (fun _ u => Standing (fds.filter (fun f => f != fd)) u) := by
    apply Given.ite
    · intro _
      constructor
      intro env replies ret returned
      obtain ⟨closed, z, env', first, whole⟩ := bind_returned returned
      have settled := (broadcast_settles (fun f hf => positive f (List.mem_of_mem_filter hf)) table).run env replies closed
        (by rw [first])
      rw [first] at settled
      rw [whole]
      exact settled
    · intro idle
      exact .pure ⟨table, freed_settles standing (by simpa using idle)⟩
  exact ⟨fun env replies ret returned => rest.run env replies ret returned⟩

theorem reset_standing (fds : List ℤ) (w : World cfg) : Standing fds (reset w) :=
  ⟨tableInvariant_zero fds, .inr (fun i receiving => by cases receiving)⟩

theorem appMain_rests (fds : List ℤ) (w : World cfg) : Rests fds (appMain : Server cfg Unit) (reset w) := by
  apply rests_plain _ (reset_standing fds w)
  · exact fun _ _ => True
  · apply permitsAll (appMain_spec rfl)
    intro u a h
    rcases h with h | ⟨-, rfl⟩ | ⟨now, rfl⟩
    · exact plain_retries h
    · exact plain_quiet trivial (by simp) (by simp)
    · exact plain_quiet trivial (by simp) (by simp)

/-- No allocation fails while the event is served. Only the events that can end with a list need it. -/
def spared : Event → Prop
  | .frame _ _ env => ∀ k, Allocates (env k)
  | .closeSession _ env => ∀ k, Allocates (env k)
  | _ => True

/-- What holds between the events of a run. -/
structure Quiet (s : Node cfg) : Prop where
  sound : Sound s
  positive : ∀ fd ∈ s.openFds, 0 ≤ fd
  settled : s.powered = true → Settled s.world

theorem positive_step (cJSONParse : CJSONParse) {s : Node cfg} (h : ∀ fd ∈ s.openFds, 0 ≤ fd) (e : Event) :
    ∀ fd ∈ (step cJSONParse s e).openFds, 0 ≤ fd := by
  cases e with
  | powerOn env => exact fun _ among => absurd among List.not_mem_nil
  | openSession opened =>
    simp only [step]
    split_ifs
    · intro fd among
      rcases List.mem_cons.mp among with rfl | among
      · exact Int.natCast_nonneg opened
      · exact h fd among
    · exact h
  | closeSession closed env =>
    simp only [step]
    split_ifs
    · exact fun fd among => h fd (List.mem_of_mem_filter among)
    · exact h
  | _ =>
    simp only [step]
    split_ifs <;> exact h

theorem settled_step (cJSONParse : CJSONParse) {s : Node cfg} (h : Quiet s) {e : Event} (spare : spared e)
    (powered : (step cJSONParse s e).powered = true) : Settled (step cJSONParse s e).world := by
  have standing : s.powered = true → Standing s.openFds s.world := fun on => ⟨h.sound, h.settled on⟩
  cases e with
  | powerOn env => exact ((appMain_rests [] s.world).run env).settled
  | openSession opened =>
    simp only [step] at powered ⊢
    split_ifs at powered ⊢
    · exact h.settled powered
    · exact h.settled powered
  | handshake fd env =>
    simp only [step] at powered ⊢
    split_ifs at powered ⊢ with serves
    · have rests : Rests s.openFds (chatWsPreHandshakeHandler fd) s.world :=
        rests_bind (ensureSlot_plain serves.2) (standing serves.1) (fun _ u _ standing => rests_pure _ standing)
      exact (rests.run env).settled
    · exact h.settled powered
  | frame fd frame env =>
    simp only [step] at powered ⊢
    split_ifs at powered ⊢ with serves
    · obtain ⟨ret, returned⟩ := Option.isSome_iff_exists.mp powered
      exact ((chatWsHandler_settles cJSONParse h.positive serves.2 frame (standing serves.1)).run env spare ret
        returned).settled
    · exact h.settled powered
  | sweep env =>
    simp only [step] at powered ⊢
    split_ifs at powered ⊢ with on
    · exact ((heartbeatSweepWork_rests h.positive (standing on)).run env).settled
    · exact h.settled powered
  | closeSession fd env =>
    simp only [step] at powered ⊢
    split_ifs at powered ⊢ with serves
    · obtain ⟨ret, returned⟩ := Option.isSome_iff_exists.mp powered
      exact ((chatWsSessionCloseHandler_settles h.positive (standing serves.1)).run env spare ret returned).settled
    · exact h.settled powered

theorem quiet_run (cJSONParse : CJSONParse) {s : Node cfg} (h : Quiet s) (later : List Event)
    (spare : ∀ e ∈ later, spared e) : Quiet (run cJSONParse s later) := by
  induction later generalizing s with
  | nil => exact h
  | cons e later ih =>
    have next : Quiet (step cJSONParse s e) := ⟨sound_step cJSONParse h.sound e, positive_step cJSONParse h.positive e,
      settled_step cJSONParse h (spare e List.mem_cons_self)⟩
    exact ih next (fun e' among => spare e' (List.mem_cons_of_mem _ among))

theorem quiet_boot (cJSONParse : CJSONParse) {s : Node cfg} (sound : Sound s) (env : ℕ → Reply) :
    Quiet (step cJSONParse s (.powerOn env)) :=
  ⟨sound_step cJSONParse sound _, fun _ among => absurd among List.not_mem_nil,
    fun _ => ((appMain_rests [] s.world).run env).settled⟩

theorem quiet_reached (cJSONParse : CJSONParse) (flash : InitialFlash) (earlier later : List Event) (env : ℕ → Reply)
    (spare : ∀ e ∈ later, spared e) :
    Quiet (run cJSONParse (Node.initial flash : Node cfg) (earlier ++ .powerOn env :: later)) := by
  rw [run_append]
  exact quiet_run cJSONParse (quiet_boot cJSONParse (sound_run cJSONParse flash earlier) env) later spare

theorem Quiet.once {s : Node cfg} (h : Quiet s) : ((faces s.world.ctx.clientSlots).map Prod.fst).Nodup := by
  have ids : (faces s.world.ctx.clientSlots).map Prod.fst = (joinedSlots s.world.ctx.clientSlots).map ClientSlot.userId :=
    List.map_map.trans (List.map_congr_left fun _ _ => rfl)
  rw [ids]
  exact users_once h.sound

theorem Quiet.current {s : Node cfg} (h : Quiet s) (powered : s.powered = true)
    (still : ∀ i, (s.world.ctx.clientSlots i).closing = false) : Current s.world := by
  rcases h.settled powered with ⟨k, closing⟩ | current
  · rw [still k] at closing
    cases closing
  · exact current

/-- When no client is closing, each joined one was last sent the list of all that are joined. -/
theorem quiet_presence (cJSONParse : CJSONParse) (flash : InitialFlash) (earlier later : List Event) (env : ℕ → Reply)
    (spare : ∀ e ∈ later, spared e) (s : Node cfg)
    (reached : s = run cJSONParse (Node.initial flash) (earlier ++ .powerOn env :: later)) (powered : s.powered = true)
    (still : ∀ i, (s.world.ctx.clientSlots i).closing = false) :
    ((faces s.world.ctx.clientSlots).map Prod.fst).Nodup ∧
    ∀ i, receives (s.world.ctx.clientSlots i) = true → ∃ now,
      lastPresence (s.world.ctx.clientSlots i).fd s.world.trace = some (presencePayload now (faces s.world.ctx.clientSlots)) := by
  have quiet : Quiet s := by
    rw [reached]
    exact quiet_reached cJSONParse flash earlier later env spare
  exact ⟨quiet.once, quiet.current powered still⟩

open ResponseLimit (field quoted braces environment textFrame emptyFlash)

def greeting (userId name : String) : List UInt8 := Utf8Texts.encoded (braces [field "type" (quoted "join".toList),
  field "from" (quoted userId.toList), field "name" (quoted name.toList), field "since_id" ['0']])

def greetingRoot (userId name : String) : Json :=
  .obj [("type", .str "join"), ("from", .str userId), ("name", .str name), ("since_id", intJson 0)]

def meetingParse : CJSONParse := fun p =>
  if p = greeting "ann" "Ann" then some (greetingRoot "ann" "Ann", p.length)
  else if p = greeting "bob" "Bob" then some (greetingRoot "bob" "Bob", p.length)
  else none

def meeting : List Event :=
  [.openSession 1, .frame 1 (textFrame (greeting "ann" "Ann")) environment,
    .openSession 2, .frame 2 (textFrame (greeting "bob" "Bob")) environment]

def met : Node (Config.default CjsonPrinter.fifteenDigits) := run meetingParse (Node.initial emptyFlash) ([] ++ .powerOn environment :: meeting)

theorem meeting_spared : ∀ e ∈ meeting, spared e := by
  simp only [meeting, List.forall_mem_cons, spared]
  simp [environment, Allocates, ResponseLimit.answered, ServerWorld.Reply.calm]

theorem met_powered : met.powered = true := by decide +kernel

theorem met_still : ∀ i, (met.world.ctx.clientSlots i).closing = false := by decide +kernel

theorem met_faces : faces met.world.ctx.clientSlots = [("ann", "Ann"), ("bob", "Bob")] := by decide +kernel

theorem met_first : ∃ i, receives (met.world.ctx.clientSlots i) = true ∧ (met.world.ctx.clientSlots i).fd = 1 ∧
    (met.world.ctx.clientSlots i).userId = "ann" := by decide +kernel

theorem quiet_presence_met : ∃ now, lastPresence 1 met.world.trace = some (presencePayload now [("ann", "Ann"), ("bob", "Bob")]) := by
  obtain ⟨i, joined, fd, -⟩ := met_first
  have last := (quiet_presence meetingParse emptyFlash [] meeting environment meeting_spared met rfl met_powered met_still).2
    i joined
  rw [met_faces, fd] at last
  exact last

end EspWebChat.QuietPresence
