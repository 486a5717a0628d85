import EspWebChat.LinkStates

set_option autoImplicit false

/-!
# What the handlers of a page do

The specification of a handler says two things: its writes to the store are moves that its
traffic allows, and a client that is attended to stays so.
-/
namespace EspWebChat.PageSteps
open Relation JsonTree JsValues ClientMessages Interruptible BrowserWorld ClientStore ClientSocket
open StoreSteps LinkStates

structure PageStep (T : Traffic) (u v : Page) : Prop where
  store : StoreStep T u.store v.store
  counts : u.link.wsConnectionSequence ≤ v.link.wsConnectionSequence

structure Good (p : Prop) (w : Page) : Prop where
  timed : RecoveryTimed w.store
  attended : Attended p w.link

variable {T : Traffic} {w : Page} {s : ℕ} {p : Prop}

theorem PageStep.connection {u v : Page} (same : v.store = u.store)
    (counts : u.link.wsConnectionSequence ≤ v.link.wsConnectionSequence) : PageStep T u v := by
  refine ⟨?_, counts⟩
  rw [same]
  exact .aside rfl rfl

theorem timed_of_path {u v : Page} (path : ReflTransGen (PageStep T) u v) (h : RecoveryTimed u.store) :
    RecoveryTimed v.store := by
  induction path with
  | refl => exact h
  | tail _ step ih => exact step.store.timed ih

theorem onStore_spec {α : Type} {m : Client Store α} {P : α → Store → Prop}
    (h : Traces (StoreStep T) m w.store P) :
    Traces (PageStep T) (onStore m) w (fun a w' => P a w'.store ∧ w'.link = w.link) := by
  apply (Traces.zoom (fun _ _ => rfl) (fun _ => rfl) h (fun _ _ step => ⟨step, Nat.le_refl _⟩)).post
  intro a w' _ hw
  obtain ⟨hp, v, rfl⟩ := hw
  exact ⟨hp, rfl⟩

theorem onStore_good {α : Type} {m : Client Store α} {P : α → Store → Prop}
    (h : Traces (StoreStep T) m w.store P) :
    Traces (PageStep T) (onStore m) w (fun _ w' => Good p w → Good p w') := by
  apply (onStore_spec h).post
  intro a w' path hw good
  refine ⟨timed_of_path path good.timed, ?_⟩
  rw [hw.2]
  exact good.attended

theorem link_spec : Traces (PageStep T) link w (fun l u => l = w.link ∧ u = w) :=
  .reads ⟨rfl, rfl⟩

theorem store_spec : Traces (PageStep T) store w (fun s u => s = w.store ∧ u = w) :=
  .reads ⟨rfl, rfl⟩

theorem setLink_spec (f : Link → Link)
    (counts : ∀ l, l.wsConnectionSequence ≤ (f l).wsConnectionSequence := by intro l; exact Nat.le_refl _) :
    Traces (PageStep T) (setLink f) w (fun _ w' => w'.store = w.store ∧ w'.link = f w.link) :=
  .writes (.connection rfl (counts w.link)) ⟨rfl, rfl⟩

theorem setStore_spec (f : Store → Store) (step : StoreStep T w.store (f w.store)) :
    Traces (PageStep T) (setStore f) w (fun _ w' => w'.store = f w.store ∧ w'.link = w.link) :=
  .writes ⟨step, Nat.le_refl _⟩ ⟨rfl, rfl⟩

theorem setStore_good (f : Store → Store) (step : StoreStep T w.store (f w.store)) :
    Traces (PageStep T) (setStore f) w (fun _ w' => Good p w → Good p w') :=
  .writes ⟨step, Nat.le_refl _⟩ (fun good => ⟨step.timed good.timed, good.attended⟩)

theorem good_of {w' : Page} (timed : RecoveryTimed w.store) (same : w'.store = w.store) {l : Link}
    (link : w'.link = l) (attended : Attended p l) : Good p w' :=
  ⟨same ▸ timed, link ▸ attended⟩

theorem setLink_good (f : Link → Link) (keep : Attended p w.link → Attended p (f w.link))
    (counts : ∀ l, l.wsConnectionSequence ≤ (f l).wsConnectionSequence := by intro l; exact Nat.le_refl _) :
    Traces (PageStep T) (setLink f) w (fun _ w' => Good p w → Good p w') := by
  apply (setLink_spec f counts).post
  intro _ w' _ hw good
  exact good_of good.timed hw.1 hw.2 (keep good.attended)

structure Released (w w' : Page) : Prop where
  ws : w'.link.ws = none
  sockets : w'.link.sockets = w.link.sockets
  blocked : w'.link.reconnectBlocked = w.link.reconnectBlocked
  sequence : w'.link.wsConnectionSequence = w.link.wsConnectionSequence
  tidy : RecoveryTimed w.store → Tidy w.link → Tidy w'.link
  timed : RecoveryTimed w.store → RecoveryTimed w'.store

theorem interruptRecovery_released {u : Page} (ws : u.link.ws = none) (sockets : u.link.sockets = w.link.sockets)
    (blocked : u.link.reconnectBlocked = w.link.reconnectBlocked)
    (sequence : u.link.wsConnectionSequence = w.link.wsConnectionSequence)
    (tidy : Tidy w.link → Tidy u.link) (timed : RecoveryTimed w.store → RecoveryTimed u.store) :
    Released w (interruptRecovery u) := by
  unfold interruptRecovery
  cases hr : u.store.activeRecovery with
  | none => exact ⟨ws, sockets, blocked, sequence, fun _ => tidy, timed⟩
  | some recovery =>
    refine ⟨ws, sockets, blocked, sequence, ?_, fun _ => by simp [RecoveryTimed]⟩
    intro ht hl
    apply (tidy hl).clearTimeout
    intro t e
    cases e
    rw [timed ht recovery hr]
    simp

theorem interruptRecovery_step (u : Page) : PageStep T u (interruptRecovery u) := by
  unfold interruptRecovery
  cases u.store.activeRecovery with
  | none => exact .connection rfl (Nat.le_refl _)
  | some recovery => exact ⟨⟨.stay, fun _ => by simp [RecoveryTimed]⟩, Nat.le_refl _⟩

theorem releaseSocket_spec (s : ℕ) : Traces (PageStep T) (releaseSocket s) w (fun done w' =>
    (w.link.ws ≠ some s ∧ done = false ∧ w' = w) ∨ (w.link.ws = some s ∧ done = true ∧ Released w w')) := by
  apply link_spec.bind
  intro l u _ h
  obtain ⟨rfl, rfl⟩ := h
  apply Traces.ite
  · intro stale
    exact .pure (.inl ⟨stale, rfl, rfl⟩)
  · intro h
    have current : u.link.ws = some s := by simpa using h
    apply (setLink_spec detach (fun l => (detach_sequence l).ge)).bind
    intro _ v _ hv
    apply (onStore_spec resetPresence_spec).bind
    intro _ x path hx
    have link : x.link = detach u.link := hx.2.trans hv.2
    have timed : RecoveryTimed u.store → RecoveryTimed x.store := by
      rw [← hv.1]
      exact timed_of_path path
    have released : Released u (interruptRecovery x) := by
      apply interruptRecovery_released _ _ _ _ _ timed
      · rw [link]
        rfl
      · rw [link]
        rfl
      · rw [link]
        rfl
      · rw [link]
        rfl
      · intro tidy
        rw [link]
        exact tidy.detach
    apply (Traces.writes (P := fun _ y => Released u y) (interruptRecovery_step x) released).bind
    intro _ y _ hy
    exact .pure (.inr ⟨current, rfl, hy⟩)

/-- What is known when the current socket `s` is being given up. -/
structure Loose (w : Page) (s : ℕ) : Prop where
  timed : RecoveryTimed w.store
  tidy : Tidy w.link
  others : ∀ s', s' ≠ s → liveState (readyState w.link s') = false
  counted : 0 < w.link.wsConnectionSequence

theorem loose_of_orderly (timed : RecoveryTimed w.store) (orderly : Orderly w.link) (current : w.link.ws = some s) :
    Loose w s := by
  refine ⟨timed, orderly.tidy, ?_, orderly.counted (.inl (by rw [current]; rfl))⟩
  intro s' hne
  apply orderly.retired
  rw [current]
  intro e
  exact hne (Option.some.inj e).symm

theorem Released.orderly {w' : Page} (h : Released w w') (loose : Loose w s) :
    Orderly (closeSocket s w'.link) := by
  apply orderly_closed (h.tidy loose.timed loose.tidy) h.ws
  · intro s' hne
    unfold readyState
    rw [h.sockets]
    exact loose.others s' hne
  · intro _
    rw [h.sequence]
    exact loose.counted

theorem reconnectSocket_spec (s : ℕ) : Traces (PageStep T) (reconnectSocket s) w (fun _ w' =>
    (w.link.ws ≠ some s ∧ w' = w) ∨ (w.link.ws = some s ∧ (Loose w s → Good p w'))) := by
  apply (releaseSocket_spec s).bind
  intro done u _ hu
  cases hu with
  | inl stale =>
    obtain ⟨hs, rfl, rfl⟩ := stale
    exact .pure (.inl ⟨hs, rfl⟩)
  | inr released =>
    obtain ⟨current, rfl, hr⟩ := released
    apply (setLink_spec (closeSocket s)).bind
    intro _ v _ hv
    apply (setLink_spec scheduleReconnect (fun l => (scheduleReconnect_sequence l).ge)).post
    intro _ x _ hx
    refine .inr ⟨current, ?_⟩
    intro loose
    refine good_of (hr.timed loose.timed) (hx.1.trans hv.1) hx.2 ?_
    rw [hv.2]
    exact (hr.orderly loose).scheduleReconnect hr.ws

/-- At most a frame was sent. -/
def Unmoved (w w' : Page) : Prop := w'.store = w.store ∧ ∃ sent, w'.link = { w.link with sent := sent }

theorem Unmoved.good {w' : Page} (h : Unmoved w w') (good : Good p w) : Good p w' := by
  obtain ⟨hs, sent, hl⟩ := h
  refine ⟨?_, ?_⟩
  · rw [hs]
    exact good.timed
  · rw [hl]
    exact good.attended.congr rfl

theorem sendRaw_spec (payload : Json) : Traces (PageStep T) (sendRaw payload) w (fun done w' =>
    Unmoved w w' ∨ (done = false ∧ (RecoveryTimed w.store → Orderly w.link → Good p w'))) := by
  apply link_spec.bind
  intro l u _ h
  obtain ⟨rfl, rfl⟩ := h
  have unmoved : Unmoved u u := ⟨rfl, u.link.sent, rfl⟩
  cases hws : u.link.ws with
  | none => exact .pure (.inl unmoved)
  | some s =>
    apply Traces.ite
    · intro _
      exact .pure (.inl unmoved)
    · intro _
      apply reply_spec.bind
      intro r v _ hv
      subst hv
      apply Traces.ite
      · intro _
        apply (setLink_spec (recordSent s payload) (fun l => (recordSent_wsConnectionSequence s payload l).ge)).bind
        intro _ x _ hx
        exact .pure (.inl ⟨hx.1, _, hx.2⟩)
      · intro _
        apply (reconnectSocket_spec s).bind
        intro _ x _ hx
        refine .pure (.inr ⟨rfl, ?_⟩)
        intro timed orderly
        cases hx with
        | inl stale => exact absurd hws stale.1
        | inr released => exact released.2 (loose_of_orderly timed orderly hws)

theorem sendRaw_good (payload : Json) :
    Traces (PageStep T) (sendRaw payload) w (fun _ w' => Good p w → Good p w') := by
  apply (sendRaw_spec payload).post
  intro done w' _ h good
  cases h with
  | inl unmoved => exact unmoved.good good
  | inr failed => exact failed.2 good.timed good.attended.orderly

theorem sendControl_spec (type : String) (extra : Members) :
    Traces (PageStep T) (sendControl type extra) w (fun done w' =>
      Unmoved w w' ∨ (done = false ∧ (RecoveryTimed w.store → Orderly w.link → Good p w'))) := by
  apply store_spec.bind
  intro st u _ h
  obtain ⟨rfl, rfl⟩ := h
  apply nowS_spec.bind
  intro now v _ hv
  subst hv
  exact sendRaw_spec _

theorem sendControl_good (type : String) (extra : Members) :
    Traces (PageStep T) (sendControl type extra) w (fun _ w' => Good p w → Good p w') := by
  apply (sendControl_spec type extra).post
  intro done w' _ h good
  cases h with
  | inl unmoved => exact unmoved.good good
  | inr failed => exact failed.2 good.timed good.attended.orderly

theorem sendPending_good (pending : List Json) :
    Traces (PageStep T) (sendPending pending) w (fun _ w' => Good p w → Good p w') := by
  induction pending generalizing w with
  | nil => exact .pure (fun good => good)
  | cons message pending ih =>
    apply nowS_spec.bind
    intro now u _ hu
    subst hu
    apply (sendRaw_good _).bind
    intro done v _ hv
    apply Traces.ite
    · intro _
      apply ih.post
      intro _ x _ hx good
      exact hx (hv good)
    · intro _
      exact .pure hv

theorem flushOutbox_good : Traces (PageStep T) flushOutbox w (fun _ w' => Good p w → Good p w') := by
  apply (Traces.reads (P := fun a u => a = w ∧ u = w) ⟨rfl, rfl⟩).bind
  intro a u _ h
  obtain ⟨rfl, rfl⟩ := h
  apply Traces.ite (fun _ => .pure (fun good => good))
  intro _
  apply (sendPending_good _).bind
  intro remaining v _ hv
  apply (setStore_good _ (.aside rfl rfl)).bind
  intro _ x _ hx
  apply (onStore_good saveOutbox_spec).post
  intro _ y _ hy good
  exact hy (hx (hv good))

theorem confirmSocketJoin_good : Traces (PageStep T) confirmSocketJoin w (fun _ w' => Good p w → Good p w') := by
  apply link_spec.bind
  intro l u _ h
  obtain ⟨rfl, rfl⟩ := h
  cases hws : u.link.ws with
  | none => exact .pure (fun good => good)
  | some s =>
    apply Traces.ite (fun _ => .pure (fun good => good))
    intro hc
    have state : readyState u.link s = .opened := by
      simp only [Bool.or_eq_true, decide_eq_true_eq, not_or, ne_eq, not_not] at hc
      exact hc.2
    apply (setLink_good (joinConfirmed s) (fun h => h.joinConfirmed hws state)
      (fun l => (joinConfirmed_sequence s l).ge)).bind
    intro _ v _ hv
    apply flushOutbox_good.post
    intro _ x _ hx good
    exact hx (hv good)

theorem resetSinceIdAndReconnect_good (allowed : T.resets) (current : w.link.ws.isSome = true) :
    Traces (PageStep T) resetSinceIdAndReconnect w (fun _ w' => Good p w → Good p w') := by
  apply (setStore_spec _ (.archived (.reset allowed) rfl)).bind
  intro _ u path hu
  have zero : u.store.lastSeenId = 0 := by rw [hu.1]
  apply (onStore_spec (storeCursor_spec 0 zero)).bind
  intro _ v path' hv
  have timed : RecoveryTimed w.store → RecoveryTimed v.store := fun h => timed_of_path (path.trans path') h
  obtain ⟨s, hws⟩ := Option.isSome_iff_exists.mp current
  apply (setLink_spec unblock (fun l => (unblock_sequence l).ge)).bind
  intro _ x _ hx
  apply link_spec.bind
  intro l y _ hy
  obtain ⟨rfl, rfl⟩ := hy
  have link : y.link = unblock w.link := by rw [hx.2, hv.2, hu.2]
  have ws : y.link.ws = some s := by
    rw [link]
    exact hws
  simp only [ws]
  apply (reconnectSocket_spec s).post
  intro _ z _ hz good
  cases hz with
  | inl stale => exact absurd ws stale.1
  | inr released =>
    apply released.2
    have loose := loose_of_orderly good.timed good.attended.orderly hws
    have tidy : Tidy { w.link with reconnectBlocked := false, wsJoined := false } :=
      loose.tidy.congr rfl rfl rfl rfl rfl
    refine ⟨?_, ?_, ?_, ?_⟩
    · rw [hx.1]
      exact timed good.timed
    · rw [link]
      exact tidy.clearJoinTimer
    · rw [link]
      exact loose.others
    · rw [link]
      exact loose.counted

theorem adoptHeartbeat_attended (msg : Json) {l : Link} (h : Attended p l) : Attended p (adoptHeartbeat msg l) := by
  unfold adoptHeartbeat
  split
  · rename_i seconds _
    have adopted : Attended p { l with heartbeatIntervalMs := seconds * 1000 } := h.congr rfl
    simp only []
    split_ifs
    · unfold rearmReceiveTimer
      split
      · rename_i s hs
        exact adopted.armReceiveTimer hs
      · exact adopted
    · exact adopted
  · exact h

theorem handleHistoryInfo_good (msg : Json) :
    Traces (PageStep T) (handleHistoryInfo msg) w (fun _ w' => Good p w → Good p w') := by
  unfold handleHistoryInfo
  split
  · exact .pure (fun good => good)
  · apply (setLink_good (adoptHeartbeat msg) (adoptHeartbeat_attended msg) (fun l => (adoptHeartbeat_sequence msg l).ge)).bind
    intro _ u _ hu
    apply Traces.ite (fun _ => .pure hu)
    intro _
    apply (setStore_good _ (.aside rfl rfl)).post
    intro _ v _ hv good
    exact hv (hu good)

theorem sendResponses_good (requestId : String) (requester : Json) (stored : List Json) :
    Traces (PageStep T) (sendResponses requestId requester stored) w (fun _ w' => Good p w → Good p w') := by
  induction stored generalizing w with
  | nil => exact .pure (fun good => good)
  | cons message rest ih =>
    apply (sendControl_good _ _).bind
    intro _ u _ hu
    apply ih.post
    intro _ v _ hv good
    exact hv (hu good)

theorem handleHistoryRequest_good (msg : Json) :
    Traces (PageStep T) (handleHistoryRequest msg) w (fun _ w' => Good p w → Good p w') := by
  apply store_spec.bind
  intro st u _ h
  obtain ⟨rfl, rfl⟩ := h
  split
  · apply Traces.ite (fun _ => .pure (fun good => good))
    intro _
    exact sendResponses_good _ _ _
  · exact .pure (fun good => good)

theorem handlePresence_good (msg : Json) :
    Traces (PageStep T) (handlePresence msg) w (fun _ w' => Good p w → Good p w') := by
  apply store_spec.bind
  intro st u _ h
  obtain ⟨rfl, rfl⟩ := h
  apply Traces.ite (fun _ => .pure (fun good => good))
  intro _
  apply confirmSocketJoin_good.bind
  intro _ v _ hv
  apply (onStore_good (updateOnlineUsers_spec _)).post
  intro _ x _ hx good
  exact hx (hv good)

def trafficOf (frame : Option Json) : Traffic where
  chat msg := frame = some msg ∧
    (isText "text" (msg.lastMember "type") || isText "newGroup" (msg.lastMember "type")) = true
  recovered candidate := ∃ msg, frame = some msg ∧ isText "historyResponse" (msg.lastMember "type") = true ∧
    msg.lastMember "message" = some candidate
  resets := ∃ msg, frame = some msg ∧ isText "error" (msg.lastMember "type") = true ∧
    isText "bad_since_id" (msg.lastMember "code") = true

theorem handleError_good (msg : Json) (error : isText "error" (msg.lastMember "type") = true)
    (current : w.link.ws.isSome = true) :
    Traces (PageStep (trafficOf (some msg))) (handleError msg) w (fun _ w' => Good p w → Good p w') := by
  apply Traces.ite (fun _ => .pure (fun good => good))
  intro _
  apply Traces.ite
  · intro code
    exact resetSinceIdAndReconnect_good ⟨msg, rfl, error, code⟩ current
  · intro _
    apply Traces.ite
    · intro _
      obtain ⟨s, hs⟩ := Option.isSome_iff_exists.mp current
      exact setLink_good sessionReplaced (fun h => h.sessionReplaced hs) (fun l => (sessionReplaced_sequence l).ge)
    · intro _
      exact .pure (fun good => good)

theorem noteProgress_attended (msg : Json) {l : Link} (h : Attended p l) : Attended p (noteProgress msg l) := by
  unfold noteProgress
  split
  · rename_i s hs
    split_ifs
    · exact h.armJoinTimer hs
    · exact h
  · exact h

theorem noteProgress_ws (msg : Json) (l : Link) : (noteProgress msg l).ws = l.ws := by
  unfold noteProgress
  split
  · split_ifs
    · rfl
    · rfl
  · rfl

theorem handleIncoming_good (frame : Option Json) (current : w.link.ws.isSome = true) :
    Traces (PageStep (trafficOf frame)) (handleIncoming frame) w (fun _ w' => Good p w → Good p w') := by
  cases frame with
  | none => exact .pure (fun good => good)
  | some msg =>
    apply Traces.ite (fun _ => .pure (fun good => good))
    intro _
    apply Traces.bind (P := fun _ u => u.link.ws.isSome = true ∧ (Good p w → Good p u))
    · apply (setLink_spec (noteProgress msg) (fun l => (noteProgress_sequence msg l).ge)).post
      intro _ u _ hu
      constructor
      · rw [hu.2, noteProgress_ws]
        exact current
      · intro good
        exact good_of good.timed hu.1 hu.2 (noteProgress_attended msg good.attended)
    · intro _ u _ hu
      have after : ∀ {m : Client Page Unit}, Traces (PageStep (trafficOf (some msg))) m u
          (fun _ w' => Good p u → Good p w') → Traces (PageStep (trafficOf (some msg))) m u
          (fun _ w' => Good p w → Good p w') := by
        intro m h
        apply h.post
        intro _ x _ hx good
        exact hx (hu.2 good)
      apply Traces.ite
      · intro _
        apply after
        apply store_spec.bind
        intro st v _ h
        obtain ⟨rfl, rfl⟩ := h
        apply nowS_spec.bind
        intro now x _ hx
        subst hx
        apply (sendRaw_good _).bind
        intro _ y _ hy
        exact .pure hy
      · intro _
        apply Traces.ite (fun _ => after (handleHistoryInfo_good msg))
        intro _
        apply Traces.ite (fun _ => after (handleHistoryRequest_good msg))
        intro _
        apply Traces.ite
        · intro response
          apply after
          apply onStore_good (handleHistoryResponse_spec msg _)
          intro c hc
          exact ⟨msg, rfl, response, hc⟩
        · intro _
          apply Traces.ite (fun _ => after (handlePresence_good msg))
          intro _
          apply Traces.ite (fun error => after (handleError_good msg error hu.1))
          intro _
          apply Traces.ite
          · intro chat
            exact after (onStore_good (handleChat_spec msg ⟨rfl, chat⟩))
          · intro _
            exact .pure hu.2

theorem chat_of_valid {msg : Json} (valid : validHistoryMessage msg = true) :
    (isText "text" (msg.lastMember "type") || isText "newGroup" (msg.lastMember "type")) = true := by
  unfold validHistoryMessage at valid
  simp only [Bool.and_eq_true] at valid
  exact valid.1.1.1.1.1.1.1.2

theorem chat_type {msg : Json} {type : String}
    (chat : (isText "text" (msg.lastMember "type") || isText "newGroup" (msg.lastMember "type")) = true)
    (text : type ≠ "text") (group : type ≠ "newGroup") : ¬isText type (msg.lastMember "type") = true := by
  intro is
  simp only [isText, beq_iff_eq, Bool.or_eq_true] at is chat
  rw [is] at chat
  simp [text, group] at chat

theorem throws_number {value : Option Json} (h : throws value = true) : numberOfMember value = .nan := by
  cases value with
  | none => cases h
  | some j => exact numberOf_throws j h

theorem summary_of_valid {msg : Json} (valid : validHistoryMessage msg = true) : wsMessageSummaryThrows msg = false := by
  have chat := chat_of_valid valid
  have converts : throws (msg.lastMember "id") = false := by
    unfold validHistoryMessage at valid
    simp only [Bool.and_eq_true] at valid
    have safe := valid.1.1.1.1.1.1.1.1
    unfold isSafeMessageId messageId at safe
    rw [Bool.eq_false_iff]
    intro fails
    rw [throws_number fails] at safe
    cases safe
  have other : ∀ type, type ≠ "text" → type ≠ "newGroup" → isText type (msg.lastMember "type") = false :=
    fun type text group => Bool.eq_false_iff.mpr (chat_type chat text group)
  unfold wsMessageSummaryThrows
  dsimp only
  rw [converts, other "join" (by decide) (by decide), other "historyInfo" (by decide) (by decide)]
  rfl

theorem handleIncoming_chat (msg : Json) (valid : validHistoryMessage msg = true) :
    Traces (PageStep (trafficOf (some msg))) (handleIncoming (some msg)) w (fun _ w' =>
      isMessageForMe w.store.userId msg = true → knows (archive w'.store) (numericId msg)) := by
  have chat := chat_of_valid valid
  rw [handleIncoming_summarized (summary_of_valid valid)]
  apply (setLink_spec (noteProgress msg) (fun l => (noteProgress_sequence msg l).ge)).bind
  intro _ u _ hu
  rw [← hu.1]
  rw [if_neg (chat_type chat (by decide) (by decide)), if_neg (chat_type chat (by decide) (by decide)),
    if_neg (chat_type chat (by decide) (by decide)), if_neg (chat_type chat (by decide) (by decide)),
    if_neg (chat_type chat (by decide) (by decide)), if_neg (chat_type chat (by decide) (by decide)), if_pos chat]
  have arrives : (trafficOf (some msg)).chat msg := ⟨rfl, chat⟩
  apply (onStore_spec (handleChat_spec msg arrives)).post
  intro _ v _ hv
  exact hv.1 valid

theorem connect_spec : Traces (PageStep T) connect w
    (fun _ w' => RecoveryTimed w.store → Startable p w.link → Good p w') := by
  apply link_spec.bind
  intro l u _ h
  obtain ⟨rfl, rfl⟩ := h
  apply Traces.ite
  · intro skip
    exact .pure (fun timed start => ⟨timed, start.skip skip⟩)
  · intro go
    simp only [Bool.or_eq_true, not_or, Bool.not_eq_true] at go
    apply (setLink_spec countConnection (fun l => Nat.le_succ _)).bind
    intro _ v _ hv
    apply reply_spec.bind
    intro r x _ hx
    subst hx
    apply Traces.ite
    · intro _
      apply (setLink_spec newSocket (fun l => (newSocket_sequence l).ge)).post
      intro _ y _ hy timed start
      refine good_of timed (hy.1.trans hv.1) hy.2 ?_
      rw [hv.2]
      exact start.orderly.countConnection.newSocket go.2 (Nat.succ_pos _)
    · intro _
      apply (setLink_spec constructorFailed (fun l => (constructorFailed_sequence l).ge)).post
      intro _ y _ hy timed start
      refine good_of timed (hy.1.trans hv.1) hy.2 ?_
      rw [hv.2]
      exact start.orderly.countConnection.constructorFailed go.2 (Nat.succ_pos _)

theorem connect_good : Traces (PageStep T) connect w (fun _ w' => Good p w → Good p w') := by
  apply connect_spec.post
  intro _ u _ hu good
  exact hu good.timed good.attended.startable

theorem enter_good : Traces (PageStep T) enter w (fun _ w' => Good p w → Good p w') := by
  apply (setLink_good hideLogin (fun h => h.congr rfl)).bind
  intro _ u _ hu
  apply (onStore_good render_spec).bind
  intro drawn v _ hv
  apply Traces.ite
  · intro _
    apply connect_good.post
    intro _ x _ hx good
    exact hx (hv (hu good))
  · intro _
    exact .pure (fun good => hv (hu good))

theorem onlineListener_good : Traces (PageStep T) onlineListener w (fun _ w' => Good p w → Good p w') := by
  apply link_spec.bind
  intro l u _ h
  obtain ⟨rfl, rfl⟩ := h
  apply Traces.ite
  · intro _
    apply (setLink_spec hurry).bind
    intro _ v _ hv
    apply connect_spec.post
    intro _ x _ hx good
    rw [hv.1, hv.2] at hx
    exact hx good.timed good.attended.hurry
  · intro _
    exact .pure (fun good => good)

theorem connectTimedOut_spec (s : ℕ) : Traces (PageStep T) (connectTimedOut s) w (fun _ w' =>
    (¬(w.link.ws = some s ∧ readyState w.link s = .connecting) ∧ w' = w) ∨
      (w.link.ws = some s ∧ (Loose w s → Good p w'))) := by
  apply link_spec.bind
  intro l u _ h
  obtain ⟨rfl, rfl⟩ := h
  apply Traces.ite
  · intro hc
    apply (releaseSocket_spec s).bind
    intro done v _ hv
    cases hv with
    | inl stale => exact absurd hc.1 stale.1
    | inr released =>
      obtain ⟨-, -, hr⟩ := released
      apply (setLink_spec (closeSocket s)).bind
      intro _ x _ hx
      apply (setLink_spec tryNextUrl (fun l => (tryNextUrl_sequence l).ge)).post
      intro _ y _ hy
      refine .inr ⟨hc.1, ?_⟩
      intro loose
      refine good_of (hr.timed loose.timed) (hy.1.trans hx.1) hy.2 ?_
      rw [hx.2]
      exact (hr.orderly loose).tryNextUrl hr.ws
  · intro hc
    exact .pure (.inl ⟨hc, rfl⟩)

theorem joinTimedOut_spec (s : ℕ) : Traces (PageStep T) (joinTimedOut s) w (fun _ w' =>
    (¬(w.link.ws = some s ∧ w.link.wsJoined = false) ∧ w' = w) ∨
      (w.link.ws = some s ∧ (Loose w s → Good p w'))) := by
  apply link_spec.bind
  intro l u _ h
  obtain ⟨rfl, rfl⟩ := h
  apply Traces.ite
  · intro hc
    apply (reconnectSocket_spec s).post
    intro _ v _ hv
    cases hv with
    | inl stale => exact absurd hc.1 stale.1
    | inr released => exact .inr released
  · intro hc
    exact .pure (.inl ⟨hc, rfl⟩)

theorem receiveTimedOut_spec (s : ℕ) : Traces (PageStep T) (receiveTimedOut s) w (fun _ w' =>
    (¬(w.link.ws = some s ∧ w.link.wsJoined = true) ∧ w'.store = w.store ∧
      w'.link = forgetReceiveTimer w.link) ∨
    (w.link.ws = some s ∧ (RecoveryTimed w.store → Orderly (forgetReceiveTimer w.link) → Good p w'))) := by
  apply (setLink_spec forgetReceiveTimer).bind
  intro _ u _ hu
  have ws : u.link.ws = w.link.ws := by
    rw [hu.2]
    rfl
  have joined : u.link.wsJoined = w.link.wsJoined := by
    rw [hu.2]
    rfl
  apply link_spec.bind
  intro l v _ h
  obtain ⟨rfl, rfl⟩ := h
  rw [ws, joined]
  apply Traces.ite
  · intro hc
    apply (reconnectSocket_spec s).post
    intro _ x _ hx
    cases hx with
    | inl stale => exact absurd (ws.trans hc.1) stale.1
    | inr released =>
      refine .inr ⟨hc.1, ?_⟩
      intro timed orderly
      apply released.2
      rw [← hu.2] at orderly
      exact loose_of_orderly (hu.1 ▸ timed) orderly released.1
  · intro hc
    exact .pure (.inl ⟨hc, hu⟩)

theorem timerFired_good (t : Timer) : Traces (PageStep T) (timerFired t) w (fun _ w' => Good p w → Good p w') := by
  apply link_spec.bind
  intro l u _ h
  obtain ⟨rfl, rfl⟩ := h
  apply Traces.ite
  · intro pending
    apply (setLink_spec (clearTimeout (some t))).bind
    intro _ v _ hv
    have ws : v.link.ws = u.link.ws := by
      rw [hv.2]
      rfl
    have given : Good p u → t.callback ≠ .reconnect → ∀ s, v.link.ws = some s → Loose v s := by
      intro good reconnect s current
      have orderly : Orderly (clearTimeout (some t) u.link) := by
        apply good.attended.orderly.clearTimeout
        intro t' e
        cases e
        exact reconnect
      rw [← hv.2] at orderly
      exact loose_of_orderly (hv.1 ▸ good.timed) orderly current
    have harmless : Good p u → Attended p (clearTimeout (some t) u.link) → Good p v := by
      intro good attended
      exact good_of good.timed hv.1 hv.2 attended
    cases kind : t.callback with
    | enter =>
      apply enter_good.post
      intro _ x _ hx good
      exact hx (harmless good (good.attended.fired t (by simp [kind]) (by simp [kind]) (by simp [kind])
        (by simp [kind]) (by simp [kind])))
    | connect =>
      apply connect_spec.post
      intro _ x _ hx good
      rw [hv.1, hv.2] at hx
      exact hx good.timed (good.attended.fallbackFired t kind)
    | connectTimeout s =>
      apply (connectTimedOut_spec s).post
      intro _ x _ hx good
      cases hx with
      | inl stale =>
        rw [stale.2]
        refine harmless good (good.attended.fired t (by simp [kind]) (by simp [kind]) ?_ (by simp [kind])
          (by simp [kind]))
        intro s' e
        rw [kind] at e
        cases e
        rw [ws, hv.2] at stale
        exact stale.1
      | inr released => exact released.2 (given good (by simp [kind]) s released.1)
    | joinTimeout s =>
      apply (joinTimedOut_spec s).post
      intro _ x _ hx good
      cases hx with
      | inl stale =>
        rw [stale.2]
        refine harmless good (good.attended.fired t (by simp [kind]) (by simp [kind]) (by simp [kind]) ?_
          (by simp [kind]))
        intro s' e
        rw [kind] at e
        cases e
        rw [ws, hv.2] at stale
        exact stale.1
      | inr released => exact released.2 (given good (by simp [kind]) s released.1)
    | receiveTimeout s =>
      apply (receiveTimedOut_spec s).post
      intro _ x _ hx good
      rw [ws, hv.1, hv.2] at hx
      cases hx with
      | inl stale => exact good_of good.timed stale.2.1 stale.2.2 (good.attended.receiveFired pending kind stale.1)
      | inr released =>
        have orderly := good.attended.orderly
        exact released.2 good.timed ⟨orderly.tidy.receiveFired pending kind, orderly.retired, orderly.counted⟩
    | reconnect =>
      apply (setLink_spec backOff).bind
      intro _ x _ hx
      apply connect_spec.post
      intro _ y _ hy good
      rw [hx.1, hx.2, hv.1, hv.2] at hy
      exact hy good.timed (good.attended.reconnectFired t kind)
    | finishRecovery =>
      apply (onStore_good finishHistoryRecovery_spec).post
      intro _ x _ hx good
      exact hx (harmless good (good.attended.fired t (by simp [kind]) (by simp [kind]) (by simp [kind])
        (by simp [kind]) (by simp [kind])))
  · intro _
    exact .pure (fun good => good)

theorem noteTraffic_ws (s : ℕ) (l : Link) : (noteTraffic s l).ws = l.ws := by
  unfold noteTraffic
  split_ifs
  · rfl
  · rfl

theorem noteTraffic_attended {l : Link} (h : Attended p l) (current : l.ws = some s) : Attended p (noteTraffic s l) := by
  unfold noteTraffic
  split_ifs
  · exact h.armReceiveTimer current
  · exact h

theorem onmessage_good (s : ℕ) (frame : Option Json) :
    Traces (PageStep (trafficOf frame)) (onmessage s frame) w (fun _ w' => Good p w → Good p w') := by
  apply link_spec.bind
  intro l u _ h
  obtain ⟨rfl, rfl⟩ := h
  apply Traces.ite (fun _ => .pure (fun good => good))
  intro hc
  have current : u.link.ws = some s := by simpa using hc
  apply (setLink_spec (noteTraffic s) (fun l => (noteTraffic_sequence s l).ge)).bind
  intro _ v _ hv
  have ws : v.link.ws = some s := by
    rw [hv.2, noteTraffic_ws]
    exact current
  apply (handleIncoming_good frame (by rw [ws]; rfl)).post
  intro _ x _ hx good
  exact hx (good_of good.timed hv.1 hv.2 (noteTraffic_attended good.attended current))

theorem onmessage_chat (current : w.link.ws = some s) (msg : Json) (valid : validHistoryMessage msg = true) :
    Traces (PageStep (trafficOf (some msg))) (onmessage s (some msg)) w (fun _ w' =>
      isMessageForMe w.store.userId msg = true → knows (archive w'.store) (numericId msg)) := by
  apply link_spec.bind
  intro l u _ h
  obtain ⟨rfl, rfl⟩ := h
  apply Traces.ite (fun stale => absurd current stale)
  intro _
  apply (setLink_spec (noteTraffic s) (fun l => (noteTraffic_sequence s l).ge)).bind
  intro _ v _ hv
  rw [← hv.1]
  exact handleIncoming_chat msg valid

theorem closeFires_ws (s : ℕ) (l : Link) : (closeFires s l).ws = l.ws := rfl

theorem socketClosed_good (s : ℕ) : Traces (PageStep T) (socketClosed s) w (fun _ w' => Good p w → Good p w') := by
  apply (setLink_spec (closeFires s)).bind
  intro _ u _ hu
  have ws : u.link.ws = w.link.ws := by rw [hu.2, closeFires_ws]
  apply link_spec.bind
  intro l v _ h
  obtain ⟨rfl, rfl⟩ := h
  apply Traces.ite
  · intro stale
    refine .pure ?_
    intro good
    rw [ws] at stale
    exact good_of good.timed hu.1 hu.2 (good.attended.otherSocket stale _ (fun _ => rfl))
  · intro hc
    have current : v.link.ws = some s := by simpa using hc
    apply (releaseSocket_spec s).bind
    intro done x _ hx
    cases hx with
    | inl stale => exact absurd current stale.1
    | inr released =>
      obtain ⟨-, -, hr⟩ := released
      apply (setLink_spec (afterClose s) (fun l => (afterClose_sequence s l).ge)).post
      intro _ y _ hy good
      have before := loose_of_orderly good.timed good.attended.orderly (ws.symm.trans current)
      have timed : RecoveryTimed v.store := hu.1 ▸ good.timed
      have tidy : Tidy v.link := by
        rw [hu.2]
        exact before.tidy.congr rfl rfl rfl rfl rfl
      have orderly : Orderly x.link := by
        refine ⟨hr.tidy timed tidy, ?_, ?_⟩
        · intro s' _
          have same : readyState x.link s' = readyState (closeFires s w.link) s' := by
            unfold readyState
            rw [hr.sockets, hu.2]
          rw [same]
          by_contra live
          obtain ⟨hne, old⟩ := closeFires_live (l := w.link) (s := s) (by simpa using live)
          rw [old] at live
          exact live (before.others s' hne)
        · intro _
          rw [hr.sequence, hu.2]
          exact before.counted
      exact good_of (hr.timed timed) hy.1 hy.2 (orderly.afterClose hr.ws s)

/-- The state in which the open event of a connecting socket runs. -/
structure Opening (p : Prop) (w : Page) (s : ℕ) (l : Link) : Prop where
  attended : Attended p l
  state : readyState l s = .connecting
  link : w.link = setReadyState .opened s l
  timed : RecoveryTimed w.store

theorem Opening.current {l : Link} (h : Opening p w s l) : w.link.ws = some s := by
  rw [h.link]
  exact h.attended.current (by rw [h.state]; rfl)

theorem onopen_spec (s : ℕ) : Traces (PageStep T) (onopen s) w (fun _ w' =>
    (w.link.ws ≠ some s → w' = w) ∧ ∀ l, Opening p w s l → Good p w') := by
  apply (Traces.reads (P := fun a u => a = w ∧ u = w) ⟨rfl, rfl⟩).bind
  intro a u _ h
  obtain ⟨rfl, rfl⟩ := h
  apply Traces.ite
  · intro stale
    exact .pure ⟨fun _ => rfl, fun l opening => absurd opening.current stale⟩
  · intro current
    apply (setLink_spec (openedNow s)).bind
    intro _ v _ hv
    have opened : ∀ l, Opening p u s l → JustOpened v.link s := by
      intro l opening
      rw [hv.2, opening.link]
      exact opening.attended.justOpened opening.state
    have timed : ∀ l, Opening p u s l → RecoveryTimed v.store := fun l opening => hv.1 ▸ opening.timed
    apply (sendControl_spec _ _).bind
    intro done y _ hy
    apply Traces.ite
    · intro hd
      apply (setLink_spec (armJoinTimer s) (fun l => (armJoinTimer_sequence s l).ge)).post
      intro _ z _ hz
      refine ⟨fun stale => absurd stale current, ?_⟩
      intro l opening
      cases hy with
      | inl unmoved =>
        obtain ⟨hs, sent, hl⟩ := unmoved
        refine good_of (timed l opening) (hz.1.trans hs) hz.2 ?_
        rw [hl]
        exact ((opened l opening).sent sent).armJoinTimer
      | inr failed =>
        rw [failed.1] at hd
        cases hd
    · intro _
      apply (setLink_spec (closeSocket s)).post
      intro _ z _ hz
      refine ⟨fun stale => absurd stale current, ?_⟩
      intro l opening
      cases hy with
      | inl unmoved =>
        obtain ⟨hs, sent, hl⟩ := unmoved
        refine good_of (timed l opening) (hz.1.trans hs) hz.2 ?_
        rw [hl]
        exact ((opened l opening).sent sent).closeSocket
      | inr failed =>
        have after := failed.2 (timed l opening) (opened l opening).orderly
        exact good_of after.timed hz.1 hz.2 (after.attended.closeSocket s)

theorem socketOpened_good (s : ℕ) : Traces (PageStep T) (socketOpened s) w (fun _ w' => Good p w → Good p w') := by
  apply link_spec.bind
  intro l u _ h
  obtain ⟨rfl, rfl⟩ := h
  apply Traces.ite
  · intro state
    apply (setLink_spec (setReadyState .opened s)).bind
    intro _ v _ hv
    apply (onopen_spec (p := p) s).post
    intro _ x _ hx good
    exact hx.2 u.link ⟨good.attended, state, hv.2, hv.1 ▸ good.timed⟩
  · intro _
    apply Traces.ite
    · intro stale
      apply (onopen_spec (p := p) s).post
      intro _ x _ hx good
      rw [hx.1 stale]
      exact good
    · intro _
      exact .pure (fun good => good)

theorem sendOrQueue_good (message : Json) :
    Traces (PageStep T) (sendOrQueue message) w (fun _ w' => Good p w → Good p w') := by
  apply link_spec.bind
  intro l u _ h
  obtain ⟨rfl, rfl⟩ := h
  apply Traces.bind (P := fun _ v => Good p u → Good p v)
  · apply Traces.ite (fun _ => sendRaw_good message)
    intro _
    exact .pure (fun good => good)
  · intro done v _ hv
    apply Traces.ite (fun _ => .pure hv)
    intro _
    apply (onStore_good (queueMessage_spec message)).post
    intro _ x _ hx good
    exact hx (hv good)

theorem sendMessage_good (input : String) :
    Traces (PageStep T) (sendMessage input) w (fun _ w' => Good p w → Good p w') := by
  apply Traces.ite (fun _ => .pure (fun good => good))
  intro _
  apply store_spec.bind
  intro st u _ h
  obtain ⟨rfl, rfl⟩ := h
  apply nowS_spec.bind
  intro now v _ hv
  subst hv
  exact sendOrQueue_good _

theorem createGroup_good (selectedIds : List String) :
    Traces (PageStep T) (createGroup selectedIds) w (fun _ w' => Good p w → Good p w') := by
  apply Traces.ite (fun _ => .pure (fun good => good))
  intro _
  apply store_spec.bind
  intro st u _ h
  obtain ⟨rfl, rfl⟩ := h
  apply reply_spec.bind
  intro r v _ hv
  subst hv
  apply nowS_spec.bind
  intro now x _ hx
  subst hx
  apply (setStore_good _ (.aside rfl rfl)).bind
  intro _ y _ hy
  apply (onStore_good saveConversations_spec).bind
  intro _ z _ hz
  apply (onStore_good renderConversationList_spec).bind
  intro _ a _ ha
  apply (sendOrQueue_good _).post
  intro _ b _ hb good
  exact hb (ha (hz (hy good)))

theorem beginRecovery_step (requestId : String) (boundary : ℕ) : PageStep T w (beginRecovery requestId boundary w) := by
  refine ⟨⟨.stay, ?_⟩, Nat.le_refl _⟩
  intro _ r hr
  cases hr
  rfl

theorem startHistoryRecovery_good :
    Traces (PageStep T) startHistoryRecovery w (fun _ w' => Good p w → Good p w') := by
  apply (Traces.reads (P := fun a u => a = w ∧ u = w) ⟨rfl, rfl⟩).bind
  intro a u _ h
  obtain ⟨rfl, rfl⟩ := h
  apply Traces.ite (fun _ => .pure (fun good => good))
  intro _
  apply reply_spec.bind
  intro r v _ hv
  subst hv
  apply (sendControl_good _ _).bind
  intro done x _ hx
  apply Traces.ite
  · intro _
    have step := beginRecovery_step (T := T) (w := x) ("hist-" ++ r.uuid) (v.store.historyInfo.getD 0)
    refine .writes step ?_
    intro good
    have link : (beginRecovery ("hist-" ++ r.uuid) (v.store.historyInfo.getD 0) x).link =
      setTimeout .finishRecovery historyRecoveryWindowMs x.link := rfl
    refine ⟨step.store.timed (hx good).timed, ?_⟩
    rw [link]
    exact (hx good).attended.setTimeout .finishRecovery historyRecoveryWindowMs (by simp)
  · intro _
    exact .pure hx

theorem enterChat_good (nickname : String) : Traces (PageStep T) (enterChat nickname) w
    (fun _ w' => (p → w.link.wsConnectionSequence = 0) → Good p w → Good p w') := by
  apply Traces.ite (fun _ => .pure (fun _ good => good))
  intro _
  apply (setLink_spec allowConnecting).bind
  intro _ u _ hu
  apply (setStore_good _ (.aside rfl rfl)).bind
  intro _ v _ hv
  have stored : ∀ s : Store, Traces (StoreStep T) (writeStoredValue (fun storage =>
      { storage with nickname := some (enteredName nickname) })) s (fun _ u => archive u = archive s) :=
    fun s => writeAside rfl
  apply (onStore_good (stored v.store)).bind
  intro _ x _ hx
  apply (setStore_good _ (.aside rfl rfl)).bind
  intro _ y _ hy
  apply (setLink_good (setTimeout .enter 250) (fun h => h.setTimeout .enter 250 (by simp))).post
  intro _ z _ hz unused good
  have start : Good p u := good_of good.timed hu.1 hu.2 (good.attended.allowConnecting unused)
  exact hz (hy (hx (hv start)))

theorem restarting_attended {l : Link} (h : Attended p l) : Attended p (restarting l) := by
  have left : Attended p { l with hasJoined := false } := h.congr rfl
  unfold restarting
  split
  · exact left.closeSocket _
  · exact left

def eventTraffic : Event → Traffic
  | .socketMessage _ frame => trafficOf frame
  | _ => .none

/-- The user enters the chat before the first connection is made. -/
def Timely (e : Event) (w : Page) : Prop := ∀ nickname, e = .enterChat nickname → w.link.wsConnectionSequence = 0

/-- What any event does: the store moves as the event's traffic allows, and a client that is
    attended to stays so. -/
theorem handle_good (e : Event) : Traces (PageStep (eventTraffic e)) (handle e) w
    (fun _ w' => (p → Timely e w) → Good p w → Good p w') := by
  have always : ∀ {T : Traffic} {m : Client Page Unit}, Traces (PageStep T) m w (fun _ w' => Good p w → Good p w') →
      Traces (PageStep T) m w (fun _ w' => (p → Timely e w) → Good p w → Good p w') := by
    intro T m h
    apply h.post
    intro _ x _ hx _
    exact hx
  cases e with
  | callConnect => exact always connect_good
  | socketOpen s => exact always (socketOpened_good s)
  | socketMessage s frame => exact always (onmessage_good s frame)
  | socketError s => exact .pure (fun _ good => good)
  | socketClose s => exact always (socketClosed_good s)
  | closing s => exact always (setLink_good _ (fun h => h.closeSocket s))
  | closed s => exact always (setLink_good _ (fun h => h.setClosed s))
  | timer t => exact always (timerFired_good t)
  | online => exact always onlineListener_good
  | enterChat nickname =>
    apply link_spec.bind
    intro l u _ h
    obtain ⟨rfl, rfl⟩ := h
    apply Traces.ite
    · intro _
      apply (enterChat_good nickname).post
      intro _ x _ hx timely
      exact hx (fun steady => timely steady nickname rfl)
    · intro _
      exact .pure (fun _ good => good)
  | sendMessage input => exact always (sendMessage_good input)
  | createGroup ids => exact always (createGroup_good ids)
  | openConversation id => exact always (onStore_good (openConversation_spec id))
  | startHistoryRecovery => exact always startHistoryRecovery_good
  | restarting => exact always (setLink_good _ restarting_attended (fun l => (restarting_sequence l).ge))

end EspWebChat.PageSteps
