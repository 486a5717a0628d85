import EspWebChat.LinkActs
import EspWebChat.RecoveryMerge
import EspWebChat.ResponseLimit

set_option autoImplicit false

/-!
# What a page sends for a history request

The answers go out one after the other. The first one that is not taken is the last one tried,
and the page has given up its socket then.
-/
namespace EspWebChat.ResponsesSent
open JsonTree JsValues ClientMessages Interruptible BrowserWorld ClientStore ClientSocket
open ResponseSize WrittenMessages StoreRetention

variable {w : Page} {s : ℕ} {payload msg : Json} {requestId requester : String} {before : ℕ}

/-- How sending a frame on the open current socket ends. -/
inductive Attempt (s : ℕ) (payload : Json) (w : Page) : Option Bool → Page → Prop where
  | taken : Attempt s payload w (some true) (afterSending s payload w)
  | refused (u : Page) (sent : u.link.sent = w.link.sent) (given_up : u.link.ws = none) : Attempt s payload w (some false) u
  | cut (u : Page) (sent : u.link.sent = w.link.sent) : Attempt s payload w none u

theorem interruptRecovery_sent (w : Page) :
    (interruptRecovery w).link.sent = w.link.sent ∧ (interruptRecovery w).link.ws = w.link.ws := by
  unfold interruptRecovery
  cases w.store.activeRecovery with
  | none => exact ⟨rfl, rfl⟩
  | some recovery => exact ⟨rfl, rfl⟩

theorem onStore_link {α : Type} (m : Client Store α) (w : Page) : Ends (onStore m) w (fun _ u => u.link = w.link) :=
  ⟨fun _ => rfl⟩

theorem releaseSocket_ends (current : w.link.ws = some s) : Ends (releaseSocket s) w (fun r u =>
    u.link.sent = w.link.sent ∧ ∀ done, r = some done → done = true ∧ u.link.ws = none) := by
  apply Ends.bind (E := fun r u => r = some w.link ∧ u = w) (.reads ⟨rfl, rfl⟩)
  · intro u h
    cases h.1
  · intro l u h
    obtain ⟨same, rfl⟩ := h
    obtain rfl := Option.some.inj same
    apply Ends.ite (fun other => absurd current other)
    intro _
    apply Ends.bind (E := fun r v => r = some () ∧ v.link = ClientSocket.detach u.link) (.writes ⟨rfl, rfl⟩)
    · intro v hv
      cases hv.1
    · intro _ v hv
      have sent : v.link.sent = u.link.sent := by
        rw [hv.2]
        rfl
      have free : v.link.ws = none := by
        rw [hv.2]
        rfl
      apply (onStore_link resetPresence v).bind
      · intro x hx
        rw [hx]
        exact ⟨sent, fun _ no => by cases no⟩
      · intro _ x hx
        apply Ends.bind (E := fun r y => r = some () ∧ y = interruptRecovery x) (.writes ⟨rfl, rfl⟩)
        · intro y hy
          cases hy.1
        · rintro _ y ⟨-, rfl⟩
          refine .pure ⟨?_, ?_⟩
          · rw [(interruptRecovery_sent x).1, hx]
            exact sent
          · intro done same
            refine ⟨(Option.some.inj same).symm, ?_⟩
            rw [(interruptRecovery_sent x).2, hx]
            exact free

theorem scheduleReconnect_sent (l : Link) : (scheduleReconnect l).sent = l.sent ∧ (scheduleReconnect l).ws = l.ws := by
  unfold scheduleReconnect
  split_ifs
  · exact ⟨rfl, rfl⟩
  · exact ⟨rfl, rfl⟩

theorem reconnectSocket_ends (current : w.link.ws = some s) : Ends (reconnectSocket s) w (fun r u =>
    u.link.sent = w.link.sent ∧ (r.isSome = true → u.link.ws = none)) := by
  apply (releaseSocket_ends current).bind
  · intro u h
    exact ⟨h.1, fun no => by cases no⟩
  · intro done u h
    obtain ⟨rfl, free⟩ := h.2 done rfl
    apply Ends.ite (fun no => by cases no)
    intro _
    apply Ends.bind (E := fun r v => r = some () ∧ v.link = closeSocket s u.link) (.writes ⟨rfl, rfl⟩)
    · intro v hv
      cases hv.1
    · intro _ v hv
      have sent : v.link.sent = w.link.sent := by
        rw [hv.2]
        exact h.1
      have none_left : v.link.ws = none := by
        rw [hv.2]
        exact free
      refine .writes ⟨(scheduleReconnect_sent v.link).1.trans sent, ?_⟩
      intro _
      exact (scheduleReconnect_sent v.link).2.trans none_left

theorem sendRaw_attempt (current : w.link.ws = some s) (state : readyState w.link s = .opened) (payload : Json) :
    Ends (sendRaw payload) w (Attempt s payload w) := by
  apply Ends.bind (E := fun r u => r = some w.link ∧ u = w) (.reads ⟨rfl, rfl⟩)
  · intro u h
    cases h.1
  · intro l u h
    obtain ⟨same, rfl⟩ := h
    obtain rfl := Option.some.inj same
    simp only [current]
    apply Ends.ite (fun shut => absurd state shut)
    intro _
    apply ends_silent StoreSteps.reply_spec (.cut u rfl)
    intro r _
    apply Ends.ite
    · intro _
      apply Ends.bind (E := fun r v => r = some () ∧ v = afterSending s payload u) (.writes ⟨rfl, rfl⟩)
      · intro v hv
        cases hv.1
      · rintro _ v ⟨-, rfl⟩
        exact .pure .taken
    · intro _
      apply (reconnectSocket_ends current).bind
      · intro v hv
        exact .cut v hv.1
      · intro _ v hv
        exact .pure (.refused v hv.1 (hv.2 rfl))

theorem sendControl_attempt (current : w.link.ws = some s) (state : readyState w.link s = .opened) (type : String)
    (extra : Members) : Ends (sendControl type extra) w (fun r u =>
      ∃ now, Attempt s (controlFrame w.store now type extra) w r u) := by
  apply Ends.bind (E := fun r u => r = some w.store ∧ u = w) (.reads ⟨rfl, rfl⟩)
  · intro u h
    cases h.1
  · intro st u h
    obtain ⟨same, rfl⟩ := h
    obtain rfl := Option.some.inj same
    apply ends_silent StoreSteps.nowS_spec ⟨.null, .cut u rfl⟩
    intro now _
    exact (sendRaw_attempt current state _).post (fun _ _ attempt => ⟨now, attempt⟩)

theorem sendControl_mute (free : w.link.ws = none) (type : String) (extra : Members) :
    Ends (sendControl type extra) w (fun _ u => u = w) := by
  apply Ends.bind (E := fun r u => r = some w.store ∧ u = w) (.reads ⟨rfl, rfl⟩)
  · intro u h
    cases h.1
  · intro st u h
    obtain ⟨-, rfl⟩ := h
    refine ends_silent StoreSteps.nowS_spec ?_ ?_
    · rfl
    intro now _
    apply Ends.bind (E := fun r v => r = some u.link ∧ v = u) (.reads ⟨rfl, rfl⟩)
    · intro v h
      cases h.1
    · intro l v h
      obtain ⟨same, rfl⟩ := h
      obtain rfl := Option.some.inj same
      simp only [free]
      exact .pure rfl

theorem sendResponses_mute (free : w.link.ws = none) (requestId : String) (requester : Json) (stored : List Json) :
    Ends (sendResponses requestId requester stored) w (fun _ u => u = w) := by
  induction stored with
  | nil => exact .pure rfl
  | cons m rest ih =>
    apply (sendControl_mute free _ _).bind
    · intro u same
      exact same
    · rintro _ u rfl
      exact ih

/-- `f` answers with `m`. -/
def Response (st : Store) (requestId : String) (requester : Json) (m f : Json) : Prop :=
  ∃ now, f = responseFrame st now requestId requester m

/-- The first of the answers are sent, and all of them when the page is still there and on its socket. -/
structure Answered (s : ℕ) (requestId : String) (requester : Json) (stored : List Json) (w : Page) (r : Option Unit) (u : Page) :
    Prop where
  frames : ∃ frames, u.link.sent = w.link.sent ++ frames.map (fun f => (s, f)) ∧ frames.length ≤ stored.length ∧
    List.Forall₂ (Response w.store requestId requester) (stored.take frames.length) frames ∧
    (r.isSome = true → u.link.ws = some s → frames.length = stored.length)

theorem answered_none {stored : List Json} {requester : Json} {r : Option Unit} {u : Page} (sent : u.link.sent = w.link.sent)
    (gone : r.isSome = true → u.link.ws = some s → stored = []) : Answered s requestId requester stored w r u := by
  refine ⟨[], by simpa using sent, Nat.zero_le _, .nil, ?_⟩
  intro here still
  rw [gone here still]

theorem sendResponses_answered (current : w.link.ws = some s) (state : readyState w.link s = .opened) (requestId : String)
    (requester : Json) (stored : List Json) :
    Ends (sendResponses requestId requester stored) w (Answered s requestId requester stored w) := by
  induction stored generalizing w with
  | nil => exact .pure (answered_none rfl (fun _ _ => rfl))
  | cons m rest ih =>
    apply (sendControl_attempt current state "historyResponse" (historyResponse requestId requester m)).bind
    · rintro u ⟨now, attempt⟩
      cases attempt with
      | cut _ sent => exact answered_none sent (fun no => by cases no)
    · rintro done u ⟨now, attempt⟩
      cases attempt with
      | refused _ sent given_up =>
        apply (sendResponses_mute given_up requestId requester rest).post
        rintro r v rfl
        refine answered_none sent ?_
        intro _ still
        rw [given_up] at still
        cases still
      | taken =>
        have later := ih (w := afterSending s (controlFrame w.store now "historyResponse" (historyResponse requestId requester m)) w)
          current state
        apply later.post
        rintro r v ⟨frames, sent, few, answers, all⟩
        refine ⟨controlFrame w.store now "historyResponse" (historyResponse requestId requester m) :: frames, ?_, ?_, ?_, ?_⟩
        · rw [sent]
          simp [afterSending, recordSent]
        · simpa using few
        · exact .cons ⟨now, rfl⟩ answers
        · intro here still
          simp [all here still]

theorem sendResponses_stays (current : w.link.ws = some s) (state : readyState w.link s = .opened) (requestId : String)
    (requester : Json) (stored : List Json) :
    Returns steady (sendResponses requestId requester stored) w (fun _ u => u.link.ws = some s) := by
  induction stored generalizing w with
  | nil => exact .pure current
  | cons m rest ih =>
    have one : Returns steady (sendControl "historyResponse" (historyResponse requestId requester m)) w (fun _ u =>
        u.link.ws = some s ∧ readyState u.link s = .opened) := by
      apply Returns.bind (P := fun st u => st = w.store ∧ u = w) (.reads ⟨rfl, rfl⟩)
      rintro _ u ⟨rfl, rfl⟩
      have clock : Returns steady (nowS : Client Page Json) u (fun _ v => v = u) := by
        apply Returns.bind (P := fun _ v => v = u)
        · exact .ask (fun r h => by rw [h.1]; rfl) (fun _ _ => rfl)
        · rintro r v rfl
          exact .pure rfl
      apply clock.bind
      rintro now v rfl
      apply Returns.bind (P := fun l x => l = v.link ∧ x = v) (.reads ⟨rfl, rfl⟩)
      rintro _ x ⟨rfl, rfl⟩
      simp only [current]
      apply Returns.ite (fun shut => absurd state shut)
      intro _
      apply Returns.bind (P := fun (r : Reply) y => r.sends = true ∧ y = x)
      · exact .ask (fun r h => by rw [h.1]; rfl) (fun r h => ⟨h.2, rfl⟩)
      · rintro r y ⟨sends, rfl⟩
        apply Returns.ite
        · intro _
          apply Returns.bind (P := fun _ z => z.link.ws = some s ∧ readyState z.link s = .opened)
          · exact .writes ⟨current, state⟩
          · intro _ z hz
            exact .pure hz
        · intro fails
          exact absurd sends fails
    unfold sendResponses
    apply one.bind
    intro _ u hu
    exact ih hu.1 hu.2

def noted (s : ℕ) (msg : Json) (l : Link) : Link := noteProgress msg (noteTraffic s l)

theorem noteTraffic_same (s : ℕ) (l : Link) :
    (noteTraffic s l).sent = l.sent ∧ (noteTraffic s l).ws = l.ws ∧ (noteTraffic s l).sockets = l.sockets := by
  unfold noteTraffic
  split_ifs
  · exact ⟨rfl, rfl, rfl⟩
  · exact ⟨rfl, rfl, rfl⟩

theorem noteProgress_same (msg : Json) (l : Link) :
    (noteProgress msg l).sent = l.sent ∧ (noteProgress msg l).ws = l.ws ∧ (noteProgress msg l).sockets = l.sockets := by
  unfold noteProgress
  split
  · split_ifs
    · exact ⟨rfl, rfl, rfl⟩
    · exact ⟨rfl, rfl, rfl⟩
  · exact ⟨rfl, rfl, rfl⟩

theorem noted_same (s : ℕ) (msg : Json) (l : Link) :
    (noted s msg l).sent = l.sent ∧ (noted s msg l).ws = l.ws ∧ (noted s msg l).sockets = l.sockets := by
  have traffic := noteTraffic_same s l
  have progress := noteProgress_same msg (noteTraffic s l)
  exact ⟨progress.1.trans traffic.1, progress.2.1.trans traffic.2.1, progress.2.2.trans traffic.2.2⟩

theorem text_other {type other : String} {j : Json} (is_type : isText type (j.lastMember "type") = true) (apart : other ≠ type) :
    isText other (j.lastMember "type") = false := by
  rw [text_eq_some (eq_of_beq is_type)]
  unfold isText
  simp [text, Ne.symm apart]

theorem request_handled (current : w.link.ws = some s) (type : isText "historyRequest" (msg.lastMember "type") = true)
    (summary : wsMessageSummaryThrows msg = false) (env : ℕ → Reply) : handle (.socketMessage s (some msg)) env w =
      handleHistoryRequest msg env { w with link := noted s msg w.link } := by
  have read : (link : Client Page Link) env w = ⟨some w.link, w, env⟩ := rfl
  have traffic : (setLink (noteTraffic s) : Client Page Unit) env w =
      ⟨some (), { w with link := noteTraffic s w.link }, env⟩ := rfl
  have progress : (setLink (noteProgress msg) : Client Page Unit) env { w with link := noteTraffic s w.link } =
      ⟨some (), { w with link := noted s msg w.link }, env⟩ := rfl
  change onmessage s (some msg) env w = _
  unfold onmessage
  rw [bind_run read, if_neg (not_not.mpr current), bind_run traffic]
  rw [handleIncoming_summarized summary]
  unfold handleSummarized
  rw [bind_run progress, text_other type (by decide), text_other type (by decide), type]
  rfl

theorem throwing_handled (current : w.link.ws = some s) (throws : wsMessageSummaryThrows msg = true) (env : ℕ → Reply) :
    handle (.socketMessage s (some msg)) env w = ⟨some (), { w with link := noteTraffic s w.link }, env⟩ := by
  have read : (link : Client Page Link) env w = ⟨some w.link, w, env⟩ := rfl
  have traffic : (setLink (noteTraffic s) : Client Page Unit) env w =
      ⟨some (), { w with link := noteTraffic s w.link }, env⟩ := rfl
  have skipped : handleIncoming (some msg) = pure () := if_pos throws
  change onmessage s (some msg) env w = _
  unfold onmessage
  rw [bind_run read, if_neg (not_not.mpr current), bind_run traffic, skipped]
  rfl

theorem noted_answers {stored : List Json} {requester : Json} {r : Option Unit} {u : Page}
    (h : Answered s requestId requester stored { w with link := noted s msg w.link } r u) :
    Answered s requestId requester stored w r u := by
  obtain ⟨frames, sent, rest⟩ := h.frames
  refine ⟨frames, ?_, rest⟩
  rw [sent]
  change (noted s msg w.link).sent ++ _ = _
  rw [(noted_same s msg w.link).1]

theorem request_run (asked : Asked w msg requestId requester before) (env : ℕ → Reply) : handleHistoryRequest msg env w =
    sendResponses requestId (str requester) (answers w.store (some (str requester)) before) env w := by
  have go : ¬(isText w.store.userId (some (str requester)) || !validUserId (some (str requester)) ||
      decide (before ≤ 1)) = true := by
    have older := asked.older
    simp [asked.other, asked.valid]
    omega
  have read : (store : Client Page Store) env w = ⟨some w.store, w, env⟩ := rfl
  unfold handleHistoryRequest
  rw [bind_run read]
  simp only [asked.named, asked.sender, asked.boundary]
  rw [if_neg go]

theorem noted_request (current : w.link.ws = some s) (state : readyState w.link s = .opened)
    (asked : Asked w msg requestId requester before) :
    (noted s msg w.link).ws = some s ∧ readyState (noted s msg w.link) s = .opened ∧
      Asked { w with link := noted s msg w.link } msg requestId requester before := by
  have same := noted_same s msg w.link
  refine ⟨same.2.1.trans current, ?_, asked.named, asked.sender, asked.boundary, asked.other, asked.valid, asked.older⟩
  unfold readyState at state ⊢
  rw [same.2.2]
  exact state

theorem request_answered (current : w.link.ws = some s) (state : readyState w.link s = .opened)
    (type : isText "historyRequest" (msg.lastMember "type") = true) (summary : wsMessageSummaryThrows msg = false)
    (asked : Asked w msg requestId requester before) (env : ℕ → Reply) : Answered s requestId (str requester) (answers w.store (some (str requester)) before) w
      (handle (.socketMessage s (some msg)) env w).result (handle (.socketMessage s (some msg)) env w).world := by
  obtain ⟨current', state', asked'⟩ := noted_request current state asked
  rw [request_handled current type summary, request_run asked']
  exact noted_answers ((sendResponses_answered current' state' _ _ _).run env)

theorem request_stays {env : ℕ → Reply} (current : w.link.ws = some s) (state : readyState w.link s = .opened)
    (type : isText "historyRequest" (msg.lastMember "type") = true) (summary : wsMessageSummaryThrows msg = false)
    (asked : Asked w msg requestId requester before) (replies : ∀ k, steady (env k)) : (handle (.socketMessage s (some msg)) env w).result.isSome = true ∧
      (handle (.socketMessage s (some msg)) env w).world.link.ws = some s := by
  obtain ⟨current', state', asked'⟩ := noted_request current state asked
  rw [request_handled current type summary, request_run asked']
  obtain ⟨a, u, env', run, -, still⟩ := (sendResponses_stays (w := { w with link := noted s msg w.link }) current' state'
    requestId (str requester) (answers w.store (some (str requester)) before)).run env replies
  rw [run]
  exact ⟨rfl, still⟩

theorem request_ignored (other : ∀ requestId requester before, ¬Asked w msg requestId requester before) (env : ℕ → Reply) :
    handleHistoryRequest msg env w = ⟨some (), w, env⟩ := by
  have read : (store : Client Page Store) env w = ⟨some w.store, w, env⟩ := rfl
  unfold handleHistoryRequest
  rw [bind_run read]
  cases named : validRequestId (msg.lastMember "requestId") with
  | none => rfl
  | some requestId =>
    cases sent_by : msg.lastMember "from" with
    | none => rfl
    | some sender =>
      cases boundary : safeNat (numberOfMember (msg.lastMember "restore_before_id")) with
      | none => rfl
      | some before =>
        dsimp only
        rw [if_pos]
        · rfl
        · by_contra go
          simp only [Bool.or_eq_true, decide_eq_true_eq, not_or, Bool.not_eq_true, Bool.not_eq_eq_eq_not,
            Bool.not_true, Bool.not_eq_false] at go
          obtain ⟨⟨apart, valid⟩, older⟩ := go
          obtain ⟨requester, hr⟩ := Option.isSome_iff_exists.mp (isSome_of_validText valid)
          obtain rfl : sender = str requester := Option.some.inj (text_eq_some hr)
          exact other requestId requester before ⟨named, sent_by, boundary, apart, valid, by omega⟩

/-- A page asks back for nothing: for each stored message of its own that is older than the boundary and
    visible to the one who asks, the answers contain one frame. They go out in the order of the ids, the
    first ones of them if the page or its socket is lost on the way, and nothing else goes out. A request
    the page does not answer leaves no trace on the connection, nor does one whose summary throws. -/
theorem requests_answered (w : Page) (s : ℕ) (current : w.link.ws = some s) (state : readyState w.link s = .opened)
    (msg : Json) (type : isText "historyRequest" (msg.lastMember "type") = true) :
    (∀ requestId requester before, wsMessageSummaryThrows msg = false → Asked w msg requestId requester before →
      ∃ (handed : Json → Bool) (stored : List Json),
        (∀ m, handed m = true ↔ isRecovered m = false ∧ validHistoryMessage m = true ∧ numericId m < before ∧
          isMessageVisibleToUser m (some (str requester)) = true) ∧
        stored.Perm (w.store.allMessages.filter handed) ∧ Sorted stored ∧
        ∀ env, Answered s requestId (str requester) stored w (handle (.socketMessage s (some msg)) env w).result
            (handle (.socketMessage s (some msg)) env w).world ∧
          ((∀ k, steady (env k)) → (handle (.socketMessage s (some msg)) env w).result.isSome = true ∧
            (handle (.socketMessage s (some msg)) env w).world.link.ws = some s)) ∧
    (wsMessageSummaryThrows msg = true ∨ (∀ requestId requester before, ¬Asked w msg requestId requester before) → ∀ env,
      (handle (.socketMessage s (some msg)) env w).world.store = w.store ∧
      (handle (.socketMessage s (some msg)) env w).world.link.sent = w.link.sent) := by
  refine ⟨?_, ?_⟩
  · intro requestId requester before summary asked
    refine ⟨_, answers w.store (some (str requester)) before, ?_, StoreSteps.sortById_perm _, sortById_sorted _, ?_⟩
    · intro m
      simp only [Bool.and_eq_true, Bool.not_eq_true', decide_eq_true_eq, and_assoc]
    intro env
    exact ⟨request_answered current state type summary asked env, request_stays current state type summary asked⟩
  · intro refused env
    cases summary : wsMessageSummaryThrows msg with
    | true =>
      rw [throwing_handled current summary]
      exact ⟨rfl, (noteTraffic_same s w.link).1⟩
    | false =>
      have other := refused.resolve_left (Bool.eq_false_iff.mp summary)
      have other' : ∀ requestId requester before,
          ¬Asked { w with link := noted s msg w.link } msg requestId requester before := by
        intro requestId requester before asked
        exact other requestId requester before
          ⟨asked.named, asked.sender, asked.boundary, asked.other, asked.valid, asked.older⟩
      rw [request_handled current type summary, request_ignored other']
      exact ⟨rfl, (noted_same s msg w.link).1⟩

def answeringPage : Page :=
  ⟨RecoveryMerge.greetedStore, { freshLink ⟨false, "esp"⟩ with ws := some 0, sockets := [⟨.opened, false, true⟩] }⟩

def carolAsks : Json := .obj [("type", str "historyRequest"), ("from", str "carol"), ("name", str "Carol"),
  ("requestId", str "hist-1"), ("restore_before_id", nat 4)]

theorem requests_answered_greeting : ∃ f,
    (handle (.socketMessage 0 (some carolAsks)) (fun _ => RecoveryMerge.calmReply) answeringPage).world.link.sent = [(0, f)] ∧
      Response RecoveryMerge.greetedStore "hist-1" (str "carol") RecoveryMerge.greeting f := by
  have asked : Asked answeringPage carolAsks "hist-1" "carol" 4 :=
    ⟨by decide +kernel, rfl, by decide +kernel, by decide +kernel, by decide +kernel, by decide⟩
  obtain ⟨handed, stored, is_handed, only, -, answered⟩ :=
    (requests_answered answeringPage 0 rfl rfl carolAsks (by decide +kernel)).1 "hist-1" "carol" 4 (by decide +kernel) asked
  obtain ⟨sent, calm⟩ := answered (fun _ => RecoveryMerge.calmReply)
  obtain ⟨here, still⟩ := calm (fun _ => ⟨rfl, rfl⟩)
  obtain ⟨frames, sent, -, answers, all⟩ := sent.frames
  have hands : handed RecoveryMerge.greeting = true :=
    (is_handed _).mpr ⟨by decide +kernel, by decide +kernel, by decide +kernel, by decide +kernel⟩
  have one : stored = [RecoveryMerge.greeting] := by
    rw [show answeringPage.store.allMessages = [RecoveryMerge.greeting] from rfl, List.filter_cons_of_pos hands] at only
    exact List.perm_singleton.mp only
  rw [all here still, one] at answers
  cases answers with
  | cons response rest =>
    cases rest
    exact ⟨_, sent, response⟩

end EspWebChat.ResponsesSent
