import Mathlib.Data.Fintype.Card
import EspWebChat.SlotInvariant

set_option autoImplicit false

/-!
# The rounds of the presence broadcast

A round sends the list to every joined client and closes those it cannot reach. Such a round
leaves fewer clients to send to, so one comes in which nobody is lost.
-/
namespace EspWebChat.PresenceRounds
open JsonTree NumberMaps CjsonPrinter ClientSlots Interruptible ServerWorld Sessions SlotSteps SlotInvariant

/-- One payload that was broadcast, and the descriptors it could not be sent to. -/
structure Round where
  payload : Json
  failed : List ℤ

section
variable {cfg : Config}

/-- `sendToAll`, returning the descriptors that failed. -/
def failedSends (payload : Json) : List ℤ → Server cfg (List ℤ)
  | [] => pure []
  | fd :: fds => do
    let ret ← chatWsSendText fd payload
    if ret = .ok then failedSends payload fds
    else do
      chatWsCloseClient fd
      let failed ← failedSends payload fds
      pure (fd :: failed)

/-- `chatWsBroadcast`, likewise. -/
def broadcastFailures (payload : Json) : Server cfg (List ℤ) := do
  let table ← slots
  failedSends payload (receiverFds table)

/-- The loop of `broadcast_online_users_now`; false when the attempts run out. -/
def presenceRounds : ℕ → Server cfg (List Round × Bool)
  | 0 => pure ([], false)
  | k + 1 => do
    let payload ← chatSessionsBuildOnlineUsersPayload
    match payload with
    | none => pure ([], true)
    | some p => do
      let failed ← broadcastFailures p
      if failed = [] then pure ([⟨p, []⟩], true)
      else do
        let rest ← presenceRounds k
        pure (⟨p, failed⟩ :: rest.1, rest.2)

variable {α β γ : Type} {env : ℕ → Reply} {w : World cfg}

/-- `m` does what `m'` does and returns a part of it. -/
def Shortens (m : Server cfg α) (m' : Server cfg β) (f : β → α) : Prop :=
  ∀ env w, m env w = ⟨(m' env w).result.map f, (m' env w).world, (m' env w).rest⟩

theorem Shortens.bind {m : Server cfg γ} {k : γ → Server cfg α} {k' : γ → Server cfg β} {f : β → α}
    (h : ∀ c, Shortens (k c) (k' c) f) : Shortens (m >>= k) (m >>= k') f := by
  intro env w
  cases hm : m env w with
  | mk result u env' =>
    cases result with
    | none => simp only [Bind.bind, hm, Option.map_none]
    | some c =>
      rw [bind_run hm, bind_run hm]
      exact h c env' u

theorem Shortens.bindBoth {α' β' : Type} {m : Server cfg α} {m' : Server cfg β} {f : β → α} {k : α → Server cfg α'}
    {k' : β → Server cfg β'} {g : β' → α'} (first : Shortens m m' f) (h : ∀ b, Shortens (k (f b)) (k' b) g) :
    Shortens (m >>= k) (m' >>= k') g := by
  intro env w
  have run := first env w
  cases hm : m' env w with
  | mk result u env' =>
    rw [hm] at run
    cases result with
    | none =>
      have gone : m env w = ⟨none, u, env'⟩ := run
      simp only [Bind.bind, hm, gone, Option.map_none]
    | some b =>
      have came : m env w = ⟨some (f b), u, env'⟩ := run
      rw [bind_run hm, bind_run came]
      exact h b env' u

theorem Shortens.pure {a : α} {b : β} {f : β → α} (h : f b = a) :
    Shortens (Pure.pure a : Server cfg α) (Pure.pure b) f := by
  intro env w
  rw [← h]
  rfl

theorem Shortens.map {β' : Type} {m : Server cfg α} {m' : Server cfg β} {f : β → α} {g : β → β'} {f' : β' → α}
    (h : Shortens m m' f) (same : ∀ b, f' (g b) = f b) : Shortens m (m' >>= fun b => Pure.pure (g b)) f' := by
  intro env w
  have run := h env w
  cases hm : m' env w with
  | mk result u env' =>
    rw [hm] at run
    cases result with
    | none => simpa only [Bind.bind, hm, Option.map_none] using run
    | some b =>
      rw [bind_run hm, run]
      simp only [Option.map_some, Pure.pure, same]

theorem sendToAll_shortens (payload : Json) (fds : List ℤ) :
    Shortens (sendToAll payload fds : Server cfg Bool) (failedSends payload fds) (fun failed => !failed.isEmpty) := by
  induction fds with
  | nil => exact .pure rfl
  | cons fd fds ih =>
    apply Shortens.bind
    intro ret
    by_cases done : ret = .ok
    · rw [if_pos done, if_pos done]
      exact ih
    · rw [if_neg done, if_neg done]
      apply Shortens.bind
      intro _
      apply ih.bindBoth
      intro failed
      exact .pure rfl

theorem attempts_shortens (k : ℕ) (anyClosed : Bool) :
    Shortens (broadcastOnlineUsersAttempts k anyClosed : Server cfg Bool) (presenceRounds k)
      (fun r => anyClosed || r.1.any (fun round => !round.failed.isEmpty)) := by
  induction k generalizing anyClosed with
  | zero =>
    apply Shortens.pure
    exact Bool.or_false anyClosed
  | succ k ih =>
    apply Shortens.bind
    intro payload
    cases payload with
    | none =>
      apply Shortens.pure
      exact Bool.or_false anyClosed
    | some p =>
      have sends : Shortens (chatWsBroadcast p : Server cfg Bool) (broadcastFailures p) (fun failed => !failed.isEmpty) :=
        .bind (fun table => sendToAll_shortens p (receiverFds table))
      apply sends.bindBoth
      intro failed
      cases failed with
      | nil =>
        apply Shortens.pure
        exact Bool.or_false anyClosed
      | cons fd failed =>
        rw [if_pos (show (!(fd :: failed).isEmpty) = true from rfl), if_neg (List.cons_ne_nil fd failed)]
        apply (ih true).map
        intro rest
        simp

theorem presenceRounds_length (k : ℕ) (w : World cfg) :
    Traces (fun _ _ => True) (presenceRounds k) w (fun r _ => r.1.length ≤ k) := by
  have any : ∀ {α : Type} (m : Server cfg α) (u : World cfg), Traces (fun _ _ => True) m u (fun _ _ => True) :=
    fun m u env => ⟨.single trivial, fun _ _ => trivial⟩
  induction k generalizing w with
  | zero => exact .pure le_rfl
  | succ k ih =>
    apply (any chatSessionsBuildOnlineUsersPayload w).bind
    intro payload u _ _
    cases payload with
    | none => exact .pure (Nat.zero_le _)
    | some p =>
      apply (any (broadcastFailures p) u).bind
      intro failed v _ _
      refine .ite (fun _ => .pure (Nat.succ_le_succ (Nat.zero_le k))) ?_
      intro _
      apply (ih v).bind
      intro rest x _ short
      exact .pure (Nat.succ_le_succ short)

end

section
variable {cfg : Config} {w : World cfg}

/-- Sends may fail, allocations do not. -/
def Allocates (r : Reply) : Prop := r.powered = true ∧ r.alloc = true

theorem reply_allocates : Returns Allocates (reply : Server cfg Reply) w (fun _ u => u = w) :=
  .ask (fun _ h => h.1) (fun _ _ => rfl)

theorem allocates_allocates : Returns Allocates (allocates : Server cfg Bool) w (fun done u => u = w ∧ done = true) := by
  apply Returns.bind (P := fun r u => u = w ∧ r.alloc = true) (.ask (fun _ h => h.1) (fun _ h => ⟨rfl, h.2⟩))
  intro r u h
  exact .pure h

theorem addMember_allocates (ms : Members) (key : String) (v : Json) :
    Returns Allocates (addMember ms key v : Server cfg Members) w (fun ms' u => u = w ∧ ms' = ms ++ [(key, v)]) := by
  apply allocates_allocates.bind
  intro done u h
  exact .pure ⟨h.1, by rw [if_pos h.2]⟩

theorem printUnformatted_allocates (j : Json) :
    Returns Allocates (printUnformatted j : Server cfg (Option Json)) w (fun printed u => u = w ∧
      printed = some (cfg.printer.printed j)) := by
  apply allocates_allocates.bind
  intro done u h
  exact .pure ⟨h.1, by rw [if_pos h.2]⟩

theorem currentTimestampS_allocates : Returns Allocates (currentTimestampS : Server cfg ℤ) w (fun _ u => u = w) := by
  apply reply_allocates.bind
  intro r u hu
  subst hu
  refine Returns.ite (fun _ => .pure rfl) ?_
  intro _
  apply Returns.bind (P := fun _ v => v = u) (reply_allocates.bind (fun _ v hv => .pure hv))
  intro uptime v hv
  subst hv
  apply reply_allocates.bind
  intro lock v hv
  subst hv
  apply Returns.bind (P := fun _ u => u = v) (.reads rfl)
  intro table u hu
  subst hu
  split
  · exact .pure rfl
  · exact .pure rfl

def presenceEntry (s : ClientSlot) : Json :=
  .obj [("id", .str s.userId), ("name", .str (if s.name = "" then "New User" else s.name))]

theorem entries_printed (p : Printer) (ss : List ClientSlot) :
    (ss.map presenceEntry).map p.printed = ss.map presenceEntry :=
  List.map_map.trans (List.map_congr_left fun _ _ => rfl)

theorem listUsers_allocates (ss : List ClientSlot) (users data : List Json) :
    Returns Allocates (listUsers ss users data : Server cfg _) w (fun r u => u = w ∧
      r = (users ++ ss.map (fun s => .str s.userId), data ++ ss.map presenceEntry)) := by
  induction ss generalizing w users data with
  | nil => exact .pure ⟨rfl, by simp⟩
  | cons s ss ih =>
    have first : Returns Allocates (listUser s users data : Server cfg _) w (fun r u => u = w ∧
        r = (users ++ [.str s.userId], data ++ [presenceEntry s])) := by
      apply allocates_allocates.bind
      intro idOk u hu
      obtain ⟨rfl, rfl⟩ := hu
      apply allocates_allocates.bind
      intro entryOk v hv
      obtain ⟨rfl, rfl⟩ := hv
      apply Returns.ite (fun no => by cases no)
      intro _
      apply (addMember_allocates _ _ _).bind
      intro entry u hu
      obtain ⟨rfl, rfl⟩ := hu
      apply (addMember_allocates _ _ _).bind
      intro entry v hv
      obtain ⟨rfl, rfl⟩ := hv
      exact .pure ⟨rfl, rfl⟩
    apply first.bind
    intro r u hu
    obtain ⟨rfl, rfl⟩ := hu
    apply (ih _ _).post
    intro r v hv
    obtain ⟨rfl, rfl⟩ := hv
    refine ⟨rfl, ?_⟩
    simp [List.append_assoc]

def joinedSlots {n : ℕ} (t : SlotTable n) : List ClientSlot := ((List.finRange n).map t).filter receives

/-- The list names the joined clients, each by an entry of its own. -/
structure Lists {n : ℕ} (p : Json) (t : SlotTable n) : Prop where
  data : p.member "data" = some (.arr ((joinedSlots t).map presenceEntry))
  users : (p.member "to").bind (fun target => target.member "users") =
    some (.arr ((joinedSlots t).map (fun s => .str s.userId)))
  once : ((joinedSlots t).map ClientSlot.userId).Nodup

variable {fds : List ℤ} {n : ℕ} {t : SlotTable n}

theorem listed_of_sound (h : TableInvariant fds t) :
    ((List.finRange n).map t).filter listed = joinedSlots t := by
  apply List.filter_congr
  intro s hs
  obtain ⟨i, -, rfl⟩ := List.mem_map.mp hs
  unfold listed
  cases hr : receives (t i) with
  | false => rfl
  | true =>
    have joined : (t i).joined = true := by
      simp only [receives, Bool.and_eq_true] at hr
      exact hr.2
    simp [((h.slot i).joined joined).2.2]

theorem users_once (h : TableInvariant fds t) : ((joinedSlots t).map ClientSlot.userId).Nodup := by
  unfold joinedSlots
  rw [List.filter_map, List.map_map, List.nodup_map_iff_inj_on ((List.nodup_finRange n).filter _)]
  intro i hi j hj same
  have ji : (t i).joined = true := by
    have := (List.mem_filter.mp hi).2
    simp only [Function.comp, receives, Bool.and_eq_true] at this
    exact this.2
  have jj : (t j).joined = true := by
    have := (List.mem_filter.mp hj).2
    simp only [Function.comp, receives, Bool.and_eq_true] at this
    exact this.2
  exact h.users i j ji jj same

theorem buildPayload_allocates (h : TableInvariant fds w.ctx.clientSlots) :
    Returns Allocates (chatSessionsBuildOnlineUsersPayload : Server cfg _) w (fun payload u => u = w ∧
      ∃ p, payload = some p ∧ Lists p w.ctx.clientSlots) := by
  apply allocates_allocates.bind
  intro created u hu
  obtain ⟨rfl, rfl⟩ := hu
  refine Returns.ite (fun no => by cases no) ?_
  intro _
  apply (addMember_allocates _ _ _).bind
  intro ms u' hu
  obtain ⟨rfl, rfl⟩ := hu
  apply (addMember_allocates _ _ _).bind
  intro ms u hu
  obtain ⟨rfl, rfl⟩ := hu
  apply currentTimestampS_allocates.bind
  intro now u' hu
  subst hu
  apply (addMember_allocates _ _ _).bind
  intro ms u hu
  obtain ⟨rfl, rfl⟩ := hu
  apply allocates_allocates.bind
  intro toOk u' hu
  obtain ⟨rfl, rfl⟩ := hu
  rw [if_pos rfl]
  apply allocates_allocates.bind
  intro usersOk u hu
  obtain ⟨rfl, rfl⟩ := hu
  apply allocates_allocates.bind
  intro dataOk u' hu
  obtain ⟨rfl, rfl⟩ := hu
  refine Returns.ite (fun no => by cases no) ?_
  intro _
  apply (addMember_allocates _ _ _).bind
  intro all u hu
  obtain ⟨rfl, rfl⟩ := hu
  apply Returns.bind (P := fun table v => table = u.ctx.clientSlots ∧ v = u) (.reads ⟨rfl, rfl⟩)
  intro table v hv
  obtain ⟨rfl, rfl⟩ := hv
  rw [listed_of_sound h]
  apply (listUsers_allocates _ _ _).bind
  intro r u hu
  obtain ⟨rfl, rfl⟩ := hu
  apply (printUnformatted_allocates _).post
  intro printed v hv
  obtain ⟨rfl, rfl⟩ := hv
  refine ⟨rfl, _, rfl, ?_, ?_, users_once h⟩
  · rw [cfg.printer.printed_member]
    change some (Json.arr (mapItems cfg.printer.number ([] ++ (joinedSlots v.ctx.clientSlots).map presenceEntry))) = _
    rw [mapItems_eq, List.nil_append]
    exact congrArg (fun items => some (Json.arr items)) (entries_printed cfg.printer _)
  · rw [cfg.printer.printed_member]
    change some (Json.arr (mapItems cfg.printer.number
      ([] ++ (joinedSlots v.ctx.clientSlots).map (fun s => .str s.userId)))) = _
    rw [mapItems_eq, List.nil_append, List.map_map]
    rfl

def closeFds {n : ℕ} (failed : List ℤ) (t : SlotTable n) : SlotTable n := fun i =>
  if (t i).active = true ∧ (t i).fd ∈ failed then (markSlotClosing (t i)).2 else t i

theorem closeFds_nil : closeFds [] t = t := by
  funext i
  exact if_neg (by simp)

theorem closeFds_slot (failed : List ℤ) (t : SlotTable n) (i : Fin n) :
    (closeFds failed t i).active = (t i).active ∧ (closeFds failed t i).fd = (t i).fd ∧
      ((t i).closing = true → (closeFds failed t i).closing = true) ∧
      (receives (closeFds failed t i) = true → closeFds failed t i = t i ∧ (t i).fd ∉ failed) := by
  unfold closeFds
  split_ifs with h
  · rw [markSlotClosing_of_active h.1]
    refine ⟨rfl, rfl, fun _ => rfl, ?_⟩
    intro still
    simp [receives] at still
  · refine ⟨rfl, rfl, id, ?_⟩
    intro still
    refine ⟨rfl, fun among => h ⟨?_, among⟩⟩
    simp only [receives, Bool.and_eq_true] at still
    exact still.1.1

theorem markClosing_closeFds (fd : ℤ) : (markClosing t fd).2 = closeFds [fd] t := by
  funext i
  simp only [markClosing, closeFds, List.mem_singleton, holdsFd_iff]

theorem closeFds_append (before after : List ℤ) : closeFds after (closeFds before t) = closeFds (before ++ after) t := by
  funext i
  obtain ⟨active, fd, -, -⟩ := closeFds_slot before t i
  unfold closeFds at active fd ⊢
  by_cases first : (t i).active = true ∧ (t i).fd ∈ before
  · have both : (t i).active = true ∧ (t i).fd ∈ before ++ after := ⟨first.1, List.mem_append_left _ first.2⟩
    simp only [if_pos first, if_pos both, markSlotClosing_of_active first.1]
    split_ifs with again
    · simp [markSlotClosing, first.1]
    · rfl
  · simp only [if_neg first]
    by_cases second : (t i).active = true ∧ (t i).fd ∈ after
    · rw [if_pos second, if_pos ⟨second.1, List.mem_append_right _ second.2⟩]
    · rw [if_neg second, if_neg]
      intro either
      cases List.mem_append.mp either.2 with
      | inl h => exact first ⟨either.1, h⟩
      | inr h => exact second ⟨either.1, h⟩

theorem closeFds_sound (h : TableInvariant fds t) (failed : List ℤ) : TableInvariant fds (closeFds failed t) := by
  apply h.loses
  intro i
  unfold closeFds
  split_ifs with hit
  · exact loses_closing hit.1
  · exact loses_self _

def receivers {n : ℕ} (t : SlotTable n) : Finset (Fin n) := Finset.univ.filter (fun i => receives (t i) = true)

theorem receivers_fewer {failed : List ℤ} {fd : ℤ} (lost : fd ∈ failed) (sent : fd ∈ receiverFds t) :
    (receivers (closeFds failed t)).card < (receivers t).card := by
  obtain ⟨i, -, hi⟩ := List.mem_filterMap.mp sent
  split_ifs at hi with was
  obtain rfl : (t i).fd = fd := Option.some.inj hi
  apply Finset.card_lt_card
  refine ⟨?_, ?_⟩
  · intro k hk
    have still := (Finset.mem_filter.mp hk).2
    have same := ((closeFds_slot failed t k).2.2.2 still).1
    rw [same] at still
    exact Finset.mem_filter.mpr ⟨Finset.mem_univ k, still⟩
  · intro all
    have still := (Finset.mem_filter.mp (all (Finset.mem_filter.mpr ⟨Finset.mem_univ i, was⟩))).2
    exact ((closeFds_slot failed t i).2.2.2 still).2 lost

theorem sendText_allocates (p : Json) (fd : ℤ) : Returns Allocates (chatWsSendText fd p : Server cfg _) w (fun ret u =>
    u.ctx = w.ctx ∧ (ret = .ok → u.trace = w.trace ++ [.sent ⟨fd, p, true⟩])) := by
  apply Returns.ite
  · intro _
    exact .pure ⟨rfl, fun bad => by cases bad⟩
  · intro _
    apply reply_allocates.bind
    intro r u hu
    subst hu
    apply Returns.ite
    · intro _
      exact .pure ⟨rfl, fun bad => by cases bad⟩
    · intro _
      apply Returns.bind (P := fun _ v => v = u.record (.sent ⟨fd, p, decide (r.send = .ok)⟩)) (.writes rfl)
      intro _ v hv
      subst hv
      refine .pure ⟨rfl, ?_⟩
      intro done
      simp [World.record, done]

theorem closeClient_allocates {fd : ℤ} (h : 0 ≤ fd) : Returns Allocates (chatWsCloseClient fd : Server cfg _) w
    (fun _ u => u = w.setSlots (closeFds [fd] w.ctx.clientSlots)) := by
  apply Returns.ite (fun low => by omega)
  intro _
  apply Returns.bind (P := fun _ u => u = w.setSlots (closeFds [fd] w.ctx.clientSlots))
  · apply Returns.bind (P := fun table u => table = w.ctx.clientSlots ∧ u = w) (.reads ⟨rfl, rfl⟩)
    intro table u hu
    obtain ⟨rfl, rfl⟩ := hu
    apply Returns.bind (P := fun _ v => v = u.setSlots (closeFds [fd] u.ctx.clientSlots))
    · exact .writes (by rw [markClosing_closeFds])
    · intro _ v hv
      exact .pure hv
  · intro _ u hu
    exact .pure hu

/-- What a round leaves behind: the clients it lost are closing, the others have the payload. -/
structure Sent (p : Json) (targets failed : List ℤ) (w u : World cfg) : Prop where
  slots : u.ctx.clientSlots = closeFds failed w.ctx.clientSlots
  among : ∀ fd ∈ failed, fd ∈ targets
  all : failed = [] → u.trace = w.trace ++ targets.map (fun fd => .sent ⟨fd, p, true⟩)

theorem failedSends_allocates (p : Json) (targets : List ℤ) (known : ∀ fd ∈ targets, 0 ≤ fd) :
    Returns Allocates (failedSends p targets : Server cfg _) w (fun failed u => Sent p targets failed w u) := by
  induction targets generalizing w with
  | nil => exact .pure ⟨closeFds_nil.symm, by simp, fun _ => (List.append_nil _).symm⟩
  | cons fd targets ih =>
    have later : ∀ fd ∈ targets, 0 ≤ fd := fun f hf => known f (List.mem_cons_of_mem _ hf)
    apply (sendText_allocates p fd).bind
    intro ret u hu
    apply Returns.ite
    · intro done
      apply (ih later).post
      intro failed v hv
      refine ⟨by rw [hv.slots, hu.1], fun f hf => List.mem_cons_of_mem _ (hv.among f hf), ?_⟩
      intro none
      rw [hv.all none, hu.2 done, List.append_assoc]
      rfl
    · intro _
      apply (closeClient_allocates (known fd List.mem_cons_self)).bind
      intro _ v hv
      apply (ih later).bind
      intro failed x hx
      refine .pure ⟨?_, ?_, fun none => by cases none⟩
      · rw [hx.slots, hv]
        change closeFds failed (closeFds [fd] u.ctx.clientSlots) = _
        rw [closeFds_append, hu.1]
        rfl
      · intro f hf
        cases hf with
        | head => exact List.mem_cons_self
        | tail _ hf => exact List.mem_cons_of_mem _ (hx.among f hf)

/-- The descriptor's session is on its way out. -/
def Dismissed {n : ℕ} (t : SlotTable n) (fd : ℤ) : Prop :=
  (∃ i, holdsFd fd (t i) = true) ∧ ∀ i, holdsFd fd (t i) = true → (t i).closing = true

theorem Dismissed.closeFds {fd : ℤ} (h : Dismissed t fd) (failed : List ℤ) : Dismissed (closeFds failed t) fd := by
  have holds : ∀ i, holdsFd fd (PresenceRounds.closeFds failed t i) = holdsFd fd (t i) := by
    intro i
    obtain ⟨active, same, -, -⟩ := closeFds_slot failed t i
    unfold holdsFd
    rw [active, same]
  obtain ⟨⟨i, hi⟩, closing⟩ := h
  refine ⟨⟨i, by rw [holds]; exact hi⟩, ?_⟩
  intro k hk
  rw [holds] at hk
  exact (closeFds_slot failed t k).2.2.1 (closing k hk)

theorem dismissed_of_failed {failed : List ℤ} {fd : ℤ} (lost : fd ∈ failed) (sent : fd ∈ receiverFds t) :
    Dismissed (closeFds failed t) fd := by
  obtain ⟨i, -, hi⟩ := List.mem_filterMap.mp sent
  split_ifs at hi with was
  obtain rfl : (t i).fd = fd := Option.some.inj hi
  simp only [receives, Bool.and_eq_true] at was
  refine ⟨⟨i, ?_⟩, ?_⟩
  · obtain ⟨active, same, -, -⟩ := closeFds_slot failed t i
    rw [holdsFd_iff, active, same]
    exact ⟨was.1.1, rfl⟩
  · intro k hk
    obtain ⟨active, same, -, -⟩ := closeFds_slot failed t k
    rw [holdsFd_iff, active, same] at hk
    unfold PresenceRounds.closeFds
    rw [if_pos ⟨hk.1, hk.2 ▸ lost⟩, markSlotClosing_of_active hk.1]

/-- How the rounds end: with one in which nobody is lost. -/
structure Converged (rounds : List Round) (w u : World cfg) : Prop where
  last : ∃ earlier p, rounds = earlier ++ [⟨p, []⟩] ∧ Lists p u.ctx.clientSlots ∧
    ∃ before, u.trace = before ++ (receiverFds u.ctx.clientSlots).map (fun fd => .sent ⟨fd, p, true⟩)
  lost : ∀ round ∈ rounds, ∀ fd ∈ round.failed, Dismissed u.ctx.clientSlots fd
  slots : ∃ failed, u.ctx.clientSlots = closeFds failed w.ctx.clientSlots

theorem receiverFds_nonneg (known : ∀ i, receives (t i) = true → 0 ≤ (t i).fd) : ∀ fd ∈ receiverFds t, 0 ≤ fd := by
  intro fd hfd
  obtain ⟨i, -, hi⟩ := List.mem_filterMap.mp hfd
  split_ifs at hi with joined
  obtain rfl : (t i).fd = fd := Option.some.inj hi
  exact known i joined

theorem presenceRounds_converge (k : ℕ) (few : (receivers w.ctx.clientSlots).card < k)
    (h : TableInvariant fds w.ctx.clientSlots)
    (known : ∀ i, receives (w.ctx.clientSlots i) = true → 0 ≤ (w.ctx.clientSlots i).fd) :
    Returns Allocates (presenceRounds k : Server cfg _) w (fun r u => r.2 = true ∧ Converged r.1 w u) := by
  induction k generalizing w with
  | zero => omega
  | succ k ih =>
    apply (buildPayload_allocates h).bind
    intro payload u hu
    obtain ⟨rfl, p, rfl, lists⟩ := hu
    have round : Returns Allocates (broadcastFailures p : Server cfg _) u (fun failed v =>
        Sent p (receiverFds u.ctx.clientSlots) failed u v) := by
      apply Returns.bind (P := fun table v => table = u.ctx.clientSlots ∧ v = u) (.reads ⟨rfl, rfl⟩)
      intro table v hv
      obtain ⟨rfl, rfl⟩ := hv
      exact failedSends_allocates p _ (receiverFds_nonneg known)
    apply round.bind
    intro failed v sent
    apply Returns.ite
    · intro none
      subst none
      have same : v.ctx.clientSlots = u.ctx.clientSlots := sent.slots.trans closeFds_nil
      refine .pure ⟨rfl, ⟨[], p, rfl, ?_, u.trace, ?_⟩, ?_, [], sent.slots⟩
      · rw [same]
        exact lists
      · rw [same]
        exact sent.all rfl
      · intro r hr fd hfd
        cases List.mem_singleton.mp hr
        cases hfd
    · intro some
      obtain ⟨fd, hfd⟩ := List.exists_mem_of_ne_nil _ some
      have fewer : (receivers v.ctx.clientSlots).card < k := by
        have := receivers_fewer hfd (sent.among fd hfd)
        rw [sent.slots]
        omega
      have sound : TableInvariant fds v.ctx.clientSlots := by
        rw [sent.slots]
        exact closeFds_sound h failed
      have known' : ∀ i, receives (v.ctx.clientSlots i) = true → 0 ≤ (v.ctx.clientSlots i).fd := by
        intro i joined
        rw [sent.slots] at joined ⊢
        have same := ((closeFds_slot failed u.ctx.clientSlots i).2.2.2 joined).1
        rw [same] at joined ⊢
        exact known i joined
      apply (ih fewer sound known').bind
      intro rest x hx
      obtain ⟨left, ⟨earlier, last, rounds, final⟩, lost, more, later⟩ := hx
      refine .pure ⟨left, ⟨⟨p, failed⟩ :: earlier, last, by rw [rounds]; rfl, final⟩, ?_, failed ++ more, ?_⟩
      · intro r hr f hf
        cases hr with
        | head =>
          rw [later, sent.slots]
          exact (dismissed_of_failed hf (sent.among f hf)).closeFds more
        | tail _ hr => exact lost r hr f hf
      · rw [later, sent.slots, closeFds_append]

theorem receivers_card (t : SlotTable n) : (receivers t).card ≤ n := by
  have all := Finset.card_le_univ (receivers t)
  rwa [Fintype.card_fin] at all

end

/-- The first part says that `presenceRounds` is the loop of the broadcast with a record of its
    rounds. In a sound table it always leaves the loop with a payload that was sent to every
    joined client and lists just these; the clients it could not reach are closing. -/
theorem presence_converges (cfg : Config) :
    (Shortens (broadcastOnlineUsersNow : Server cfg Bool) (presenceRounds (cfg.maxClients + 1))
      (fun r => r.1.any (fun round => !round.failed.isEmpty))) ∧
    (∀ (w : World cfg) fds, TableInvariant fds w.ctx.clientSlots →
      (∀ i, receives (w.ctx.clientSlots i) = true → 0 ≤ (w.ctx.clientSlots i).fd) →
      ∀ env, (∀ k, Allocates (env k)) → ∃ rounds u env',
        presenceRounds (cfg.maxClients + 1) env w = ⟨some (rounds, true), u, env'⟩ ∧
        rounds.length ≤ cfg.maxClients + 1 ∧ Converged rounds w u) := by
  refine ⟨?_, ?_⟩
  · intro env w
    have run := attempts_shortens (cfg.maxClients + 1) false env w
    unfold broadcastOnlineUsersNow
    simpa only [Bool.false_or] using run
  · intro w fds h known env replies
    have few : (receivers w.ctx.clientSlots).card < cfg.maxClients + 1 :=
      Nat.lt_succ_of_le (receivers_card w.ctx.clientSlots)
    obtain ⟨r, u, env', run, -, left, converged⟩ := (presenceRounds_converge _ few h known).run env replies
    obtain ⟨rounds, flag⟩ := r
    obtain rfl : flag = true := left
    have short := (presenceRounds_length (cfg.maxClients + 1) w env).2 (rounds, true) (by rw [run])
    exact ⟨rounds, u, env', run, short, converged⟩

end EspWebChat.PresenceRounds
