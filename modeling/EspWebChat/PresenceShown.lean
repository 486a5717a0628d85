import EspWebChat.QuietPresence
import EspWebChat.ReleasedRuns

set_option autoImplicit false

/-!
# What the tabs show of the presence list

Every identity a slot keeps fits the bounds the browser checks, so a tab drops no entry of a
list it is on.
-/
namespace EspWebChat.PresenceShown
open JsonTree JsonGate ClientSlots Interruptible ServerWorld WebSocketServer ServerSteps SlotSteps NodeSteps SlotInvariant
open PresenceRounds SettledPresence QuietPresence BrowserWorld ClientMessages ClientStore JsValues
open ClientSocket (handleIncoming handlePresence listsUser)

variable {cfg : Config} {n : ℕ} {t : SlotTable n} {a : Action} {u : World cfg} {fds : List ℤ}

structure Fits (s : ClientSlot) : Prop where
  userId : strlen s.userId ≤ maxUserIdLen
  name : strlen s.name ≤ maxNameLen

theorem takeBytes_bounded (room : ℕ) (cs : List Char) : ((takeBytes room cs).map Char.utf8Size).sum ≤ room := by
  induction cs generalizing room with
  | nil => exact Nat.zero_le room
  | cons c cs ih =>
    unfold takeBytes
    split_ifs with fits
    · have rest := ih (room - c.utf8Size)
      simp only [List.map_cons, List.sum_cons]
      omega
    · exact Nat.zero_le room

theorem copyBounded_bounded (size : ℕ) (s : String) : strlen (copyBounded size s) ≤ size - 1 := by
  unfold strlen copyBounded
  rw [String.toList_ofList]
  exact takeBytes_bounded (size - 1) s.toList

theorem fits_blank {s : ClientSlot} (userId : s.userId = "") (name : s.name = "") : Fits s := by
  refine ⟨?_, ?_⟩
  · rw [userId]
    exact Nat.zero_le _
  · rw [name]
    exact Nat.zero_le _

theorem fits_marked {s : ClientSlot} (h : Fits s) : Fits (markSlotClosing s).2 := by
  unfold markSlotClosing
  split_ifs
  · exact h
  · exact fits_blank rfl rfl

theorem fits_act (fits : ∀ i, Fits (u.ctx.clientSlots i)) (a : Action) (i : Fin cfg.maxClients) :
    Fits ((act a u).ctx.clientSlots i) := by
  have here := fits i
  cases a with
  | register now fd =>
    change Fits ((ensureSlot now u.ctx.clientSlots fd).2 i)
    rcases ensureSlot_slot now u.ctx.clientSlots fd i with same | ⟨-, same⟩ | ⟨-, -, same⟩
    · rw [same]
      exact here
    · rw [same]
      exact ⟨here.userId, here.name⟩
    · rw [same, Function.update_self]
      exact ⟨Nat.zero_le _, copyBounded_bounded _ _⟩
  | bind now fd userId name =>
    change Fits ((bindSlots now fd userId name u).ctx.clientSlots i)
    unfold bindSlots
    cases bound : bindIdentity now u.ctx.clientSlots fd userId name with
    | none => exact here
    | some b =>
      obtain ⟨target, binding⟩ := bindIdentity_bound bound
      change Fits (b.slots i)
      by_cases chosen : i = target
      · rw [chosen, binding.bound]
        exact ⟨copyBounded_bounded _ _, copyBounded_bounded _ _⟩
      · rcases binding.others i chosen with ⟨same, -⟩ | ⟨-, -, -, same⟩
        · rw [same]
          exact here
        · rw [same]
          exact fits_marked here
  | sample fd offset =>
    change Fits (updateTimeSample u.ctx.clientSlots fd offset i)
    rcases updateTimeSample_slot u.ctx.clientSlots fd offset i with same | ⟨-, same⟩
    · rw [same]
      exact here
    · rw [same]
      exact ⟨here.userId, here.name⟩
  | alive fd =>
    change Fits (markAlive u.ctx.clientSlots fd i)
    rcases markAlive_slot u.ctx.clientSlots fd i with same | ⟨-, same⟩
    · rw [same]
      exact here
    · rw [same]
      exact ⟨here.userId, here.name⟩
  | closing fd =>
    change Fits (if holdsFd fd (u.ctx.clientSlots i) then _ else _)
    split_ifs
    · exact fits_marked here
    · exact here
  | free fd =>
    change Fits (if holdsFd fd (u.ctx.clientSlots i) then _ else _)
    split_ifs
    · exact fits_blank rfl rfl
    · exact here
  | sweep now delayed =>
    change Fits (sweepSlot cfg.heartbeatIntervalS now delayed (u.ctx.clientSlots i)).slot
    obtain ⟨alive, registered, ping, same | ⟨-, -, same⟩⟩ :=
      sweepSlot_slot cfg.heartbeatIntervalS now delayed (u.ctx.clientSlots i)
    · rw [same]
      exact ⟨here.userId, here.name⟩
    · rw [same]
      exact fits_marked ⟨here.userId, here.name⟩
  | _ => exact here

theorem fits_run (cJSONParse : CJSONParse) (flash : InitialFlash) (events : List Event) :
    ∀ i, Fits ((run cJSONParse (Node.initial flash : Node cfg) events).world.ctx.clientSlots i) := by
  apply run_invariant cJSONParse (fun w => ∀ i, Fits (w.ctx.clientSlots i))
  · intro w e fits
    cases e with
    | powerOn env => exact fun i => fits_blank rfl rfl
    | closeSession fd env => exact fits_act fits (.free fd)
    | _ => exact fits
  · intro w e u a fits _
    exact fits_act fits a
  · exact fun i => fits_blank rfl rfl

/-- The name the page has for a user: that of the list, or the start of the id if it is blank. -/
def shown (f : String × String) : String × Json := (f.1, if trim f.2 ≠ "" then .str f.2 else sliceTo 8 f.1)

theorem shown_blank {f : String × String} (blank : trim f.2 = "") : unitsOf (shown f).2 = (unitsOf (.str f.1)).take 8 := by
  have named : (shown f).2 = sliceTo 8 f.1 := if_neg (not_not.mpr blank)
  rw [named]
  exact sliceTo_units 8 f.1

structure Acceptable (f : String × String) : Prop where
  filled : f.1 ≠ ""
  short : strlen f.1 ≤ 63
  name : strlen f.2 ≤ 31

theorem acceptable_face {s : ClientSlot} (wellFormed : WellFormed s) (fits : Fits s) (joined : receives s = true) :
    Acceptable (face s) := by
  simp only [receives, Bool.and_eq_true] at joined
  refine ⟨(wellFormed.joined joined.2).2.2, fits.userId, ?_⟩
  unfold face
  dsimp only
  split_ifs
  · decide +kernel
  · exact fits.name

theorem setName_new {id : String} {name : Json} {users : Members} (new : id ∉ users.map Prod.fst) :
    setName id name users = users ++ [(id, name)] := by
  induction users with
  | nil => rfl
  | cons user users ih =>
    simp only [List.map_cons, List.mem_cons, not_or] at new
    unfold setName
    rw [if_neg (Ne.symm new.1), ih new.2]
    rfl

/-- One round of the loop over the entries. -/
def enter (users : Members) (entry : Json) : Members :=
  if validUserId (entry.lastMember "id") then
    setName (orEmpty (entry.lastMember "id")) (presenceName entry (orEmpty (entry.lastMember "id"))) users
  else users

theorem enter_face {f : String × String} {users : Members} (acceptable : Acceptable f)
    (new : f.1 ∉ users.map Prod.fst) : enter users (faceEntry f) = users ++ [shown f] := by
  have id : (faceEntry f).lastMember "id" = some (.str f.1) := rfl
  have name : (faceEntry f).lastMember "name" = some (.str f.2) := rfl
  have valid : validUserId (some (.str f.1)) = true := by
    have short := acceptable.short
    rw [← wsDataSize_eq] at short
    simp [validUserId, validText, text, acceptable.filled, short]
  have entitled : presenceName (faceEntry f) f.1 = (shown f).2 := by
    have short := acceptable.name
    rw [← wsDataSize_eq] at short
    unfold presenceName shown
    rw [name]
    simp only [orEmpty, text, Option.getD_some, short, and_true, str]
  unfold enter
  rw [id, if_pos valid]
  change setName f.1 (presenceName (faceEntry f) f.1) users = _
  rw [entitled]
  exact setName_new new

theorem enter_faces (fs : List (String × String)) (acceptable : ∀ f ∈ fs, Acceptable f) (users : Members)
    (once : (users.map Prod.fst ++ fs.map Prod.fst).Nodup) : (fs.map faceEntry).foldl enter users = users ++ fs.map shown := by
  induction fs generalizing users with
  | nil => exact (List.append_nil users).symm
  | cons f fs ih =>
    have new : f.1 ∉ users.map Prod.fst := by
      intro among
      exact (List.nodup_append.mp once).2.2 f.1 among f.1 List.mem_cons_self rfl
    rw [List.map_cons, List.foldl_cons, enter_face (acceptable f List.mem_cons_self) new,
      ih (fun g among => acceptable g (List.mem_cons_of_mem _ among)), List.append_assoc]
    · rfl
    · rw [List.map_append, List.append_assoc]
      exact once

theorem presence_listed {s : Store} {fs : List (String × String)} (acceptable : ∀ f ∈ fs, Acceptable f)
    (once : (fs.map Prod.fst).Nodup) (among : s.userId ∈ fs.map Prod.fst) :
    presence s (fs.map faceEntry) = fs.map shown := by
  have entered : (fs.map faceEntry).foldl enter [] = fs.map shown := enter_faces fs acceptable [] once
  have own : (fs.map shown).any (fun user => user.1 == s.userId) = true := by
    obtain ⟨f, hf, same⟩ := List.mem_map.mp among
    exact List.any_eq_true.mpr ⟨shown f, List.mem_map_of_mem hf, by simp [shown, same]⟩
  change (if ((fs.map faceEntry).foldl enter []).any (fun user => user.1 == s.userId) = true then
    (fs.map faceEntry).foldl enter [] else _) = _
  rw [entered, if_pos own]

section page
variable {w : Page} {env : ℕ → BrowserWorld.Reply} {p : Json}

theorem handlePresence_shown (array : isArray (p.lastMember "data") = true)
    (listed : listsUser w.store.userId (itemsOf (p.lastMember "data")) = true)
    (returned : (handlePresence p env w).result = some ()) : ∃ v : Page, v.store.userId = w.store.userId ∧
      (handlePresence p env w).world.store.onlineUsers = presence v.store (itemsOf (p.lastMember "data")) := by
  have first : store env w = ⟨some w.store, w, env⟩ := rfl
  have accepted : ¬(!isArray (p.lastMember "data") || !listsUser w.store.userId (itemsOf (p.lastMember "data"))) = true := by
    simp [array, listed]
  unfold handlePresence at returned ⊢
  rw [bind_run first, if_neg accepted] at returned ⊢
  obtain ⟨b, v, env₁, confirming, rest⟩ := bind_returned returned
  rw [rest] at returned ⊢
  have user := ReleasedRuns.confirmSocketJoin_user.run w env
  rw [confirming] at user
  refine ⟨v, user, ?_⟩
  cases run : onStore (updateOnlineUsers (itemsOf (p.lastMember "data"))) env₁ v with
  | mk result u env₂ =>
    rw [run] at returned
    obtain rfl : result = some () := returned
    exact (ReleasedRuns.updateOnlineUsers_returned run).2.2.1

theorem handleIncoming_shown {now : Number} {fs : List (String × String)} (acceptable : ∀ f ∈ fs, Acceptable f)
    (once : (fs.map Prod.fst).Nodup) (among : w.store.userId ∈ fs.map Prod.fst)
    (returned : (handleIncoming (some (presencePayload now fs)) env w).result = some ()) :
    (handleIncoming (some (presencePayload now fs)) env w).world.store.onlineUsers = fs.map shown := by
  have data : (presencePayload now fs).lastMember "data" = some (.arr (fs.map faceEntry)) := rfl
  have items : itemsOf ((presencePayload now fs).lastMember "data") = fs.map faceEntry := by
    rw [data]
    rfl
  have handled : handleIncoming (some (presencePayload now fs)) env w =
      handlePresence (presencePayload now fs) env { w with link := ClientSocket.noteProgress (presencePayload now fs) w.link } := rfl
  rw [handled] at returned ⊢
  have array : isArray ((presencePayload now fs).lastMember "data") = true := by
    rw [data]
    rfl
  have listed : listsUser w.store.userId (itemsOf ((presencePayload now fs).lastMember "data")) = true := by
    rw [items]
    obtain ⟨f, hf, same⟩ := List.mem_map.mp among
    refine List.any_eq_true.mpr ⟨faceEntry f, List.mem_map_of_mem hf, ?_⟩
    have id : (faceEntry f).lastMember "id" = some (.str f.1) := rfl
    rw [id, same]
    simp [isText, text]
  let noted : Page := { w with link := ClientSocket.noteProgress (presencePayload now fs) w.link }
  obtain ⟨v, user, users⟩ := handlePresence_shown (w := noted) array listed returned
  rw [users, items]
  exact presence_listed acceptable once (user ▸ among)

end page

/-- When no client is closing, a tab that has handled the last list it was sent shows just the
    users that are joined, whatever it showed before. For a blank name it shows the first eight
    units of the id, of which the last may be half a character. -/
theorem presence_shown (cJSONParse : CJSONParse) (flash : InitialFlash) (earlier later : List Event)
    (env : ℕ → ServerWorld.Reply) (spare : ∀ e ∈ later, spared e) (s : Node cfg)
    (reached : s = run cJSONParse (Node.initial flash) (earlier ++ .powerOn env :: later)) (powered : s.powered = true)
    (still : ∀ i, (s.world.ctx.clientSlots i).closing = false) (i : Fin cfg.maxClients)
    (joined : receives (s.world.ctx.clientSlots i) = true) :
    ∃ list, lastPresence (s.world.ctx.clientSlots i).fd s.world.trace = some list ∧
      ∀ (tab : Page) (env : ℕ → BrowserWorld.Reply), tab.store.userId = (s.world.ctx.clientSlots i).userId →
        (handleIncoming (some list) env tab).result = some () →
        (handleIncoming (some list) env tab).world.store.onlineUsers = (faces s.world.ctx.clientSlots).map shown ∧
          ∀ f ∈ faces s.world.ctx.clientSlots, trim f.2 = "" → unitsOf (shown f).2 = (unitsOf (.str f.1)).take 8 := by
  have quiet : Quiet s := by
    rw [reached]
    exact quiet_reached cJSONParse flash earlier later env spare
  have fits : ∀ i, Fits (s.world.ctx.clientSlots i) := by
    rw [reached]
    exact fits_run cJSONParse flash _
  have acceptable : ∀ f ∈ faces s.world.ctx.clientSlots, Acceptable f := by
    intro f hf
    obtain ⟨slot, hslot, rfl⟩ := List.mem_map.mp hf
    obtain ⟨listed, receiving⟩ := List.mem_filter.mp hslot
    obtain ⟨k, -, rfl⟩ := List.mem_map.mp listed
    exact acceptable_face (quiet.sound.slot k) (fits k) receiving
  have among : (s.world.ctx.clientSlots i).userId ∈ (faces s.world.ctx.clientSlots).map Prod.fst := by
    refine List.mem_map.mpr ⟨face (s.world.ctx.clientSlots i), List.mem_map_of_mem ?_, rfl⟩
    exact List.mem_filter.mpr ⟨List.mem_map_of_mem (List.mem_finRange i), joined⟩
  obtain ⟨now, last⟩ := quiet.current powered still i joined
  refine ⟨_, last, ?_⟩
  intro tab env same returned
  exact ⟨handleIncoming_shown acceptable (quiet.once) (same ▸ among) returned, fun _ _ blank => shown_blank blank⟩

theorem presence_shown_met : ∃ list, lastPresence 1 met.world.trace = some list ∧
    ∀ (tab : Page) (env : ℕ → BrowserWorld.Reply), tab.store.userId = "ann" →
      (handleIncoming (some list) env tab).result = some () →
      (handleIncoming (some list) env tab).world.store.onlineUsers = [("ann", .str "Ann"), ("bob", .str "Bob")] := by
  obtain ⟨i, joined, fd, userId⟩ := met_first
  have filled : trim "Ann" ≠ "" ∧ trim "Bob" ≠ "" := by decide +kernel
  have named : [("ann", "Ann"), ("bob", "Bob")].map shown = [("ann", .str "Ann"), ("bob", .str "Bob")] := by
    simp [shown, filled]
  have agreed := presence_shown meetingParse ResponseLimit.emptyFlash [] meeting ResponseLimit.environment meeting_spared met rfl
    met_powered met_still i joined
  rw [met_faces, fd, userId, named] at agreed
  obtain ⟨list, last, shows⟩ := agreed
  exact ⟨list, last, fun tab env same returned => (shows tab env same returned).1⟩

end EspWebChat.PresenceShown
