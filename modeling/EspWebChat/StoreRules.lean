import EspWebChat.StoreEffects
import EspWebChat.ConversationSummaries
import EspWebChat.ReleasedPages
import EspWebChat.Provenance

set_option autoImplicit false

/-!
# Rules for what the store holds

Conversations are written by messages, by presence, by the user and by the start of a page. Rules
for entries, for users and for messages that go together hold in every state of a run.
-/
namespace EspWebChat.StoreRules
open JsonTree JsValues ClientMessages Interruptible BrowserWorld ClientStore ClientSocket
open StoreSteps OutboxSteps StaleSockets Provenance FaithfulCopies ConversationSummaries ReleasedPages StoreEffects

variable {key userId : String} {c m msg : Json} {s : Store}

/-- What an entry is under its key, the id of a user who is online, the id of the page's own user,
    and a message; each of them is enough for what is made of it. -/
structure Rules where
  entry : String → Json → Prop
  online : String → Prop
  own : String → Prop
  message : Json → Prop
  writtenEntry : ∀ key c, entry key c → entry key (stringified c)
  writtenMessage : ∀ m, message m → message (stringified m)
  defaults : ∀ existing : Option Json, (∀ c, existing = some c → entry "global" c) →
    entry "global" (.obj (spread defaultConversation ((existing.map Json.members).getD [])))
  summary : ∀ (s : Store) (msg : Json) (now : Number), (∀ e ∈ s.conversations, entry e.1 e.2) → message msg →
    entry (conversationEntry s msg now).1 (conversationEntry s msg now).2
  friend : ∀ (s : Store) (user : String × Json), online user.1 → entry user.1 (privateEntry s user)
  chosen : ∀ id, validUserId (some (str id)) = true → own id

variable {R : Rules}

/-- What a page that starts can use of the storage follows the rules. -/
structure Stored (R : Rules) (messages conversations : Option Json) : Prop where
  messages : ∀ m ∈ itemsOf messages, validHistoryMessage m = true → R.message m
  conversations : ∀ entry ∈ (conversations.map Json.members).getD [], validConversation entry = true →
    R.entry entry.1 entry.2

structure Held (R : Rules) (userId : String) (x : Core) : Prop where
  user : x.userId = userId
  entries : ∀ entry ∈ x.conversations, R.entry entry.1 entry.2
  opened : ∃ key, R.entry key x.currentConversation
  online : ∀ user ∈ x.onlineUsers, user.1 ≠ userId → R.online user.1
  messages : ∀ m ∈ x.allMessages, R.message m
  stored : Stored R x.storedMessages x.storedConversations

def Listed (x : Core) : Prop := "global" ∈ x.conversations.map Prod.fst

/-- The rules still hold, and the public chat is still there. -/
def Keeps (R : Rules) (userId : String) (s u : Store) : Prop :=
  Held R userId (core s) → Held R userId (core u) ∧ (Listed (core s) → Listed (core u))

instance : Std.Refl (Keeps R userId) := ⟨fun _ held => ⟨held, id⟩⟩

instance : IsTrans Store (Keeps R userId) := by
  constructor
  intro a b c first second held
  have between := first held
  exact ⟨(second between.1).1, (second between.1).2 ∘ between.2⟩

theorem mem_assign {v : Json} {ms : Members} {entry : String × Json} (h : entry ∈ assign key v ms) :
    entry = (key, v) ∨ entry ∈ ms := by
  unfold assign at h
  split_ifs at h
  · obtain ⟨x, hx, same⟩ := List.mem_map.mp h
    split_ifs at same
    · exact .inl same.symm
    · exact .inr (same ▸ hx)
  · cases List.mem_append.mp h with
    | inl old => exact .inr old
    | inr new => exact .inl (List.mem_singleton.mp new)

theorem assign_listed {v : Json} {ms : Members} {name : String} (h : name ∈ ms.map Prod.fst) :
    name ∈ (assign key v ms).map Prod.fst := by
  obtain ⟨entry, hentry, rfl⟩ := List.mem_map.mp h
  unfold assign
  split_ifs
  · rw [List.map_map]
    refine List.mem_map.mpr ⟨entry, hentry, ?_⟩
    dsimp only [Function.comp_apply]
    split_ifs with same
    · exact same.symm
    · rfl
  · exact List.mem_map_of_mem (List.mem_append_left _ hentry)

theorem assign_keeps {v : Json} (fits : Held R userId (core s) → R.entry key v) :
    Keeps R userId s { s with conversations := assign key v s.conversations } := by
  intro held
  refine ⟨⟨held.user, ?_, held.opened, held.online, held.messages, held.stored⟩, assign_listed⟩
  intro entry hentry
  rcases mem_assign hentry with rfl | old
  · exact fits held
  · exact held.entries entry old

theorem openEntry_keeps (s : Store) (key : String) : Keeps R userId s
    { s with currentConversation := (s.conversations.lookup key).getD s.currentConversation } := by
  intro held
  refine ⟨⟨held.user, held.entries, ?_, held.online, held.messages, held.stored⟩, id⟩
  change ∃ key', R.entry key' ((s.conversations.lookup key).getD s.currentConversation)
  cases found : s.conversations.lookup key with
  | none => exact held.opened
  | some c => exact ⟨key, held.entries _ (mem_of_lookup found)⟩

theorem addOnlineConversations_keeps (s : Store) : Keeps R userId s (addOnlineConversations s) := by
  have fold : ∀ (users : Members) (s : Store), (∀ user ∈ users, R.online user.1) →
      Keeps R userId s (users.foldl (fun s user =>
        { s with conversations := assign user.1 (privateEntry s user) s.conversations }) s) := by
    intro users
    induction users with
    | nil => exact fun s _ => Std.Refl.refl s
    | cons user users ih =>
      intro s others
      have first : Keeps R userId s { s with conversations := assign user.1 (privateEntry s user) s.conversations } :=
        assign_keeps (fun _ => R.friend s user (others user List.mem_cons_self))
      exact IsTrans.trans _ _ _ first (ih _ (fun x hx => others x (List.mem_cons_of_mem _ hx)))
  intro held
  refine fold _ s ?_ held
  intro user huser
  obtain ⟨online, other⟩ := List.mem_filter.mp huser
  exact held.online user online (fun same => bne_iff_ne.mp other (same.trans held.user.symm))

theorem pruned_keeps (s : Store) : Keeps R userId s (prune s) := by
  intro held
  refine ⟨⟨held.user, held.entries, held.opened, held.online, ?_, held.stored⟩, id⟩
  intro m hm
  exact held.messages m ((mem_retain s.allMessages m).mp (.inl hm))

theorem savedMessages_keeps (s : Store) :
    Keeps R userId s { s with storage := { s.storage with messages := some (snapshot s.allMessages) } } := by
  intro held
  refine ⟨⟨held.user, held.entries, held.opened, held.online, held.messages, ?_, held.stored.conversations⟩, id⟩
  intro m hm _
  obtain ⟨x, hx, rfl⟩ := List.mem_map.mp hm
  exact R.writtenMessage x (held.messages x hx)

theorem savedConversations_keeps (s : Store) : Keeps R userId s
    { s with storage := { s.storage with conversations := some (stringified (.obj s.conversations)) } } := by
  intro held
  refine ⟨⟨held.user, held.entries, held.opened, held.online, held.messages, held.stored.messages, ?_⟩, id⟩
  intro entry hentry _
  have written : entry ∈ s.conversations.map (fun m => (m.1, stringified m.2)) := by
    have same : NumberMaps.mapMembers writtenNumber s.conversations = s.conversations.map (fun m => (m.1, stringified m.2)) :=
      NumberMaps.mapMembers_eq _ _
    rw [← same]
    exact hentry
  obtain ⟨x, hx, rfl⟩ := List.mem_map.mp written
  exact R.writtenEntry x.1 x.2 (held.entries x hx)

theorem rules_kept : Kept (Keeps R userId) where
  aside s u same held := by
    rw [same]
    exact ⟨held, id⟩
  pruned := pruned_keeps
  savedMessages := savedMessages_keeps
  savedConversations := savedConversations_keeps
  listed := addOnlineConversations_keeps
  reset s held := by
    refine ⟨⟨held.user, held.entries, held.opened, ?_, held.messages, held.stored⟩, id⟩
    intro user huser other
    rw [List.mem_singleton.mp huser] at other
    exact absurd held.user other
  entered s name held := by
    refine ⟨⟨held.user, held.entries, held.opened, ?_, held.messages, held.stored⟩, id⟩
    intro user huser other
    cases mem_setName huser with
    | inl self => exact absurd (self.trans held.user) other
    | inr listed => exact held.online user listed other
  opened := openEntry_keeps

theorem carries_message (fits : R.message msg) : Carries (Keeps R userId) msg where
  push s held := by
    refine ⟨⟨held.user, held.entries, held.opened, held.online, ?_, held.stored⟩, id⟩
    intro m hm
    cases List.mem_append.mp hm with
    | inl old => exact held.messages m old
    | inr new =>
      rw [List.mem_singleton.mp new]
      exact fits
  entry s now := assign_keeps (fun held => R.summary s msg now held.entries fits)

/-- What a frame brings to the store follows the rules. -/
structure Fits (R : Rules) (s : Store) (msg : Json) : Prop where
  message : Accepted s msg → R.message msg
  recovered : isText "historyResponse" (msg.lastMember "type") = true → ∀ candidate,
    msg.lastMember "message" = some candidate → validHistoryMessage candidate = true →
    ∀ users now, R.message (recoveredMessagePayload users candidate msg now)
  presence : isText "onlineUsers" (msg.lastMember "type") = true → ∀ user ∈ itemsOf (msg.lastMember "data"),
    validUserId (user.lastMember "id") = true → orEmpty (user.lastMember "id") ≠ s.userId →
    R.online (orEmpty (user.lastMember "id"))

theorem fits_brings (fits : Fits R s msg) (stored : validHistoryMessage msg = true → Accepted s msg) :
    Brings (Keeps R s.userId) msg where
  chat valid := by
    refine ⟨carries_message (fits.message (stored valid)), ?_⟩
    intro s
    unfold openNewGroup
    split_ifs
    · exact openEntry_keeps s _
    · exact Std.Refl.refl s
  recovered type candidate found valid users now := carries_message (fits.recovered type candidate found valid users now)
  presence type s held := by
    refine ⟨⟨held.user, held.entries, held.opened, ?_, held.messages, held.stored⟩, id⟩
    intro user huser other
    rcases mem_presence huser with self | ⟨listed, hlisted, valid, named⟩
    · exact absurd (self.trans held.user) other
    · rw [named] at other ⊢
      exact fits.presence type listed hlisted valid other

/-- A message that is not taken only moves the cursor. -/
theorem handleChat_refused (refused : ¬Accepted s msg) :
    Traces (Keeps R userId) (handleChat msg) s (fun _ _ => True) := by
  have saved : Traces (Keeps R userId) (saveIncomingMessage msg) s (fun saved _ => saved = false) := by
    refine Traces.ite (fun _ => .pure (P := fun saved _ => saved = false) rfl) ?_
    intro hv
    apply Traces.bind (P := fun a u => a = s ∧ u = s) (.reads ⟨rfl, rfl⟩)
    intro a u _ h
    obtain ⟨rfl, rfl⟩ := h
    apply Traces.ite
    · intro _
      apply ((saveThenRemember_effects rules_kept _).step u).bind
      intro _ _ _ _
      exact .pure rfl
    · intro taken
      simp only [Bool.or_eq_true, Bool.not_eq_true', not_or, Bool.not_eq_false, Bool.not_eq_true] at taken
      exact absurd ⟨by simpa using hv, taken.1, taken.2⟩ refused
  apply saved.bind
  intro a u _ none
  rw [if_neg (by simp [none])]
  exact .pure trivial

/-- The rules and the public chat, at the end of a computation and when it is cut short. -/
abbrev Sure (R : Rules) (userId : String) {α : Type} : Option α → Store → Prop :=
  fun _ u => Held R userId (core u) ∧ Listed (core u)

theorem ends_keeps {α : Type} {m : Client Store α} (h : Within (Keeps R userId) m)
    (held : Held R userId (core s)) (listed : Listed (core s)) : Ends m s (Sure R userId) := by
  constructor
  intro env
  have after := h.run s env held
  exact ⟨after.1, after.2 listed⟩

theorem mem_spread {base overlay : Members} {entry : String × Json} (h : entry ∈ spread base overlay) :
    entry ∈ base ∨ entry ∈ overlay := by
  unfold spread at h
  induction overlay generalizing base with
  | nil => exact .inl h
  | cons x overlay ih =>
    rcases ih h with first | later
    · cases mem_assign first with
      | inl new => exact .inr (new ▸ List.mem_cons_self)
      | inr old => exact .inl old
    · exact .inr (List.mem_cons_of_mem _ later)

theorem loaded_held (held : Held R userId (core s)) : Held R userId (core (loaded s)) := by
  have found : ∀ entry ∈ (spread [] ((s.storage.conversations.map Json.members).getD [])).filter validConversation,
      R.entry entry.1 entry.2 := by
    intro entry hentry
    obtain ⟨stored, valid⟩ := List.mem_filter.mp hentry
    exact held.stored.conversations entry ((mem_spread stored).resolve_left List.not_mem_nil) valid
  refine ⟨held.user, ?_, held.opened, held.online, ?_, held.stored⟩
  · intro entry hentry
    rcases mem_assign hentry with rfl | old
    · apply R.defaults
      intro c hc
      exact found _ (mem_of_lookup hc)
    · exact found entry old
  · intro m hm
    obtain ⟨stored, valid⟩ := List.mem_filter.mp hm
    exact held.stored.messages m stored valid

theorem loaded_listed (s : Store) : Listed (core (loaded s)) :=
  List.mem_map_of_mem (f := Prod.fst) (mem_of_lookup (lookup_assign_self "global" _ _))

theorem updateConversations_keeps {ms : List Json} (placed : ∀ m ∈ ms, R.message m) :
    Within (Keeps R userId) (updateConversations ms) := by
  induction ms with
  | nil => exact .pure ()
  | cons m ms ih =>
    apply (updateConversationFromMessage_effects (carries_message (placed m List.mem_cons_self))).bind
    intro _
    exact ih (fun x hx => placed x (List.mem_cons_of_mem _ hx))

theorem loadState_ends (held : Held R userId (core s)) : Ends loadState s (Sure R userId) := by
  have first : Ends (writes loaded : Client Store Unit) s (Sure R userId) :=
    .writes ⟨loaded_held held, loaded_listed s⟩
  apply first.bind (fun _ h => h)
  intro _ u h
  refine (ends_keeps (saveMessages_effects rules_kept) h.1 h.2).bind (fun _ h => h) ?_
  intro saved v h
  have read : Ends (current : Client Store Store) v (fun r u => Sure R userId r u ∧ r = some u) := .reads ⟨h, rfl⟩
  refine read.bind (fun _ h => h.1) ?_
  intro a x h
  obtain ⟨⟨held, listed⟩, same⟩ := h
  cases same
  have messages : Within (Keeps R userId) (updateConversations a.allMessages) :=
    updateConversations_keeps held.messages
  apply Ends.ite
  · intro _
    exact ends_keeps ((storeCursor_effects rules_kept _).bind (fun _ => messages)) held listed
  · intro _
    exact ends_keeps messages held listed

theorem chooseUserId_core (env : ℕ → Reply) (s : Store) :
    ((chooseUserId env s).world = s ∧
      ((chooseUserId env s).result.isSome = true → validUserId (some (str s.userId)) = true)) ∨
    core (chooseUserId env s).world = core { s with userId := (env 0).uuid } := by
  have read : (current : Client Store Store) env s = ⟨some s, s, env⟩ := rfl
  unfold chooseUserId
  rw [bind_run read]
  split_ifs with valid
  · exact .inl ⟨rfl, fun _ => valid⟩
  · by_cases alive : (env 0).unloads = false
    · right
      have asked : (reply : Client Store Reply) env s = ⟨some (env 0), s, fun k => env (k + 1)⟩ := by
        simp [reply, ask, alive]
      have write : (writes (fun s => { s with userId := (env 0).uuid }) : Client Store Unit) (fun k => env (k + 1)) s =
        ⟨some (), { s with userId := (env 0).uuid }, fun k => env (k + 1)⟩ := rfl
      rw [bind_run asked, bind_run write, then_pure]
      rcases writeStoredValue_world (fun storage => { storage with userId := some (env 0).uuid })
        (fun k => env (k + 1)) { s with userId := (env 0).uuid } with e | e
      · rw [e]
      · rw [e]
        rfl
    · left
      have cut : ∀ f : Reply → Client Store Unit, ((reply >>= f) env s).world = s ∧ ((reply >>= f) env s).result = none := by
        intro f
        simp [reply, ask, alive, Bind.bind]
      refine ⟨(cut _).1, ?_⟩
      intro returns
      rw [(cut _).2] at returns
      cases returns

/-- A page that knows nobody may choose its user. -/
theorem chooseUserId_held (held : Held R s.userId (core s)) (alone : s.onlineUsers = []) (env : ℕ → Reply)
    (boots : R.own (env 0).uuid) : ∃ userId, Held R userId (core (chooseUserId env s).world) ∧
      ((chooseUserId env s).result.isSome = true → R.own userId) := by
  rcases chooseUserId_core env s with ⟨same, known⟩ | chosen
  · rw [same]
    exact ⟨s.userId, held, fun returns => R.chosen _ (known returns)⟩
  · rw [chosen]
    refine ⟨(env 0).uuid, ⟨rfl, held.entries, held.opened, ?_, held.messages, held.stored⟩, fun _ => boots⟩
    intro user huser
    have nobody : user ∈ s.onlineUsers := huser
    rw [alone] at nobody
    cases nobody

theorem start_ends (held : Held R userId (core s)) : Ends (do
      chooseNickname
      loadState
      writes (fun s => { s with currentConversation := (s.conversations.lookup "global").getD s.currentConversation })
      renderLast) s
    (fun r u => Held R userId (core u) ∧ (r.isSome = true → Listed (core u))) := by
  have nickname : Within (Keeps R userId) chooseNickname := by
    apply Within.bind .reads
    intro s
    refine .ite (.pure ()) (reply_within.bind ?_)
    intro r
    exact write_aside rules_kept (fun _ => rfl)
  have named : Ends chooseNickname s (fun _ v => Held R userId (core v)) :=
    ⟨fun env => (nickname.run s env held).1⟩
  refine named.bind (fun v h => ⟨h, fun none => by cases none⟩) ?_
  intro _ v h
  refine (loadState_ends h).bind (fun x h => ⟨h.1, fun _ => h.2⟩) ?_
  intro _ x h
  have shown : Within (Keeps R userId) (do
      writes (fun s => { s with currentConversation := (s.conversations.lookup "global").getD s.currentConversation })
      renderLast) :=
    Within.bind (.writes (fun s => openEntry_keeps s "global")) (fun _ => renderLast_effects rules_kept)
  exact (ends_keeps shown h.1 h.2).post (fun _ _ h => ⟨h.1, fun _ => h.2⟩)

theorem startStore_held (held : Held R s.userId (core s)) (alone : s.onlineUsers = []) (env : ℕ → Reply)
    (boots : R.own (env 0).uuid) : ∃ userId, Held R userId (core (startStore env s).world) ∧
      ((startStore env s).result.isSome = true → Listed (core (startStore env s).world) ∧ R.own userId) := by
  obtain ⟨userId, first, own⟩ := chooseUserId_held held alone env boots
  cases run : chooseUserId env s with
  | mk result u env' =>
    rw [run] at first own
    cases result with
    | none =>
      have cut : ((startStore env s).world = u) ∧ (startStore env s).result = none := by
        unfold startStore
        simp only [Bind.bind, run, and_self]
      rw [cut.1, cut.2]
      exact ⟨userId, first, fun none => by cases none⟩
    | some a =>
      have rest : startStore env s = (do
          chooseNickname
          loadState
          writes (fun s =>
            { s with currentConversation := (s.conversations.lookup "global").getD s.currentConversation })
          renderLast) env' u := by
        unfold startStore
        rw [bind_run run]
      rw [rest]
      have ends := (start_ends first).run env'
      exact ⟨userId, ends.1, fun returns => ⟨ends.2 returns, own rfl⟩⟩

/-- What may happen to a tab; `boots` and `permits` say in which browser a page may be loaded and
    which events may come. -/
inductive Next (location : Location) (boots : (ℕ → Reply) → Prop) (permits : Event → (ℕ → Reply) → Page → Prop) :
    Tab → Tab → Prop where
  | load (env : ℕ → Reply) (t : Tab) (booted : boots env) : Next location boots permits t (load location env t)
  | step (e : Event) (env : ℕ → Reply) (t : Tab) (permitted : permits e env t.page) :
      Next location boots permits t (step e env t)

def firstTab (location : Location) (storage : LocalStorage) : Tab :=
  ⟨⟨freshStore storage [], freshLink location⟩, false⟩

/-- What the event brings follows the rules; frames of sockets that are not in use bring nothing. -/
structure Follows (R : Rules) (e : Event) (env : ℕ → Reply) (w : Page) : Prop where
  frame : ∀ s msg, e = .socketMessage s (some msg) → w.link.ws = some s → Fits R w.store msg
  group : ∀ ids, e = .createGroup ids → ids ≠ [] → ∀ now,
    R.entry ("group-" ++ (env 0).uuid) (createdGroup w.store ids (env 0).uuid now)

/-- The state of a tab follows the rules; while its page runs there is a public chat. -/
def Sound (R : Rules) (t : Tab) : Prop :=
  ∃ userId, Held R userId (core t.page.store) ∧ (t.running = true → Listed (core t.page.store) ∧ R.own userId)

theorem fresh_held {storage : LocalStorage} (stored : Stored R storage.messages storage.conversations)
    (pruned : List Json) : Held R (storage.userId.getD "") (core (freshStore storage pruned)) := by
  refine ⟨rfl, ?_, ⟨"global", R.defaults none (fun _ h => by cases h)⟩, ?_, ?_, stored⟩
  · intro entry hentry
    cases hentry
  · intro user huser
    cases huser
  · intro m hm
    cases hm

theorem path_keeps {w u : Page}
    (path : Relation.ReflTransGen (fun u v : Page => Keeps R userId u.store v.store) w u) : Keeps R userId w.store u.store := by
  induction path with
  | refl => exact Std.Refl.refl _
  | tail _ step ih => exact IsTrans.trans _ _ _ ih step

theorem onmessage_keeps {w : Page} {s : ℕ} (fits : w.link.ws = some s → Fits R w.store msg) (env : ℕ → Reply) :
    Keeps R w.store.userId w.store (onmessage s (some msg) env w).world.store := by
  by_cases current : w.link.ws = some s
  · by_cases ignored : validHistoryMessage msg = true ∧ ¬Accepted w.store msg
    · exact path_keeps (onmessage_chat (fun _ => Std.Refl.refl _) current ignored.1 (handleChat_refused ignored.2) env).1
    · have stored : validHistoryMessage msg = true → Accepted w.store msg := by
        intro valid
        by_contra refused
        exact ignored ⟨valid, refused⟩
      have brings : ∀ msg', some msg = some msg' → Brings (Keeps R w.store.userId) msg' := by
        intro msg' same
        obtain rfl := Option.some.inj same
        exact fits_brings (fits current) stored
      exact (onmessage_effects rules_kept s brings).run w env
  · rw [onmessage_stale current]
    exact Std.Refl.refl _

theorem handle_keeps {e : Event} {env : ℕ → Reply} {w : Page} (follows : Follows R e env w) :
    Keeps R w.store.userId w.store (handle e env w).world.store := by
  by_cases framed : ∃ s msg, e = .socketMessage s (some msg)
  · obtain ⟨s, msg, rfl⟩ := framed
    exact onmessage_keeps (follows.frame s msg rfl) env
  · apply handle_effects rules_kept e w env
    · intro s msg frame
      exact absurd ⟨s, msg, frame⟩ framed
    · intro ids created some now s held
      have entry := follows.group ids created some now
      have added := assign_keeps (fun _ => entry) held
      exact ⟨⟨added.1.user, added.1.entries, ⟨_, entry⟩, added.1.online, added.1.messages, added.1.stored⟩, added.2⟩

section runs
variable {location : Location} {boots : (ℕ → Reply) → Prop} {permits : Event → (ℕ → Reply) → Page → Prop} {t u : Tab}
  (named : ∀ env, boots env → R.own (env 0).uuid)
  (permitted : ∀ e env w, R.own w.store.userId → permits e env w → Follows R e env w)
include named permitted

theorem next_sound (next : Next location boots permits t u) (sound : Sound R t) : Sound R u := by
  obtain ⟨userId, held, live⟩ := sound
  cases next with
  | load env _ booted => exact startStore_held (fresh_held held.stored t.page.store.pruned) rfl env (named env booted)
  | step e env _ allowed =>
    unfold step
    split_ifs with running
    · obtain ⟨listed, own⟩ := live running
      have same := held.user
      subst same
      have after := handle_keeps (permitted e env t.page own allowed) held
      exact ⟨_, after.1, fun _ => ⟨after.2 listed, own⟩⟩
    · exact ⟨userId, held, live⟩

theorem run_sound (run : Relation.ReflTransGen (Next location boots permits) t u) (sound : Sound R t) : Sound R u := by
  induction run with
  | refl => exact sound
  | tail _ next ih => exact next_sound named permitted next ih

end runs

end EspWebChat.StoreRules
