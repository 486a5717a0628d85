import EspWebChat.ConversationKinds
import EspWebChat.Provenance

set_option autoImplicit false

/-!
# Conversations over whole runs

While users and groups have different ids, no conversation changes its kind, and what is sent from
a conversation goes to those it is with.
-/
namespace EspWebChat.ConversationRuns
open Relation JsonTree JsValues ClientMessages Interruptible BrowserWorld ClientStore ClientSocket
open StoreEffects StoreRules ConversationKinds

variable {isGroup : String → Bool} {location : Location} {t u : Tab} {env : ℕ → Reply} {w : Page}

def everyone : Json := .obj [("all", .bool true), ("users", .arr [])]

def onlyTo (userId : String) : Json := .obj [("all", .bool false), ("users", .arr [str userId])]

/-- The public chat goes to all, and a private chat to its user, when it is opened and as long as
    it is the current conversation. -/
structure Addressed (t : Tab) : Prop where
  publicChat : ∃ c, t.page.store.conversations.lookup "global" = some c ∧ c.lastMember "type" = some (str "global")
  keys : ∀ key c, (key, c) ∈ t.page.store.conversations → c.lastMember "id" = some (str key)
  opensPublic : ∀ env, messageTargetForCurrentConversation (step (.openConversation "global") env t).page.store = everyone
  opensPrivate : ∀ env key c, t.page.store.conversations.lookup key = some c →
    c.lastMember "type" = some (str "private") →
    messageTargetForCurrentConversation (step (.openConversation key) env t).page.store = onlyTo key
  current : ∃ key, t.page.store.currentConversation.lastMember "id" = some (str key) ∧
    (key = "global" → messageTargetForCurrentConversation t.page.store = everyone) ∧
    (conversationType t.page.store = some (str "private") →
      messageTargetForCurrentConversation t.page.store = onlyTo key)

theorem target_global {s : Store} (filed : Filed isGroup "global" s.currentConversation) :
    messageTargetForCurrentConversation s = everyone := by
  unfold messageTargetForCurrentConversation conversationType
  rw [filed.type]
  rfl

theorem target_private {s : Store} {key : String} (filed : Filed isGroup key s.currentConversation)
    (kept : kind isGroup key = "private") : messageTargetForCurrentConversation s = onlyTo key := by
  unfold messageTargetForCurrentConversation conversationType
  rw [filed.type, filed.id, kept]
  rfl

def SameOpen (s u : Store) : Prop := u.currentConversation = s.currentConversation

instance : Std.Refl SameOpen := ⟨fun _ => rfl⟩
instance : IsTrans Store SameOpen := ⟨fun _ _ _ h k => k.trans h⟩

theorem renderConversationList_open : Within SameOpen renderConversationList := by
  have fold : ∀ (users : Members) (s : Store), SameOpen s (users.foldl (fun s user =>
      { s with conversations := assign user.1 (privateEntry s user) s.conversations }) s) := by
    intro users
    induction users with
    | nil => exact fun _ => rfl
    | cons user users ih => exact fun s => ih _
  have write : ∀ f, Within SameOpen (writeStoredValue f) := by
    intro f
    apply OutboxSteps.reply_within.bind
    intro r
    exact .ite (.bind (.writes (fun _ => rfl)) (fun _ => .pure true)) (.pure false)
  apply Within.bind (.writes (fun s => fold _ s))
  intro _
  exact .bind .reads (fun _ => .bind (write _) (fun _ => .pure ()))

theorem renderLast_open : Within SameOpen renderLast := renderLast_within renderConversationList_open

/-- A conversation that is opened is the current one, even if the page then unloads. -/
theorem opened_current (running : t.running = true) {key : String} {c : Json}
    (found : t.page.store.conversations.lookup key = some c) :
    (step (.openConversation key) env t).page.store.currentConversation = c := by
  have shown := renderLast_open.run { t.page.store with
    currentConversation := (t.page.store.conversations.lookup key).getD t.page.store.currentConversation } env
  have run : (step (.openConversation key) env t).page.store = (renderLast env { t.page.store with
      currentConversation :=
        (t.page.store.conversations.lookup key).getD t.page.store.currentConversation }).world := by
    unfold step
    rw [if_pos running]
    rfl
  rw [← run] at shown
  calc
    (step (.openConversation key) env t).page.store.currentConversation =
        (t.page.store.conversations.lookup key).getD t.page.store.currentConversation := shown
    _ = c := by rw [found]; rfl

theorem sound_addressed (sound : Sound (kindRules isGroup) t) (running : t.running = true) : Addressed t := by
  obtain ⟨userId, kinds, live⟩ := sound
  have filed : ∀ key c, t.page.store.conversations.lookup key = some c → Filed isGroup key c :=
    fun key c found => kinds.entries _ (mem_of_lookup found)
  obtain ⟨c, found⟩ : ∃ c, t.page.store.conversations.lookup "global" = some c := by
    cases absent : t.page.store.conversations.lookup "global" with
    | none => exact absurd (live running).1 (lookup_eq_none_iff.mp absent)
    | some c => exact ⟨c, rfl⟩
  have private_kind : ∀ key c, Filed isGroup key c → c.lastMember "type" = some (str "private") →
      kind isGroup key = "private" := by
    intro key c filed type
    rw [filed.type] at type
    injection type with same
    injection same
  refine ⟨⟨c, found, (filed _ c found).type⟩, fun key c h => (kinds.entries _ h).id, ?_, ?_, ?_⟩
  · intro env
    have opened : Filed isGroup "global" (step (.openConversation "global") env t).page.store.currentConversation := by
      rw [opened_current running found]
      exact filed _ c found
    exact target_global opened
  · intro env key c found type
    have opened : Filed isGroup key (step (.openConversation key) env t).page.store.currentConversation := by
      rw [opened_current running found]
      exact filed _ c found
    exact target_private opened (private_kind key c (filed _ c found) type)
  · obtain ⟨key, opened⟩ := kinds.opened
    refine ⟨key, opened.id, ?_, ?_⟩
    · intro same
      subst same
      exact target_global opened
    · intro type
      exact target_private opened (private_kind key _ opened type)

open Sessions (chatSessionsEnsureSlot)
open Protocol (handleJoinMessage)

def joinFrame (userId : String) : Json := .obj [("type", str "join"), ("from", str userId), ("name", str "Bob")]

def twoJoins (other : String) : ServerWorld.Server (ServerWorld.Config.default CjsonPrinter.fifteenDigits) ServerWorld.EspErr := do
  let _ ← chatSessionsEnsureSlot 5
  let _ ← handleJoinMessage 5 (joinFrame "bob")
  let _ ← chatSessionsEnsureSlot 6
  handleJoinMessage 6 (joinFrame other)

def calmServer : ℕ → ServerWorld.Reply := fun _ => .calm 0

def payloadTo (fd : ℤ) : ServerWorld.TraceEvent → Option Json
  | .sent d => if d.fd = fd then some d.payload else none
  | _ => none

def servedFrame (other : String) : Json :=
  let joined := twoJoins other calmServer ⟨ServerWorld.AppContext.zero _, ⟨⟨none, none⟩, ⟨none, none⟩⟩, []⟩
  ((joined.world.trace.filterMap (payloadTo 5)).getLast?).getD .null

def calmBrowser : ℕ → Reply := fun _ => ⟨false, true, true, true, 0, 0, "bob"⟩

def emptyStorage : LocalStorage := ⟨none, none, none, none, none, none⟩

def joinedTab (frame : Json) : Tab :=
  step (.socketMessage 0 (some frame)) calmBrowser (step (.socketOpen 0) calmBrowser
    (step .callConnect calmBrowser (load ⟨false, "esp"⟩ calmBrowser (firstTab ⟨false, "esp"⟩ emptyStorage))))

theorem joinedTab_run {permits : Event → (ℕ → Reply) → Page → Prop} (frame : Json)
    (connects : ∀ w, permits .callConnect calmBrowser w) (opens : ∀ w, permits (.socketOpen 0) calmBrowser w)
    (listed : ∀ w, permits (.socketMessage 0 (some frame)) calmBrowser w) :
    ReflTransGen (Next ⟨false, "esp"⟩ (fun _ => True) permits) (firstTab ⟨false, "esp"⟩ emptyStorage) (joinedTab frame) :=
  (((ReflTransGen.single (.load calmBrowser _ trivial)).tail (.step _ _ _ (connects _))).tail (.step _ _ _ (opens _))).tail
    (.step _ _ _ (listed _))

/-- While users and groups are kept apart, every conversation keeps its kind. -/
theorem conversation_kinds_kept (storage : LocalStorage) (isGroup : String → Bool)
    (stored : Stored (kindRules isGroup) storage.messages storage.conversations)
    (run : ReflTransGen (Next location (fun _ => True) (Distinct isGroup)) (firstTab location storage) t)
    (later : ReflTransGen (Next location (fun _ => True) (Distinct isGroup)) t u) :
    (t.running = true → Addressed t) ∧ ∀ key c d, (key, c) ∈ t.page.store.conversations →
      (key, d) ∈ u.page.store.conversations → d.lastMember "type" = c.lastMember "type" := by
  have start : Sound (kindRules isGroup) (firstTab location storage) := ⟨_, fresh_held stored [], fun h => by cases h⟩
  have follows := fun e env w (_ : True) (distinct : Distinct isGroup e env w) => distinct_follows distinct
  have sound := run_sound (fun _ _ => trivial) follows run start
  obtain ⟨_, after, -⟩ := run_sound (fun _ _ => trivial) follows later sound
  refine ⟨sound_addressed sound, ?_⟩
  intro key c d before found
  obtain ⟨_, kinds, -⟩ := sound
  rw [(after.entries _ found).type, (kinds.entries _ before).type]

def oneGroup (key : String) : Bool := key == "group-1"

theorem frame_distinct {s : ℕ} {frame : Json} (apart : Apart isGroup w.store frame) :
    Distinct isGroup (.socketMessage s (some frame)) env w := by
  constructor
  · intro _ msg h _
    cases h
    exact apart
  · intro _ h
    cases h

theorem served_ann : validHistoryMessage (servedFrame "ann") = false ∧
    isText "historyResponse" ((servedFrame "ann").lastMember "type") = false ∧
    (itemsOf ((servedFrame "ann").lastMember "data")).all
      (fun user => kind oneGroup (orEmpty (user.lastMember "id")) == "private") = true ∧
    (joinedTab (servedFrame "ann")).running = true := by
  decide +kernel

/-- A page on which a private chat with `ann` is opened. -/
theorem ann_addressed : Addressed (joinedTab (servedFrame "ann")) := by
  obtain ⟨chat, response, others, running⟩ := served_ann
  have apart : ∀ s, Apart oneGroup s (servedFrame "ann") := by
    intro s
    refine ⟨?_, ?_, ?_⟩
    · intro accepted
      rw [accepted.valid] at chat
      cases chat
    · intro type
      rw [response] at type
      cases type
    · intro _ user listed _ _
      exact beq_iff_eq.mp (List.all_eq_true.mp others user listed)
  have run : ReflTransGen (Next ⟨false, "esp"⟩ (fun _ => True) (Distinct oneGroup)) (firstTab ⟨false, "esp"⟩ emptyStorage)
      (joinedTab (servedFrame "ann")) := by
    apply joinedTab_run
    · exact fun w => ⟨(fun _ _ h => nomatch h), (fun _ h => nomatch h)⟩
    · exact fun w => ⟨(fun _ _ h => nomatch h), (fun _ h => nomatch h)⟩
    · exact fun w => frame_distinct (apart _)
  have stored : Stored (kindRules oneGroup) emptyStorage.messages emptyStorage.conversations :=
    ⟨fun m hm => absurd hm List.not_mem_nil, fun entry hentry => absurd hentry List.not_mem_nil⟩
  exact (conversation_kinds_kept emptyStorage oneGroup stored run .refl).1 running

theorem served_global : (joinedTab (servedFrame "global")).running = true ∧
    ((joinedTab (servedFrame "global")).page.store.conversations.lookup "global").any
      (fun entry => isText "global" (entry.lastMember "type")) = false := by
  decide +kernel

/-- The frames of the page come from a server that two clients have joined. -/
def FromServer (e : Event) (_ : ℕ → Reply) (_ : Page) : Prop :=
  ∀ s frame, e = .socketMessage s frame → ∃ other, frame = some (servedFrame other)

/-- A user may call himself `global`, and the public chat becomes a private one with him. -/
theorem public_chat_taken : ¬∀ location t u,
    ReflTransGen (Next location (fun _ => True) FromServer) (firstTab location emptyStorage) t →
    ReflTransGen (Next location (fun _ => True) FromServer) t u →
    (t.running = true → Addressed t) ∧ ∀ key c d, (key, c) ∈ t.page.store.conversations →
      (key, d) ∈ u.page.store.conversations → d.lastMember "type" = c.lastMember "type" := by
  intro always
  obtain ⟨running, taken⟩ := served_global
  have run : ReflTransGen (Next ⟨false, "esp"⟩ (fun _ => True) FromServer) (firstTab ⟨false, "esp"⟩ emptyStorage)
      (joinedTab (servedFrame "global")) := by
    apply joinedTab_run
    · exact fun w s frame h => nomatch h
    · exact fun w s frame h => nomatch h
    · intro w s frame h
      exact ⟨"global", (Event.socketMessage.inj h).2.symm⟩
  obtain ⟨c, found, type⟩ := ((always _ _ _ run .refl).1 running).publicChat
  rw [found] at taken
  simp [type, isText, text, str] at taken

end EspWebChat.ConversationRuns
