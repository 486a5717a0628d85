import EspWebChat.ComposedFrames
import EspWebChat.ConversationRuns

set_option autoImplicit false

/-!
# Composed messages over whole runs

Whatever frames a page has processed, a message it composes gets past the server when its nickname
is not blank, its targets are few enough and it is short enough once it is written.
-/
namespace EspWebChat.ComposedRuns
open Relation JsonTree JsValues ClientMessages Interruptible BrowserWorld ClientStore ClientSocket
open WrittenMessages OutgoingMessages StoreRules ConversationFields ComposedFrames

variable {location : Location} {t : Tab} {env : ℕ → Reply} {w : Page} {input : String} {frame : Json}

theorem mem_composed (made : frame ∈ composed (.sendMessage input) env w) : trim input ≠ "" ∧
    frame = buildOutgoingMessage w.store (truncateUtf8 (trim input) 256) (nat ((env 0).nowMs / 1000)) := by
  have read : (store : Client Page Store) env w = ⟨some w.store, w, env⟩ := rfl
  unfold composed composing at made
  dsimp only at made
  split_ifs at made with empty
  · cases made
  · refine ⟨empty, ?_⟩
    rw [bind_run read] at made
    by_cases alive : (env 0).unloads = false
    · have clock : (nowS : Client Page Json) env w =
          ⟨some (nat ((env 0).nowMs / 1000)), w, fun k => env (k + 1)⟩ := by
        simp [nowS, reply, ask, alive, Bind.bind, Pure.pure, nat]
      rw [bind_run clock] at made
      exact List.mem_singleton.mp made
    · have cut : ∀ f : Json → Client Page (List Json), ((nowS >>= f) env w).result = none := by
        intro f
        simp [nowS, reply, ask, alive, Bind.bind]
      rw [cut] at made
      cases made

def Boots (env : ℕ → Reply) : Prop := Uuid (env 0).uuid

/-- In every state that a page can reach, a compact message gets through. -/
theorem composed_admitted (storage : LocalStorage)
    (stored : Stored fieldRules storage.messages storage.conversations)
    (run : ReflTransGen (Next location Boots Offers) (firstTab location storage) t) (running : t.running = true)
    (made : frame ∈ composed (.sendMessage input) env t.page)
    (compact : Compact t.page.store (truncateUtf8 (trim input) 256) ((env 0).nowMs / 1000)) : Admitted frame := by
  have start : Sound fieldRules (firstTab location storage) := ⟨_, fresh_held stored [], fun h => by cases h⟩
  have named : ∀ env, Boots env → fieldRules.own (env 0).uuid := fun _ booted => uuid_valid booted
  obtain ⟨userId, held, live⟩ := run_sound named (fun _ _ _ own offers => offers_follows own offers) run start
  have own : validId t.page.store.userId := by
    rw [show t.page.store.userId = userId from held.user]
    exact (live running).2
  obtain ⟨key, sendable⟩ := held.opened
  obtain ⟨filled, rfl⟩ := mem_composed made
  refine ⟨?_, ?_, ?_⟩
  · intro printer
    rw [frame_size sendable compact.whole]
    exact compact.short
  · intro cJSONParse cs stop written parsed
    exact (GateLanguage.chatJsonParseObject_text written parsed).1 (frame_intended sendable compact.whole compact.clean _)
  · intro printer
    exact frame_passes own sendable compact.whole (truncateUtf8_filled filled (by decide)) (truncateUtf8_size _ _)
      compact.named compact.few _

def friend (k : ℕ) : String := String.ofList (List.replicate 62 'u') ++ toString k

def ownUuid : String := "00000000-0000-4000-8000-0000000000aa"

/-- A group of eleven: the sender, nine friends and the user of the page. -/
def groupRoot : Json := .obj [("type", str "newGroup"), ("from", str (friend 0)), ("name", str "Ann"),
  ("groupId", str ("group-" ++ ownUuid)), ("groupName", str "Friends"),
  ("to", .obj [("all", .bool false), ("users", .arr (str ownUuid :: (List.range 9).map (fun k => str (friend (k + 1)))))]),
  ("data", str "")]

def groupFrame : Json := (groupRoot.append "id" (nat 1)).append "timestamp" (nat 0)

example : (Agreement.storing (ServerWorld.Config.default CjsonPrinter.fifteenDigits) "newGroup" groupRoot).length = 1 := by decide +kernel

def uuidBrowser : ℕ → Reply := fun _ => ⟨false, true, true, true, 1700000000000, 0, ownUuid⟩

def groupTab : Tab :=
  step (.socketMessage 0 (some groupFrame)) uuidBrowser (step (.socketOpen 0) uuidBrowser (step .callConnect uuidBrowser
    (load ⟨false, "esp"⟩ uuidBrowser (firstTab ⟨false, "esp"⟩ ConversationRuns.emptyStorage))))

theorem groupTab_run : ReflTransGen (Next ⟨false, "esp"⟩ Boots Offers) (firstTab ⟨false, "esp"⟩ ConversationRuns.emptyStorage)
    groupTab := by
  have offers : ∀ e w, (∀ ids, e ≠ .createGroup ids) → Offers e uuidBrowser w :=
    fun e w other => ⟨fun ids h => absurd h (other ids), fun ids h => absurd h (other ids)⟩
  have booted : Boots uuidBrowser := by
    unfold Boots Uuid
    decide
  exact (((ReflTransGen.single (.load uuidBrowser _ booted)).tail (.step _ _ _ (offers _ _ (fun _ h => Event.noConfusion h)))).tail
    (.step _ _ _ (offers _ _ (fun _ h => Event.noConfusion h)))).tail (.step _ _ _ (offers _ _ (fun _ h => Event.noConfusion h)))

theorem groupTab_fits : groupTab.running = true ∧ getNickname groupTab.page.store ≠ "" ∧
    text (groupTab.page.store.currentConversation.lastMember "name") = some "Friends" ∧
    (addressees groupTab.page.store).length ≤ 11 ∧
    (words groupTab.page.store "hi").all JsonGrammar.textNulFree = true ∧
    composedBytes groupTab.page.store "hi" 1700000000 ≤ 1024 ∧
    (composed (.sendMessage "hi") uuidBrowser groupTab.page).length = 1 := by
  decide +kernel

/-- A greeting gets through. -/
theorem greeting_admitted : ∃ frame ∈ composed (.sendMessage "hi") uuidBrowser groupTab.page, Admitted frame := by
  obtain ⟨running, named, whole, few, clean, short, one⟩ := groupTab_fits
  obtain ⟨frame, single⟩ := List.length_eq_one_iff.mp one
  have made : frame ∈ composed (.sendMessage "hi") uuidBrowser groupTab.page := by
    rw [single]
    exact List.mem_singleton_self frame
  have typed : truncateUtf8 (trim "hi") 256 = "hi" := by decide +kernel
  have stored : Stored fieldRules ConversationRuns.emptyStorage.messages ConversationRuns.emptyStorage.conversations :=
    ⟨fun m hm => absurd hm List.not_mem_nil, fun entry hentry => absurd hentry List.not_mem_nil⟩
  refine ⟨frame, made, composed_admitted ConversationRuns.emptyStorage stored groupTab_run running made ?_⟩
  rw [typed]
  exact ⟨named, fun _ => ⟨_, text_eq_some whole⟩, few, List.all_eq_true.mp clean, short⟩

def quotes : String := String.ofList (List.replicate 60 '"')

theorem quotes_long : (composed (.sendMessage quotes) uuidBrowser groupTab.page).any
    (fun frame => decide (1024 < JsonText.encodedSize frame)) = true := by
  decide +kernel

/-- Every quote is two bytes, and with the ids of the group the frame is too long. -/
theorem quotes_rejected : ¬∀ location t input env frame,
    ReflTransGen (Next location Boots Offers) (firstTab location ConversationRuns.emptyStorage) t → t.running = true →
    frame ∈ composed (.sendMessage input) env t.page → Admitted frame := by
  intro always
  obtain ⟨frame, made, long⟩ := List.any_eq_true.mp quotes_long
  have admitted := always _ _ _ _ frame groupTab_run groupTab_fits.1 made
  have size : JsonText.encodedSize frame ≤ 1024 := admitted.size CjsonPrinter.fifteenDigits
  exact absurd size (Nat.not_le.mpr (of_decide_eq_true long))

end EspWebChat.ComposedRuns
