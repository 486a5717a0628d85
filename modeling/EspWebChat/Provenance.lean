import EspWebChat.Agreement
import EspWebChat.LocalStore
import EspWebChat.StaleSockets

set_option autoImplicit false

/-!
# Which messages count as recovered

The script tells recovered messages from live ones by a member of the stored object, and it
stores a live message as it arrives. So the label can be trusted for as long as no live message
brings it along.
-/
namespace EspWebChat.Provenance
open Relation JsonTree JsValues ClientMessages Interruptible BrowserWorld ClientStore ClientSocket
open StoreSteps PageSteps StartSteps TabRuns StaleSockets WrittenMessages OutboxSteps LocalStore

variable {T : Traffic} {a b c : Archive} {A : Json → Prop} {s u v : Store} {w : Page} {e : Event} {m msg : Json}
  {env : ℕ → Reply} {s' : ℕ} {location : Location} {t : Tab}

def storedItems (a : Archive) : List Json := itemsOf a.storedMessages

/-- From `a` to `b` only messages that `A` allows were added, and what was written is a message
    of the page. -/
structure Grows (A : Json → Prop) (a b : Archive) : Prop where
  memory : ∀ m ∈ memory b, m ∈ memory a ∨ A m
  kept : ∀ m ∈ StoreSteps.memory a, m ∈ StoreSteps.memory b
  stored : ∀ m ∈ storedItems b, m ∈ storedItems a ∨ ∃ x ∈ StoreSteps.memory b, m = stringified x

theorem Grows.refl : Grows A a a := ⟨fun _ h => .inl h, fun _ h => h, fun _ h => .inl h⟩

theorem Grows.trans (h : Grows A a b) (k : Grows A b c) : Grows A a c := by
  refine ⟨?_, fun m hm => k.kept m (h.kept m hm), ?_⟩
  · intro m hm
    cases k.memory m hm with
    | inl before => exact h.memory m before
    | inr added => exact .inr added
  · intro m hm
    cases k.stored m hm with
    | inl before =>
      cases h.stored m before with
      | inl first => exact .inl first
      | inr written =>
        obtain ⟨x, hx, same⟩ := written
        exact .inr ⟨x, k.kept x hx, same⟩
    | inr written => exact .inr written

theorem Grows.mono {B : Json → Prop} (h : Grows A a b) (weaken : ∀ m, A m → B m) : Grows B a b :=
  ⟨fun m hm => (h.memory m hm).imp_right (weaken m), h.kept, h.stored⟩

theorem grows_of_same (messages : b.allMessages = a.allMessages) (pruned : b.pruned = a.pruned)
    (stored : b.storedMessages = a.storedMessages) : Grows A a b := by
  have same : memory b = memory a := by
    unfold memory
    rw [messages, pruned]
  refine ⟨?_, ?_, ?_⟩
  · intro m hm
    rw [same] at hm
    exact .inl hm
  · intro m hm
    rw [same]
    exact hm
  · intro m hm
    unfold storedItems at hm
    rw [stored] at hm
    exact .inl hm

theorem storedItems_snapshot (ms : List Json) : itemsOf (some (snapshot ms)) = ms.map stringified := rfl

def Brought (T : Traffic) (m : Json) : Prop :=
  (T.chat m ∧ validHistoryMessage m = true) ∨
    ∃ users c source now, T.recovered c ∧ m = recoveredMessagePayload users c source now

theorem grows_of_move (move : Move T a b) : Grows (Brought T) a b := by
  have kept : ∀ m ∈ memory a, m ∈ memory b := fun m hm => memory_mono move hm
  cases move with
  | stay => exact .refl
  | push msg arrives valid mine new =>
    refine ⟨?_, kept, fun m hm => .inl hm⟩
    intro m hm
    simp only [memory, List.mem_append, List.mem_singleton] at hm ⊢
    rcases hm with (old | rfl) | dropped
    · exact .inl (.inl old)
    · exact .inr (.inl ⟨arrives, valid⟩)
    · exact .inl (.inr dropped)
  | recover msg source now users arrives valid mine new =>
    refine ⟨?_, kept, fun m hm => .inl hm⟩
    intro m hm
    simp only [memory, List.mem_append, List.mem_singleton] at hm ⊢
    rcases hm with (old | rfl) | dropped
    · exact .inl (.inl old)
    · exact .inr (.inr ⟨users, msg, source, now, arrives, rfl⟩)
    · exact .inl (.inr dropped)
  | settle =>
    refine ⟨?_, kept, fun m hm => .inl hm⟩
    intro m hm
    have split := mem_retain a.allMessages m
    simp only [memory, List.mem_append] at hm ⊢
    tauto
  | save =>
    refine ⟨fun m hm => .inl hm, kept, ?_⟩
    intro m hm
    unfold storedItems at hm
    rw [storedItems_snapshot] at hm
    obtain ⟨x, hx, rfl⟩ := List.mem_map.mp hm
    exact .inr ⟨x, List.mem_append_left _ hx, rfl⟩
  | remember => exact grows_of_same rfl rfl rfl
  | cursor => exact grows_of_same rfl rfl rfl
  | reset => exact grows_of_same rfl rfl rfl

def StoreGrows (A : Json → Prop) (u v : Store) : Prop := Grows A (archive u) (archive v)

theorem brought_none (h : Brought .none m) : A m := by
  rcases h with ⟨arrives, -⟩ | ⟨_, _, _, _, arrives, -⟩
  · exact absurd arrives id
  · exact absurd arrives id

theorem grows_of_idle {α : Type} {m : Client Store α} {P : α → Store → Prop}
    (h : Traces (StoreStep .none) m s P) : Traces (StoreGrows A) m s P :=
  h.steps (fun _ _ step => (grows_of_move step.move).mono (fun _ => brought_none))

/-- The messages stay as they are, here and in the storage. -/
def Still (u v : Store) : Prop :=
  v.allMessages = u.allMessages ∧ v.pruned = u.pruned ∧ v.storage.messages = u.storage.messages

instance : Std.Refl Still := ⟨fun _ => ⟨rfl, rfl, rfl⟩⟩
instance : IsTrans Store Still := ⟨fun _ _ _ h k => ⟨k.1.trans h.1, k.2.1.trans h.2.1, k.2.2.trans h.2.2⟩⟩

theorem rememberSeenId_still (id : ℕ) : Within Still (rememberSeenId id) := by
  apply Within.bind .reads
  intro s
  apply Within.ite
  · refine Within.bind (.writes (fun _ => ⟨rfl, rfl, rfl⟩)) ?_
    intro _
    have stores : Within Still (storeCursor id) := by
      apply reply_within.bind
      intro r
      exact .ite (.bind (.writes (fun _ => ⟨rfl, rfl, rfl⟩)) (fun _ => .pure true)) (.pure false)
    exact stores.bind (fun _ => .pure ())
  · exact .pure ()

theorem grows_of_still {α : Type} {m : Client Store α} (h : Within Still m) (s : Store) :
    Traces (StoreGrows A) m s (fun _ _ => True) := by
  apply (h.step s).steps
  intro _ _ still
  exact grows_of_same still.1 still.2.1 still.2.2

theorem saveThenRemember_grows (id : ℕ) (s : Store) :
    Traces (StoreGrows A) (saveThenRemember id) s (fun _ _ => True) := by
  apply (grows_of_idle saveMessages_spec).bind
  intro saved u _ _
  exact .ite (fun _ => grows_of_still (rememberSeenId_still id) u) (fun _ => .pure trivial)

/-- The live messages that the store would take. -/
structure Accepted (s : Store) (msg : Json) : Prop where
  valid : validHistoryMessage msg = true
  mine : isMessageForMe s.userId msg = true
  fresh : hasId (numericId msg) s.allMessages = false

theorem push_grows (added : A msg) (s : Store) : StoreGrows A s (pushMessage msg s) := by
  refine ⟨?_, ?_, fun m hm => .inl hm⟩
  · intro m hm
    simp only [memory, archive, pushMessage, List.mem_append, List.mem_singleton] at hm ⊢
    rcases hm with (old | rfl) | dropped
    · exact .inl (.inl old)
    · exact .inr added
    · exact .inl (.inr dropped)
  · intro m hm
    simp only [memory, archive, pushMessage, List.mem_append] at hm ⊢
    tauto

theorem saveIncomingMessage_grows (msg : Json) (s : Store) :
    Traces (StoreGrows (fun m => m = msg ∧ Accepted s msg)) (saveIncomingMessage msg) s (fun _ _ => True) := by
  apply Traces.ite (fun _ => .pure trivial)
  intro hv
  have valid : validHistoryMessage msg = true := by simpa using hv
  apply Traces.bind (P := fun a u => a = s ∧ u = s) (.reads ⟨rfl, rfl⟩)
  intro a u _ h
  obtain ⟨rfl, rfl⟩ := h
  apply Traces.ite
  · intro _
    apply (saveThenRemember_grows (numericId msg) u).bind
    intro _ _ _ _
    exact .pure trivial
  · intro taken
    simp only [Bool.or_eq_true, Bool.not_eq_true', not_or, Bool.not_eq_false, Bool.not_eq_true] at taken
    have accepted : Accepted u msg := ⟨valid, taken.1, taken.2⟩
    apply Traces.bind (P := fun _ _ => True) (.writes (push_grows ⟨rfl, accepted⟩ u) trivial)
    intro _ v _ _
    apply (grows_of_idle (updateConversationFromMessage_spec msg)).bind
    intro _ x _ _
    apply (saveThenRemember_grows (numericId msg) x).bind
    intro _ y _ _
    apply (grows_of_idle saveConversations_spec).bind
    intro _ _ _ _
    exact .pure trivial

theorem handleChat_grows (msg : Json) (s : Store) :
    Traces (StoreGrows (fun m => m = msg ∧ Accepted s msg)) (handleChat msg) s (fun _ _ => True) := by
  apply (saveIncomingMessage_grows msg s).bind
  intro saved u _ _
  apply Traces.ite
  · intro _
    obtain ⟨same, recovery⟩ := openNewGroup_archive msg u
    exact (grows_of_idle (writeThenRender same recovery (fun _ => renderLast_spec))).post (fun _ _ _ _ => trivial)
  · intro _
    exact .pure trivial

/-- The frame is a recovery response, and `c` is the message in it. -/
def Recovers (e : Event) (c : Json) : Prop := ∃ s msg, e = .socketMessage s (some msg) ∧
  isText "historyResponse" (msg.lastMember "type") = true ∧ msg.lastMember "message" = some c

/-- The event brings `msg` live, and the page stores it as it is. -/
structure Stores (e : Event) (w : Page) (msg : Json) : Prop where
  frame : ∃ s, e = .socketMessage s (some msg) ∧ w.link.ws = some s
  accepted : Accepted w.store msg

/-- What an event adds to the messages: a live message, or what is made of a recovered one. -/
def Adds (e : Event) (w : Page) (m : Json) : Prop :=
  Stores e w m ∨ ∃ users c source now, Recovers e c ∧ m = recoveredMessagePayload users c source now

/-- A chat message on the current socket goes to the store. -/
theorem onmessage_chat {Rel : Store → Store → Prop} (self : ∀ s, Rel s s) (current : w.link.ws = some s')
    (valid : validHistoryMessage msg = true) (handled : Traces Rel (handleChat msg) w.store (fun _ _ => True)) :
    Traces (fun u v : Page => Rel u.store v.store) (onmessage s' (some msg)) w (fun _ _ => True) := by
  have chat := chat_of_valid valid
  have aside : ∀ {u : Page} (f : Link → Link), Traces (fun u v : Page => Rel u.store v.store) (setLink f) u
      (fun _ v => v.store = u.store) :=
    fun f => .writes (self _) rfl
  apply Traces.bind (P := fun l u => l = w.link ∧ u = w) (.reads ⟨rfl, rfl⟩)
  intro l u _ h
  obtain ⟨rfl, rfl⟩ := h
  apply Traces.ite (fun stale => absurd current stale)
  intro _
  apply (aside _).bind
  intro _ v _ hv
  rw [handleIncoming_summarized (summary_of_valid valid)]
  apply (aside _).bind
  intro _ x _ hx
  rw [if_neg (chat_type chat (by decide) (by decide)), if_neg (chat_type chat (by decide) (by decide)),
    if_neg (chat_type chat (by decide) (by decide)), if_neg (chat_type chat (by decide) (by decide)),
    if_neg (chat_type chat (by decide) (by decide)), if_neg (chat_type chat (by decide) (by decide)), if_pos chat]
  have here : x.store = u.store := hx.trans hv
  rw [← here] at handled
  apply (Traces.zoom (fun _ _ => rfl) (fun _ => rfl) handled (fun _ _ step => step)).post
  intro _ _ _ _
  trivial

theorem grows_of_path {S : Type} (archiveOf : S → Archive) {Step : S → S → Prop} {x y : S}
    (steps : ∀ u v, Step u v → Grows A (archiveOf u) (archiveOf v)) (path : ReflTransGen Step x y) :
    Grows A (archiveOf x) (archiveOf y) := by
  induction path with
  | refl => exact .refl
  | tail _ step ih => exact ih.trans (steps _ _ step)

/-- Whatever an event does, and wherever it is cut short, it only adds what it stores. -/
theorem handle_grows (e : Event) (env : ℕ → Reply) (w : Page) :
    Grows (Adds e w) (archive w.store) (archive (handle e env w).world.store) := by
  by_cases live : ∃ s msg, e = .socketMessage s (some msg) ∧ validHistoryMessage msg = true
  · obtain ⟨s, msg, rfl, valid⟩ := live
    by_cases current : w.link.ws = some s
    · have path := ((onmessage_chat (fun _ => .refl) current valid (handleChat_grows msg w.store)) env).1
      apply (grows_of_path (fun w : Page => archive w.store) (fun _ _ step => step) path).mono
      intro m hm
      obtain ⟨rfl, accepted⟩ := hm
      exact .inl ⟨⟨s, rfl, current⟩, accepted⟩
    · have idle : handle (.socketMessage s (some msg)) env w = ⟨some (), w, env⟩ := onmessage_stale current _
      rw [idle]
      exact .refl
  · have path := (handle_good (p := True) e (w := w) env).1
    apply (grows_of_path (fun w : Page => archive w.store)
      (fun _ _ step => grows_of_move step.store.move) path).mono
    intro m hm
    cases e with
    | socketMessage s frame =>
      cases hm with
      | inl chat =>
        obtain ⟨⟨arrives, -⟩, valid⟩ := chat
        exact absurd ⟨s, m, by rw [arrives], valid⟩ live
      | inr recovered =>
        obtain ⟨users, c, source, now, ⟨msg, arrives, response, candidate⟩, same⟩ := recovered
        exact .inr ⟨users, c, source, now, ⟨s, msg, by rw [arrives], response, candidate⟩, same⟩
    | _ => exact brought_none hm

/-- What the event, which brings a recovery response, has added to the messages. -/
def ImportedBy (e : Event) (before after : Page) (m : Json) : Prop :=
  (∃ c, Recovers e c) ∧ m ∈ memory (archive after.store) ∧ m ∉ memory (archive before.store)

/-- `imported` collects what recovery responses have added, over all pages of a tab that finds
    no messages at first. -/
inductive Run (location : Location) (permits : Event → Page → Prop) : Tab → (Json → Prop) → Prop where
  | start (storage : LocalStorage) (empty : itemsOf storage.messages = []) :
      Run location permits ⟨⟨freshStore storage [], freshLink location⟩, false⟩ (fun _ => False)
  | load (env : ℕ → Reply) (t : Tab) (imported : Json → Prop) (before : Run location permits t imported) :
      Run location permits (load location env t) imported
  | step (e : Event) (env : ℕ → Reply) (t : Tab) (imported : Json → Prop) (before : Run location permits t imported)
      (permitted : permits e t.page) :
      Run location permits (step e env t) (fun m => imported m ∨ ImportedBy e t.page (step e env t).page m)

/-- The message was imported, or is what an imported message reads as once it was stored. -/
def Descends (imported : Json → Prop) (m : Json) : Prop := ∃ y, imported y ∧ (m = y ∨ m = stringified y)

/-- Of a live message that is stored the label is missing or false. -/
def Unlabelled (e : Event) (w : Page) : Prop := ∀ msg, Stores e w msg → isRecovered msg = false

/-- Every label of the list stands for an import. -/
def Attributed (imported : Json → Prop) (ms : List Json) : Prop :=
  ∀ m ∈ ms, isRecovered m = true → Descends imported m

variable {imported imported' : Json → Prop}

theorem Descends.mono (h : Descends imported m) (more : ∀ y, imported y → imported' y) : Descends imported' m := by
  obtain ⟨y, hy, same⟩ := h
  exact ⟨y, more y hy, same⟩

theorem Descends.stringified (h : Descends imported m) : Descends imported (stringified m) := by
  obtain ⟨y, hy, same⟩ := h
  refine ⟨y, hy, .inr ?_⟩
  cases same with
  | inl same => rw [same]
  | inr same => rw [same, stringified_twice]

/-- The durable part is what is in the storage, or was dropped. -/
structure RunLaw (t : Tab) (imported : Json → Prop) : Prop where
  marked : ∀ y, imported y → y.lastMember "recovered" = some (.bool true)
  durable : Attributed imported (t.page.store.pruned ++ storedItems (archive t.page.store))
  memory : t.running = true → Attributed imported (memory (archive t.page.store))

theorem stores_valid (h : Stores e w m) : ∃ s, e = .socketMessage s (some m) ∧
    (isText "text" (m.lastMember "type") || isText "newGroup" (m.lastMember "type")) = true := by
  obtain ⟨s, frame, -⟩ := h.frame
  exact ⟨s, frame, chat_of_valid h.accepted.valid⟩

theorem stores_or_recovers (stores : Stores e w m) {c : Json} (recovers : Recovers e c) : False := by
  obtain ⟨s, frame, chat⟩ := stores_valid stores
  obtain ⟨s', msg, frame', response, -⟩ := recovers
  rw [frame] at frame'
  cases frame'
  exact chat_type chat (by decide) (by decide) response

theorem step_law (law : RunLaw t imported) (unlabelled : Unlabelled e t.page) (env : ℕ → Reply) :
    RunLaw (step e env t) (fun m => imported m ∨ ImportedBy e t.page (step e env t).page m) := by
  have more : ∀ y, imported y → imported y ∨ ImportedBy e t.page (step e env t).page y := fun _ h => .inl h
  unfold ClientSocket.step at more ⊢
  split_ifs at more ⊢ with running
  · have grows := handle_grows e env t.page
    have before := law.memory running
    have world : (Tab.exec (handle e) env t.page).page = (handle e env t.page).world := rfl
    rw [world] at more ⊢
    have memory : Attributed (fun m => imported m ∨ ImportedBy e t.page (handle e env t.page).world m)
        (StoreSteps.memory (archive (handle e env t.page).world.store)) := by
      intro m hm label
      by_cases old : m ∈ StoreSteps.memory (archive t.page.store)
      · exact (before m old label).mono more
      · cases (grows.memory m hm).resolve_left old with
        | inl stores =>
          rw [unlabelled m stores] at label
          cases label
        | inr recovered =>
          obtain ⟨users, c, source, now, recovers, -⟩ := recovered
          exact ⟨m, .inr ⟨⟨c, recovers⟩, hm, old⟩, .inl rfl⟩
    refine ⟨?_, ?_, fun _ => memory⟩
    · intro y hy
      rcases hy with old | ⟨⟨c, recovers⟩, after, new⟩
      · exact law.marked y old
      · cases (grows.memory y after).resolve_left new with
        | inl stores => exact (stores_or_recovers stores recovers).elim
        | inr recovered =>
          obtain ⟨users, c, source, now, -, rfl⟩ := recovered
          exact recoveredMessagePayload_recovered users c source now
    · intro m hm label
      cases List.mem_append.mp hm with
      | inl pruned => exact memory m (List.mem_append_right _ pruned) label
      | inr written =>
        cases grows.stored m written with
        | inl old => exact (law.durable m (List.mem_append_right _ old) label).mono more
        | inr saved =>
          obtain ⟨x, hx, rfl⟩ := saved
          exact (memory x hx (isRecovered_stringified label)).stringified
  · refine ⟨?_, ?_, fun h => absurd h running⟩
    · intro y hy
      rcases hy with old | ⟨-, after, new⟩
      · exact law.marked y old
      · exact absurd after new
    · intro m hm label
      exact (law.durable m hm label).mono more

theorem load_law (law : RunLaw t imported) (location : Location) (env : ℕ → Reply) :
    RunLaw (load location env t) imported := by
  have same : ∀ {b : Archive}, SameSaved (archive t.page.store) b → b.pruned ++ storedItems b =
      t.page.store.pruned ++ storedItems (archive t.page.store) := by
    intro b h
    unfold storedItems
    rw [h.pruned, h.messages]
    rfl
  have loads := load_good (K := fun b => Attributed imported (b.pruned ++ storedItems b))
    (L := fun b => Attributed imported (memory b) ∧ Attributed imported (storedItems b)) (p := True) location env t
    ?_ ?_ ?_ ?_
  · exact ⟨law.marked, loads.1, fun running => (loads.2 running).1.1⟩
  · intro b h
    rw [same h]
    exact law.durable
  · intro b h
    have durable : Attributed imported (b.pruned ++ storedItems b) := by
      rw [same h]
      exact law.durable
    refine ⟨?_, fun m hm => durable m (List.mem_append_right _ hm)⟩
    intro m hm
    cases List.mem_append.mp hm with
    | inl saved => exact durable m (List.mem_append_right _ (List.mem_of_mem_filter saved))
    | inr pruned => exact durable m (List.mem_append_left _ pruned)
  · intro a b move h
    have grows := grows_of_move move
    have memory : Attributed imported (StoreSteps.memory b) := by
      intro m hm
      cases grows.memory m hm with
      | inl old => exact h.1 m old
      | inr brought => exact brought_none (A := fun m => isRecovered m = true → Descends imported m) brought
    refine ⟨memory, ?_⟩
    intro m hm label
    cases grows.stored m hm with
    | inl old => exact h.2 m old label
    | inr saved =>
      obtain ⟨x, hx, rfl⟩ := saved
      exact (memory x hx (isRecovered_stringified label)).stringified
  · intro b h m hm
    cases List.mem_append.mp hm with
    | inl pruned => exact h.1 m (List.mem_append_right _ pruned)
    | inr saved => exact h.2 m saved

theorem run_law (run : Run location Unlabelled t imported) : RunLaw t imported := by
  induction run with
  | start storage empty =>
    refine ⟨fun _ none => none.elim, ?_, (fun e => nomatch e)⟩
    intro m hm
    have nothing : itemsOf storage.messages = [] := empty
    have member : m ∈ [] ++ itemsOf storage.messages := hm
    rw [nothing] at member
    cases member
  | load env t imported _ ih => exact load_law ih location env
  | step e env t imported _ permitted ih => exact step_law ih permitted env

theorem label_of_descends (law : RunLaw t imported) (h : Descends imported m) : isRecovered m = true := by
  obtain ⟨y, hy, same⟩ := h
  have marked := law.marked y hy
  unfold isRecovered
  cases same with
  | inl same =>
    rw [same, marked]
    rfl
  | inr same =>
    rw [same, lastMember_stringified, marked]
    rfl

/-- For as long as no live message that is stored brings the label along, the messages with
    the label are exactly the imported ones, in a page and in what it leaves to the next one. -/
theorem labels_trusted (location : Location) :
    (∀ t imported, Run location Unlabelled t imported → t.running = true →
      ∀ m ∈ t.page.store.allMessages, isRecovered m = true ↔ Descends imported m) ∧
    ∀ t imported, Run location Unlabelled t imported →
      ∀ m ∈ itemsOf t.page.store.storage.messages, isRecovered m = true ↔ Descends imported m := by
  constructor
  · intro t imported run running m hm
    have law := run_law run
    exact ⟨law.memory running m (List.mem_append_left _ hm), label_of_descends law⟩
  · intro t imported run m hm
    have law := run_law run
    exact ⟨law.durable m (List.mem_append_right _ hm), label_of_descends law⟩

open Agreement (storing stored_of_storing knows_parsed)
open ResponseLimit (field quoted braces)

/-- A chat message that the page receives is one that the server has stored. -/
def Served (cfg : ServerWorld.Config) (cJSONParse : JsonGate.CJSONParse) (e : Event) (_ : Page) : Prop :=
  ∀ s msg, e = .socketMessage s (some msg) →
    (isText "text" (msg.lastMember "type") || isText "newGroup" (msg.lastMember "type")) = true →
    ∃ m, Agreement.Stored cfg cJSONParse m ∧ msg = m.payload

def forgedText : List Char := braces [field "type" (quoted "text".toList), field "from" (quoted "mallory".toList),
  field "name" (quoted "Mallory".toList), field "to" (braces [field "all" "true".toList]),
  field "data" (quoted "hi".toList), field "recovered" "true".toList]

def forgedRoot : Json := .obj [("type", .str "text"), ("from", .str "mallory"), ("name", .str "Mallory"),
  ("to", .obj [("all", .bool true)]), ("data", .str "hi"), ("recovered", .bool true)]

def forgedParse : JsonGate.CJSONParse := Agreement.knows (Utf8Texts.encoded forgedText) forgedRoot

set_option maxRecDepth 100000 in
theorem forgedText_parsed : JsonGate.chatJsonParseObject forgedParse (Utf8Texts.encoded forgedText) = some forgedRoot :=
  knows_parsed (by decide +kernel) (by decide +kernel) (by decide) rfl

def forgedMessage : Option ServerWorld.Message := (storing (ServerWorld.Config.default CjsonPrinter.fifteenDigits) "text" forgedRoot).head?

def forged : Json := (forgedMessage.map ServerWorld.Message.payload).getD .null

def forgedReply : Reply := ⟨false, true, true, true, 0, 0, "bob"⟩

def emptyStorage : LocalStorage := ⟨none, none, none, none, none, none⟩

def forgedTab (location : Location) : Tab :=
  step (.socketMessage 0 (some forged)) (fun _ => forgedReply) (step (.socketOpen 0) (fun _ => forgedReply)
    (step .callConnect (fun _ => forgedReply) (load location (fun _ => forgedReply)
      ⟨⟨freshStore emptyStorage [], freshLink location⟩, false⟩)))

theorem forged_served : forgedMessage.isSome = true ∧ isText "text" (forged.lastMember "type") = true := by
  decide +kernel

theorem forged_stored : (forgedTab ⟨false, "esp"⟩).running = true ∧
    (forgedTab ⟨false, "esp"⟩).page.store.allMessages.any isRecovered = true := by
  decide +kernel

theorem not_imported {before after : Page} (live : ∀ c, ¬Recovers e c) : ¬ImportedBy e before after m :=
  fun h => h.1.elim live

theorem forged_run : ∃ imported, Run ⟨false, "esp"⟩ (Served (ServerWorld.Config.default CjsonPrinter.fifteenDigits) forgedParse)
    (forgedTab ⟨false, "esp"⟩) imported ∧ ∀ m, ¬imported m := by
  obtain ⟨message, kept⟩ := Option.isSome_iff_exists.mp forged_served.1
  have payload : forged = message.payload := by
    unfold forged
    rw [kept]
    rfl
  have stored : Agreement.Stored (ServerWorld.Config.default CjsonPrinter.fifteenDigits) forgedParse message :=
    stored_of_storing forgedText_parsed rfl (List.mem_of_mem_head? kept)
  have served : ∀ w, Served (ServerWorld.Config.default CjsonPrinter.fifteenDigits) forgedParse (.socketMessage 0 (some forged)) w := by
    intro w s msg e _
    cases e
    exact ⟨message, stored, payload⟩
  refine ⟨_, .step _ _ _ _ (.step _ _ _ _ (.step _ _ _ _ (.load _ _ _ (.start emptyStorage rfl))
    (fun _ _ e => nomatch e)) (fun _ _ e => nomatch e)) (served _), ?_⟩
  intro m
  rintro (((none | first) | second) | third)
  · exact none
  · exact not_imported (fun _ ⟨_, _, frame, _⟩ => nomatch frame) first
  · exact not_imported (fun _ ⟨_, _, frame, _⟩ => nomatch frame) second
  · apply not_imported _ third
    intro c recovers
    obtain ⟨s, msg, frame, response, -⟩ := recovers
    cases frame
    have chat := forged_served.2
    simp only [isText, beq_iff_eq] at chat response
    rw [chat] at response
    exact absurd (Option.some.inj response) (by decide)

/-- The server passes the label on, and the page takes the message for a recovered one. -/
theorem label_forged : ¬∀ location t imported, Run location (Served (ServerWorld.Config.default CjsonPrinter.fifteenDigits) forgedParse) t imported →
    t.running = true → ∀ m ∈ t.page.store.allMessages, isRecovered m = true ↔ Descends imported m := by
  intro trusted
  obtain ⟨imported, run, none⟩ := forged_run
  obtain ⟨m, hm, label⟩ := List.any_eq_true.mp forged_stored.2
  obtain ⟨y, hy, -⟩ := (trusted _ _ _ run forged_stored.1 m hm).mp label
  exact none y hy

end EspWebChat.Provenance
