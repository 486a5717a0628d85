import EspWebChat.JoinReplays
import EspWebChat.ResponseLimit
import EspWebChat.TabFeeds

set_option autoImplicit false

/-!
# A tab and its server

One tab and the node, with the frames in flight on the connection of the tab's current socket.
Messages are stored and broadcast, the node restarts, the tab connects, joins with its cursor
and gets the frames in order, and the connection breaks with what is in flight, in any order.
-/
namespace EspWebChat.SynchronizedRuns
open JsonTree JsValues ClientMessages Interruptible ServerWorld History JsonGate Protocol WebSocketServer
open NodeSteps MessageIds SlotInvariant Deliveries RecoveryBoundary FrameReadings ResumableFeeds ConnectionFeeds
open ServedEvents JoinReplays TabFeeds
open ReplayCursor (RunLaw)
open ReplayLaw (Setting)
open StoreSteps (archive)
open TabRuns (running_before)
open ClientSocket (Tab readyState)
open BrowserWorld (Page Link)

/-- The connection of a socket: the descriptor the node knows it by, while it does, the join the
    node has not handled yet, and the frames the tab has not got yet. -/
structure Connection where
  socket : ℕ
  fd : Option ℤ
  joining : Option Json
  frames : List Json

/-- `missed` collects the ids that have left the ring before a join that asks for them. -/
structure Network (cfg : Config) where
  node : Node cfg
  tab : Tab
  connection : Option Connection
  missed : List ℕ

variable {cfg : Config} {cJSONParse : CJSONParse} {flash : InitialFlash} {b : Browser}

/-- What an event of the node does to a connection. -/
def Connection.follow (c : Connection) (s s' : Node cfg) : Connection :=
  { c with
    fd := c.fd.filter (fun f => decide (f ∈ s'.openFds))
    frames := c.frames ++ arrivals c.fd (since s.world s'.world) }

def firstSent (u v : Page) : Option Json := (v.link.sent[u.link.sent.length]?).map Prod.snd

def Network.own (N : Network cfg) : Option ℤ := N.connection.bind Connection.fd

/-- The node sees an event. -/
def Network.serve (cJSONParse : CJSONParse) (e : Event) (N : Network cfg) : Network cfg :=
  { N with
    node := step cJSONParse N.node e
    connection := N.connection.map (fun c => c.follow N.node (step cJSONParse N.node e)) }

/-- The node accepts a session for the socket, which opens. -/
def Network.accept (cJSONParse : CJSONParse) (s f : ℕ) (shake : ℕ → Reply) (env : ℕ → BrowserWorld.Reply)
    (N : Network cfg) : Network cfg :=
  let node := run cJSONParse N.node [.openSession f, .handshake f shake]
  let tab := ClientSocket.step (.socketOpen s) env N.tab
  { N with
    node := node
    tab := tab
    connection := some ⟨s, some f, firstSent N.tab.page tab.page, arrivals (some f) (since N.node.world node.world)⟩ }

/-- The node handles the frame in which the join has arrived. -/
def Network.join (cJSONParse : CJSONParse) (c : Connection) (f : ℤ) (root : Json) (frame : Frame) (env : ℕ → Reply)
    (N : Network cfg) : Network cfg :=
  let node := step cJSONParse N.node (.frame f frame env)
  { N with
    node := node
    connection := some { c.follow N.node node with joining := none }
    missed := N.missed ++ left N.node.world ((chatHistoryParseSinceId root).getD 0) }

/-- Anything but the current socket opening or getting a frame. -/
def Alone (e : ClientSocket.Event) (l : Link) : Prop :=
  match e with
  | .socketOpen s => l.ws ≠ some s
  | .socketMessage s _ => l.ws ≠ some s
  | _ => True

inductive Reached (cJSONParse : CJSONParse) (flash : InitialFlash) (b : Browser) : Network cfg → Prop where
  | start (events : List Event) : Reached cJSONParse flash b ⟨run cJSONParse (Node.initial flash) events, b.tab, none, []⟩
  | serves (e : Event) (N : Network cfg) (before : Reached cJSONParse flash b N)
      (serving : Serving cfg cJSONParse N.own e) : Reached cJSONParse flash b (N.serve cJSONParse e)
  | opens (s f : ℕ) (shake : ℕ → Reply) (env : ℕ → BrowserWorld.Reply) (N : Network cfg)
      (before : Reached cJSONParse flash b N) (powered : N.node.powered = true) (free : (f : ℤ) ∉ N.node.openFds)
      (current : N.tab.page.link.ws = some s) (connecting : readyState N.tab.page.link s = .connecting) :
      Reached cJSONParse flash b (N.accept cJSONParse s f shake env)
  | joins (c : Connection) (f : ℤ) (root : Json) (frame : Frame) (env : ℕ → Reply) (N : Network cfg)
      (before : Reached cJSONParse flash b N) (there : N.connection = some c) (known : c.fd = some f)
      (pending : c.joining = some root) (served : N.node.serves f) (carries : Carries cfg cJSONParse frame root) :
      Reached cJSONParse flash b (N.join cJSONParse c f root frame env)
  | delivers (c : Connection) (p : Json) (rest : List Json) (env : ℕ → BrowserWorld.Reply) (N : Network cfg)
      (before : Reached cJSONParse flash b N) (there : N.connection = some c) (next : c.frames = p :: rest)
      (current : N.tab.page.link.ws = some c.socket) :
      Reached cJSONParse flash b { N with
        tab := ClientSocket.step (.socketMessage c.socket (some p)) env N.tab
        connection := some { c with frames := rest } }
  | breaks (N : Network cfg) (before : Reached cJSONParse flash b N) :
      Reached cJSONParse flash b { N with connection := none }
  | acts (e : ClientSocket.Event) (env : ℕ → BrowserWorld.Reply) (N : Network cfg) (before : Reached cJSONParse flash b N)
      (alone : Alone e N.tab.page.link) :
      Reached cJSONParse flash b { N with tab := ClientSocket.step e env N.tab }

variable {w u : World cfg} {N : Network cfg}

theorem run_grown (cJSONParse : CJSONParse) (s : Node cfg) (events : List Event) :
    ∃ new, (run cJSONParse s events).world.trace = s.world.trace ++ new := by
  refine run_invariant cJSONParse (fun u => ∃ new, u.trace = s.world.trace ++ new) ?_ ?_ s ⟨[], (List.append_nil _).symm⟩ events
  · intro u e grown
    obtain ⟨new, grown⟩ := grown
    cases e with
    | powerOn env => exact ⟨new ++ [.booted], by rw [← List.append_assoc, ← grown]; rfl⟩
    | _ => exact ⟨new, grown⟩
  · intro u e v a grown _
    obtain ⟨new, grown⟩ := grown
    obtain ⟨more, grown'⟩ := ServerSteps.act_trace a v
    exact ⟨new ++ more, by rw [grown', grown, List.append_assoc]⟩

/-- A stored payload carries its id as it is printed. -/
def Numbered (w : World cfg) : Prop :=
  ∀ m, .stored m ∈ w.trace → m.payload.lastMember "id" = some (.num (cfg.printer.read m.id))

theorem Numbered.act {a : ServerSteps.Action} (h : Numbered u) (permitted : chatSteps cfg u a) :
    Numbered (ServerSteps.act a u) := by
  obtain ⟨new, grown, -, stored, -⟩ := ServerSteps.act_events a u
  intro m hm
  rw [grown] at hm
  cases List.mem_append.mp hm with
  | inl old => exact h m old
  | inr here =>
    obtain rfl := stored m here
    obtain ⟨-, -, root, timestamp, chat, payload⟩ := chatSteps_store permitted
    obtain ⟨type, -, typed⟩ := chat
    rw [payload, cfg.printer.printed_lastMember, RingStore.finalized_id (isObject_of_member typed)]
    rfl

theorem Numbered.entry (h : Numbered w) (e : Event) : Numbered (entry w e) := by
  cases e with
  | powerOn env =>
    intro m hm
    cases List.mem_append.mp hm with
    | inl old => exact h m old
    | inr here => cases List.mem_singleton.mp here
  | _ => exact h

theorem numbered_run (cJSONParse : CJSONParse) (flash : InitialFlash) (events : List Event) :
    Numbered (run cJSONParse (Node.initial flash : Node cfg) events).world :=
  run_invariant cJSONParse Numbered (fun _ e h => h.entry e)
    (fun w e u a hu ha => hu.act (eventStep_chatSteps cJSONParse w e u a ha)) _ (fun _ hm => absurd hm List.not_mem_nil) events

theorem lawful_run (cJSONParse : CJSONParse) (flash : InitialFlash) (events : List Event) :
    Lawful (run cJSONParse (Node.initial flash : Node cfg) events).world :=
  ⟨idInvariant_run cJSONParse flash events, ringInvariant_run cJSONParse flash events, ringOfChat_run cJSONParse flash events⟩

theorem numericId_natJson {m : Json} {n : ℕ} (id : m.lastMember "id" = some (natJson n)) (positive : 1 ≤ n)
    (safe : n ≤ maxSafeInteger) : numericId m = n := by
  have number : numberOfMember (some (natJson n)) = .fin n := rfl
  have above : decide (0 < n) = true := decide_eq_true positive
  unfold numericId messageId
  rw [id, number, WrittenMessages.safeNat_nat safe, Option.filter_some, if_pos above]
  rfl

/-- Every stored id is read back from the payload it was printed in. -/
def KeptIds (w : World cfg) : Prop := ∀ m, .stored m ∈ w.trace → cfg.printer.Keeps m.id

theorem log_run (cJSONParse : CJSONParse) (flash : InitialFlash) (events : List Event)
    (kept : KeptIds (run cJSONParse (Node.initial flash : Node cfg) events).world)
    (valid : ∀ m, .stored m ∈ (run cJSONParse (Node.initial flash : Node cfg) events).world.trace →
      validHistoryMessage m.payload = true) :
    Log (run cJSONParse (Node.initial flash : Node cfg) events).world.trace := by
  have ids : IdInvariant (run cJSONParse (Node.initial flash : Node cfg) events).world := idInvariant_run cJSONParse flash events
  refine ⟨ids.increasing, ids.positive, ?_, valid⟩
  intro m hm
  have known := stored_mem_ids hm
  have printed := numbered_run cJSONParse flash events m hm
  rw [kept m hm] at printed
  exact numericId_natJson printed (ids.positive m.id known) (Nat.le_trans (ids.storedFlash m.id known) ids.safeFlash)

variable {c : Connection} {missed : List ℕ} {n : ℕ} {s s' : Node cfg} {fd : Option ℤ}

/-- The connection has joined behind `n`, or is about to. -/
structure Attached (s : Node cfg) (missed : List ℕ) (n : ℕ) (c : Connection) : Prop where
  positive : ∀ f ∈ c.fd, 0 ≤ f
  fed : Fed c.fd missed n c.frames (s.powered = true) s.world
  pending : ∀ root, c.joining = some root → JoinRequest root n ∧ (∀ p ∈ c.frames, Aside p) ∧ ¬Hears c.fd s.world

theorem hears_filter {q : ℤ → Bool} (h : Hears (fd.filter q) w) : Hears fd w := by
  obtain ⟨i, receiving, goes⟩ := h
  exact ⟨i, receiving, (Option.filter_eq_some_iff.mp goes).1⟩

theorem fed_filter {frames : List Json} {live : Prop} (q : ℤ → Bool) (h : Fed fd missed n frames live w) :
    Fed (fd.filter q) missed n frames live w := by
  obtain ⟨k, feed, complete⟩ := h
  exact ⟨k, feed, fun on hears => complete on (hears_filter hears)⟩

theorem Attached.follow (h : Attached s missed n c)
    (serves : Serves c.fd (s.powered = true) (s'.powered = true) s.world s'.world)
    (known : ∀ id ∈ missed, id ∈ storedIds s.world.trace) : Attached s' missed n (c.follow s s') := by
  refine ⟨?_, fed_filter _ (serves.feeds missed n c.frames known h.fed), ?_⟩
  · intro f hf
    exact h.positive f (Option.filter_eq_some_iff.mp hf).1
  · intro root pending
    obtain ⟨request, aside, unheard⟩ := h.pending root pending
    obtain ⟨still, more⟩ := serves.still unheard
    refine ⟨request, ?_, fun hears => still (hears_filter hears)⟩
    intro p hp
    cases List.mem_append.mp hp with
    | inl old => exact aside p old
    | inr here => exact more p here

theorem unheard_of_free {f : ℤ} (sound : Sound s) (free : f ∉ s.openFds) : ¬Hears (some f) s.world := by
  intro hears
  obtain ⟨i, receiving, goes⟩ := hears
  have active : (s.world.ctx.clientSlots i).active = true := by
    unfold ClientSlots.receives at receiving
    simp only [Bool.and_eq_true] at receiving
    exact receiving.1.1
  apply free
  rw [Option.some.inj goes]
  exact sound.isOpen i active

theorem descriptor_positive (f : ℕ) : ∀ g ∈ some (f : ℤ), 0 ≤ g := by
  intro g hg
  obtain rfl := Option.some.inj hg
  exact Int.natCast_nonneg f

theorem accept_serves (cJSONParse : CJSONParse) (lawful : Lawful s.world) (f : ℕ) (shake : ℕ → Reply) :
    Serves (some (f : ℤ)) (s.powered = true) ((run cJSONParse s [.openSession f, .handshake f shake]).powered = true)
      s.world (run cJSONParse s [.openSession f, .handshake f shake]).world := by
  have positive := descriptor_positive f
  have opened : (step cJSONParse s (.openSession f)).world = s.world := by
    by_cases free : s.powered = true ∧ (f : ℤ) ∉ s.openFds
    · simp only [step, if_pos free]
    · simp only [step, if_neg free]
  have first := step_serves cJSONParse (e := .openSession f) lawful positive trivial
  have second := step_serves cJSONParse (s := step cJSONParse s (.openSession f)) (e := .handshake f shake)
    (opened.symm ▸ lawful) positive trivial
  exact first.trans second

theorem firstSent_requests {u v : Page} (h : Requests n u v) {root : Json} (found : firstSent u v = some root) :
    JoinRequest root n := by
  unfold firstSent at found
  cases h with
  | inl silent =>
    rw [silent, List.getElem?_eq_none (Nat.le_refl _)] at found
    cases found
  | inr sent =>
    obtain ⟨s, root', request, sent⟩ := sent
    rw [sent, List.getElem?_append_right (Nat.le_refl _), Nat.sub_self] at found
    obtain rfl := Option.some.inj found
    exact request

theorem step_requests {t : Tab} {k : ℕ} {env : ℕ → BrowserWorld.Reply} (once : TabOnce t) :
    Requests t.page.store.lastSeenId t.page (ClientSocket.step (.socketOpen k) env t).page := by
  unfold ClientSocket.step
  split_ifs with running
  · exact (socketOpened_requests k (once.page running).cursor).run env
  · exact .inl rfl

theorem attached_accept {t : Tab} {k f : ℕ} {shake : ℕ → Reply} {env : ℕ → BrowserWorld.Reply} (lawful : Lawful s.world)
    (sound : Sound s) (free : (f : ℤ) ∉ s.openFds) (once : TabOnce t)
    (known : ∀ id ∈ missed, id ∈ storedIds s.world.trace) :
    Attached (run cJSONParse s [.openSession f, .handshake f shake]) missed t.page.store.lastSeenId
      ⟨k, some f, firstSent t.page (ClientSocket.step (.socketOpen k) env t).page,
        arrivals (some f) (since s.world (run cJSONParse s [.openSession f, .handshake f shake]).world)⟩ := by
  have unheard := unheard_of_free sound free
  have serves := accept_serves cJSONParse lawful f shake
  obtain ⟨still, aside⟩ := serves.still unheard
  refine ⟨descriptor_positive f, ?_, ?_⟩
  · exact serves.feeds missed _ [] known ⟨_, .done _, fun _ hears => absurd hears unheard⟩
  · exact fun root pending => ⟨firstSent_requests (step_requests once) pending, aside, still⟩

/-- The join is handled: the connection misses what has left the ring. -/
theorem attached_join {f : ℤ} {root : Json} {frame : Frame} {env : ℕ → Reply} (h : Attached s missed n c)
    (lawful : Lawful s.world) (missing : Missing missed s.world) (known : c.fd = some f) (pending : c.joining = some root)
    (served : s.serves f) (carries : Carries cfg cJSONParse frame root) :
    Attached (step cJSONParse s (.frame f frame env)) (missed ++ left s.world ((chatHistoryParseSinceId root).getD 0)) n
      { c.follow s (step cJSONParse s (.frame f frame env)) with joining := none } := by
  obtain ⟨request, aside, unheard⟩ := h.pending root pending
  rw [known] at unheard
  have handled : step cJSONParse s (.frame f frame env) = s.exec (chatWsHandler cJSONParse f frame) env := if_pos served
  rw [handled, request.since]
  generalize after : s.exec (chatWsHandler cJSONParse f frame) env = s'
  have joining : ∃ ms, Joins f n (s'.powered = true ∧ Hears (some f) s'.world) s.world s'.world ms := by
    rw [← after]
    exact (chatWsHandler_joins carries request.typed request.since (h.positive f known) lawful unheard).run env
  obtain ⟨ms, joins⟩ := joining
  have fed : Fed c.fd (missed ++ left s.world n) n (c.frames ++ arrivals c.fd (since s.world s'.world))
      (s'.powered = true) s'.world := by
    rw [known]
    exact joins.fed lawful missing aside (fun on hears => ⟨on, hears⟩)
  refine ⟨?_, fed_filter _ fed, ?_⟩
  · intro g hg
    exact h.positive g (Option.filter_eq_some_iff.mp hg).1
  · intro root' none
    cases none

/-- What holds of both sides apart. -/
structure Standing (cJSONParse : CJSONParse) (flash : InitialFlash) (b : Browser) (N : Network cfg) : Prop where
  events : ∃ events, N.node = run cJSONParse (Node.initial flash) events
  missing : Missing N.missed N.node.world
  once : TabOnce N.tab
  alive : N.tab.running = true → b.tab.running = true

theorem lawful_of_run (h : ∃ events, s = run cJSONParse (Node.initial flash) events) : Lawful s.world := by
  obtain ⟨events, rfl⟩ := h
  exact lawful_run cJSONParse flash events

theorem Standing.lawful (h : Standing cJSONParse flash b N) : Lawful N.node.world := lawful_of_run h.events

theorem Standing.sound (h : Standing cJSONParse flash b N) : Sound N.node := by
  obtain ⟨events, same⟩ := h.events
  rw [same]
  exact sound_run cJSONParse flash events

theorem more_events (h : ∃ events, s = run cJSONParse (Node.initial flash) events) (later : List Event) :
    ∃ events, run cJSONParse s later = run cJSONParse (Node.initial flash) events := by
  obtain ⟨events, rfl⟩ := h
  exact ⟨events ++ later, (run_append cJSONParse _ events later).symm⟩

theorem missing_run (later : List Event) (h : ∃ events, s = run cJSONParse (Node.initial flash) events)
    (missing : Missing missed s.world) : Missing missed (run cJSONParse s later).world := by
  induction later generalizing s with
  | nil => exact missing
  | cons e later ih => exact ih (more_events h [e]) (missing_step cJSONParse e (lawful_of_run h) missing)

theorem reached_standing (h : Reached cJSONParse flash b N) : Standing cJSONParse flash b N := by
  induction h with
  | start events =>
    exact ⟨⟨events, rfl⟩, ⟨fun _ none => absurd none List.not_mem_nil, fun _ _ => List.not_mem_nil⟩, browser_once b, id⟩
  | serves e N _ _ ih => exact ⟨more_events ih.events [e], missing_run [e] ih.events ih.missing, ih.once, ih.alive⟩
  | opens s f shake env N _ _ _ _ _ ih =>
    exact ⟨more_events ih.events _, missing_run _ ih.events ih.missing, ih.once.step _ env,
      fun running => ih.alive (running_before running)⟩
  | joins c f root frame env N _ _ _ _ _ _ ih =>
    exact ⟨more_events ih.events [.frame f frame env], missing_run [.frame f frame env] ih.events (ih.missing.left _),
      ih.once, ih.alive⟩
  | delivers c p rest env N _ _ _ _ ih =>
    exact ⟨ih.events, ih.missing, ih.once.step _ env, fun running => ih.alive (running_before running)⟩
  | breaks N _ ih => exact ⟨ih.events, ih.missing, ih.once, ih.alive⟩
  | acts e env N _ _ ih =>
    exact ⟨ih.events, ih.missing, ih.once.step e env, fun running => ih.alive (running_before running)⟩

variable {L : List TraceEvent}

/-- The tab follows the messages of `log`, and its connection will bring what it has not got. -/
def Following (b : Browser) (log : Log L) (N : Network cfg) : Prop :=
  ∃ feed, RunLaw (b.setting log N.missed) N.tab feed ∧
    ∀ c, N.connection = some c → ∃ n, feed = some (c.socket, n) ∧ Attached N.node N.missed n c

theorem following_serve {log : Log L} {e : Event} (standing : Standing cJSONParse flash b N) (h : Following b log N)
    (serving : Serving cfg cJSONParse N.own e) : Following b log (N.serve cJSONParse e) := by
  obtain ⟨feed, law, attached⟩ := h
  refine ⟨feed, law, ?_⟩
  intro c there
  obtain ⟨before, found, rfl⟩ := Option.map_eq_some_iff.mp there
  obtain ⟨n, same, attached⟩ := attached before found
  have own : N.own = before.fd := by
    unfold Network.own
    rw [found]
    rfl
  rw [own] at serving
  exact ⟨n, same, attached.follow (step_serves cJSONParse standing.lawful attached.positive serving) standing.missing.known⟩

theorem following_join {log : Log L} {f : ℤ} {root : Json} {frame : Frame} {env : ℕ → Reply}
    (standing : Standing cJSONParse flash b N) (h : Following b log N) (there : N.connection = some c)
    (known : c.fd = some f) (pending : c.joining = some root) (served : N.node.serves f)
    (carries : Carries cfg cJSONParse frame root) : Following b log (N.join cJSONParse c f root frame env) := by
  obtain ⟨feed, law, attached⟩ := h
  obtain ⟨n, same, attached⟩ := attached c there
  refine ⟨feed, (setting_fewer b log N.missed _).runLaw law, ?_⟩
  intro c' now
  obtain rfl := Option.some.inj now
  exact ⟨n, same, attached_join attached standing.lawful standing.missing known pending served carries⟩

/-- A frame of the connection arrives at the page. -/
theorem following_deliver {log : Log L} {more : List TraceEvent} {p : Json} {rest : List Json}
    {env : ℕ → BrowserWorld.Reply} (begins : L = N.node.world.trace ++ more) (h : Following b log N)
    (there : N.connection = some c) (next : c.frames = p :: rest) (current : N.tab.page.link.ws = some c.socket) :
    Following b log { N with
      tab := ClientSocket.step (.socketMessage c.socket (some p)) env N.tab
      connection := some { c with frames := rest } } := by
  obtain ⟨feed, law, attaches⟩ := h
  obtain ⟨n, rfl, attached⟩ := attaches c there
  have waiting : ∀ root, c.joining = some root → ∀ q ∈ p :: rest, Aside q :=
    fun root pending => next ▸ (attached.pending root pending).2.1
  by_cases joined : c.joining = none
  · obtain ⟨k, feed, complete⟩ := attached.fed
    rw [next] at feed
    obtain ⟨n', law, feed⟩ := delivered begins law env current feed
    refine ⟨_, law, ?_⟩
    intro c' now
    obtain rfl := Option.some.inj now
    refine ⟨n', rfl, attached.positive, ⟨k, feed, complete⟩, ?_⟩
    intro root pending
    rw [joined] at pending
    cases pending
  · -- before the join only frames beside the messages arrive
    obtain ⟨root, pending⟩ := Option.ne_none_iff_exists'.mp joined
    obtain ⟨request, -, unheard⟩ := attached.pending root pending
    have aside := waiting root pending
    have later : ∀ q ∈ rest, Aside q := fun q hq => aside q (List.mem_cons_of_mem p hq)
    refine ⟨_, runLaw_aside law env (aside p List.mem_cons_self), ?_⟩
    intro c' now
    obtain rfl := Option.some.inj now
    refine ⟨n, rfl, attached.positive, ⟨n, feed_asides n later, fun _ hears => absurd hears unheard⟩, ?_⟩
    intro root' pending'
    exact ⟨(attached.pending root' pending').1, later, unheard⟩

theorem beside_of_alone {σ : Setting} {e : ClientSocket.Event} {l : Link} (h : Alone e l) : ReplayCursor.Beside σ e l := by
  cases e with
  | socketOpen s => exact h
  | socketMessage s frame => exact fun current => absurd current h
  | _ => trivial

theorem reached_following (h : Reached cJSONParse flash b N) (log : Log L) {more : List TraceEvent}
    (begins : L = N.node.world.trace ++ more) : Following b log N := by
  have earlier : ∀ {s : Node cfg} (later : List Event) {more : List TraceEvent},
      L = (run cJSONParse s later).world.trace ++ more → ∃ more', L = s.world.trace ++ more' := by
    intro s later more begins
    obtain ⟨new, grown⟩ := run_grown cJSONParse s later
    exact ⟨new ++ more, by rw [begins, grown, List.append_assoc]⟩
  induction h generalizing more with
  | start events =>
    refine ⟨none, browser_law b log [], ?_⟩
    intro c none
    cases none
  | serves e N before serving ih =>
    obtain ⟨more', begins⟩ := earlier [e] begins
    exact following_serve (reached_standing before) (ih begins) serving
  | opens s f shake env N before powered free current connecting ih =>
    obtain ⟨more', begins⟩ := earlier [.openSession f, .handshake f shake] begins
    have standing := reached_standing before
    obtain ⟨feed, law, -⟩ := ih begins
    refine ⟨_, law.joins env, ?_⟩
    intro c now
    obtain rfl := Option.some.inj now
    exact ⟨_, rfl, attached_accept standing.lawful standing.sound free standing.once standing.missing.known⟩
  | joins c f root frame env N before there known pending served carries ih =>
    obtain ⟨more', begins⟩ := earlier [.frame f frame env] begins
    exact following_join (reached_standing before) (ih begins) there known pending served carries
  | delivers c p rest env N before there next current ih => exact following_deliver begins (ih begins) there next current
  | breaks N before ih =>
    obtain ⟨feed, law, -⟩ := ih begins
    refine ⟨feed, law, ?_⟩
    intro c none
    cases none
  | acts e env N before alone ih =>
    obtain ⟨feed, law, attached⟩ := ih begins
    exact ⟨feed, law.beside env (beside_of_alone alone), attached⟩

/-- `x` reads as the message, or as what the storage has had under its id. -/
def Shows (b : Browser) (m : Message) (x : Json) : Prop :=
  ∃ y, (y = m.payload ∨ y ∈ ClientStore.loadMessages b.storage) ∧ numericId y = m.id ∧ stringified x = stringified y

theorem shows_id {m : Message} {x : Json} (h : Shows b m x) : numericId x = m.id := by
  obtain ⟨y, -, id, same⟩ := h
  rw [← WrittenMessages.numericId_stringified x, same, WrittenMessages.numericId_stringified, id]

theorem filter_once {ms : List Json} {x : Json} (once : (ms.map numericId).Nodup) (hx : x ∈ ms) :
    ms.filter (fun y => numericId y == numericId x) = [x] := by
  induction ms with
  | nil => cases hx
  | cons y ms ih =>
    rw [List.map_cons, List.nodup_cons] at once
    cases hx with
    | head =>
      have others : ms.filter (fun z => numericId z == numericId x) = [] := by
        rw [List.filter_eq_nil_iff]
        intro z hz same
        exact once.1 (beq_iff_eq.mp same ▸ List.mem_map_of_mem hz)
      rw [List.filter_cons_of_pos (p := fun z => numericId z == numericId x) (beq_self_eq_true _), others]
    | tail _ later =>
      have other : ¬(numericId y == numericId x) = true := by
        intro same
        exact once.1 (beq_iff_eq.mp same ▸ List.mem_map_of_mem later)
      rw [List.filter_cons_of_neg (p := fun z => numericId z == numericId x) other]
      exact ih once.2 later

theorem reached_law (reached : Reached cJSONParse flash b N) (kept : KeptIds N.node.world)
    (valid : ∀ m, .stored m ∈ N.node.world.trace → validHistoryMessage m.payload = true) :
    ∃ log : Log N.node.world.trace, ∃ feed, RunLaw (b.setting log N.missed) N.tab feed := by
  have log : Log N.node.world.trace := by
    obtain ⟨events, same⟩ := (reached_standing reached).events
    rw [same] at kept valid ⊢
    exact log_run cJSONParse flash events kept valid
  obtain ⟨feed, law, -⟩ := reached_following reached log (List.append_nil _).symm
  exact ⟨log, feed, law⟩

/-- However often the tab reconnects and the node restarts, up to its cursor the tab has each
    message for its user once, but for those that had left the ring before the join that asks
    for them, and those the retention rule has dropped. Writes to the storage may fail, but the
    ids have to be read as they were stored. -/
theorem reconnect_leaves_no_gap (cJSONParse : CJSONParse) (flash : InitialFlash) (b : Browser) (N : Network cfg)
    (reached : Reached cJSONParse flash b N) (kept : KeptIds N.node.world)
    (valid : ∀ m, .stored m ∈ N.node.world.trace → validHistoryMessage m.payload = true) (running : N.tab.running = true) :
    ∀ m, .stored m ∈ N.node.world.trace → isMessageForMe N.tab.page.store.userId m.payload = true →
      b.tab.page.store.lastSeenId < m.id → m.id ≤ N.tab.page.store.lastSeenId →
      m.id ∈ N.missed ∨ (∃ x ∈ N.tab.page.store.pruned, Shows b m x) ∨
        ∃ x, N.tab.page.store.allMessages.filter (fun y => numericId y == m.id) = [x] ∧ Shows b m x := by
  intro m stored mine above below
  have standing := reached_standing reached
  obtain ⟨log, feed, law⟩ := reached_law reached kept valid
  by_cases missed : m.id ∈ N.missed
  · exact .inl missed
  right
  have id := log.numbered m stored
  have due : (b.setting log N.missed).due m.payload := by
    refine ⟨⟨m, stored, missed, rfl⟩, law.user running ▸ mine, ?_⟩
    rw [← browser_cursor log N.missed (standing.alive running), id]
    exact above
  obtain ⟨x, hx, y, source, same, reads⟩ := (law.law running).known m.payload due (id ▸ below)
  have shows : Shows b m x := ⟨y, source, same.trans id, reads⟩
  cases List.mem_append.mp hx with
  | inl page =>
    refine .inr ⟨x, ?_, shows⟩
    rw [← shows_id shows]
    exact filter_once (standing.once.page running).page page
  | inr dropped => exact .inl ⟨x, dropped, shows⟩

section greeting
open CjsonPrinter (fifteenDigits)
open ResponseLimit (field quoted braces environment textFrame emptyFlash)
open ClientStore (str nat)

def smallConfig : Config := ⟨2, 2, 30, 256, 1024, fifteenDigits, by decide, by decide⟩

def annJoin : Json := .obj [("type", str "join"), ("from", str "ann"), ("name", str "Ann"), ("since_id", nat 0)]

def annJoinText : List Char := braces [field "type" (quoted "join".toList), field "from" (quoted "ann".toList),
  field "name" (quoted "Ann".toList), field "since_id" ['0']]

def greeting (data : String) : Json := .obj [("type", str "text"), ("from", str "ann"), ("name", str "Ann"),
  ("to", .obj [("all", .bool true)]), ("data", str data)]

def greetingText (data : String) : List Char := braces [field "type" (quoted "text".toList),
  field "from" (quoted "ann".toList), field "name" (quoted "Ann".toList),
  field "to" (braces [field "all" "true".toList]), field "data" (quoted data.toList)]

def bobEnv : ℕ → BrowserWorld.Reply := fun _ => ⟨false, true, true, true, 0, 0, "bob"⟩

def bob : Browser where
  location := ⟨false, "esp"⟩
  env := bobEnv
  storage := ⟨none, some "Bob", none, none, none, none⟩
  written := fun _ none => nomatch none
  distinct := List.nodup_nil

def bobConnects : Tab := ClientSocket.step .callConnect bobEnv bob.tab

/-- What his page sends once the socket is open, and its text. -/
def bobJoin : Json :=
  (firstSent bobConnects.page (ClientSocket.step (.socketOpen 0) bobEnv bobConnects).page).getD .null

def bobJoinText : List Char := braces [field "type" (quoted "join".toList), field "from" (quoted "bob".toList),
  field "name" (quoted "Bob".toList), field "timestamp" ['0'], field "since_id" ['0']]

def parse (payload : List UInt8) : Option (Json × ℕ) :=
  if payload = Utf8Texts.encoded annJoinText then some (annJoin, payload.length)
  else if payload = Utf8Texts.encoded (greetingText "hi") then some (greeting "hi", payload.length)
  else if payload = Utf8Texts.encoded (greetingText "bye") then some (greeting "bye", payload.length)
  else if payload = Utf8Texts.encoded bobJoinText then some (bobJoin, payload.length)
  else none

def annGreets : List Event := [.powerOn environment, .openSession 1,
  .frame 1 (textFrame (Utf8Texts.encoded annJoinText)) environment,
  .frame 1 (textFrame (Utf8Texts.encoded (greetingText "hi"))) environment]

section replay
variable (flash : InitialFlash) (events : List Event)

def idle : Network smallConfig := ⟨run parse (Node.initial flash) events, bob.tab, none, []⟩

def connecting : Network smallConfig :=
  { idle flash events with tab := ClientSocket.step .callConnect bobEnv (idle flash events).tab }

def accepted : Network smallConfig := (connecting flash events).accept parse 0 2 environment bobEnv

def opening : Connection := ⟨0, some 2, firstSent bobConnects.page (accepted flash events).tab.page,
  arrivals (some 2) (since (connecting flash events).node.world (accepted flash events).node.world)⟩

def joinFrame : Frame := textFrame (Utf8Texts.encoded bobJoinText)

def joined : Network smallConfig :=
  (accepted flash events).join parse (opening flash events) 2 bobJoin joinFrame environment

/-- The page gets the next frame of its connection. -/
def nextDelivered (N : Network smallConfig) : Network smallConfig :=
  match N.connection with
  | none => N
  | some c => { N with
    tab := ClientSocket.step (.socketMessage c.socket c.frames.head?) bobEnv N.tab
    connection := some { c with frames := c.frames.tail } }

def delivers (N : Network smallConfig) : Bool :=
  N.connection.any (fun c => !c.frames.isEmpty && N.tab.page.link.ws == some c.socket)

structure Opens : Prop where
  powered : (connecting flash events).node.powered = true
  free : (2 : ℤ) ∉ (connecting flash events).node.openFds
  served : (accepted flash events).node.serves 2

variable {flash : InitialFlash} {events : List Event}

theorem bobConnects_state : bobConnects.page.link.ws = some 0 ∧ readyState bobConnects.page.link 0 = .connecting ∧
    (firstSent bobConnects.page (ClientSocket.step (.socketOpen 0) bobEnv bobConnects).page).isSome = true := by
  decide +kernel

set_option maxRecDepth 100000 in
theorem bobJoin_scanned : scanFrom (Utf8Texts.encoded bobJoinText) 0 false = true := by decide +kernel

theorem bobJoin_text : Utf8Texts.encoded bobJoinText ≠ [] ∧ (Utf8Texts.encoded bobJoinText).length ≤ 1024 ∧
    Utf8Texts.encoded bobJoinText ≠ Utf8Texts.encoded annJoinText ∧
    Utf8Texts.encoded bobJoinText ≠ Utf8Texts.encoded (greetingText "hi") ∧
    Utf8Texts.encoded bobJoinText ≠ Utf8Texts.encoded (greetingText "bye") ∧
    jsonHasDuplicateKeys bobJoin = false ∧ bobJoin.isObject = true := by
  decide +kernel

theorem bobJoin_carried : Carries smallConfig parse joinFrame bobJoin := by
  obtain ⟨filled, short, other, another, third, distinct, object⟩ := bobJoin_text
  refine ⟨⟨rfl, rfl⟩, ⟨rfl, rfl⟩, ⟨filled, short⟩, ResponseLimit.parsed_whole ?_ filled bobJoin_scanned distinct object⟩
  unfold parse
  rw [if_neg other, if_neg another, if_neg third, if_pos rfl]

theorem joined_reached (opens : Opens flash events) : Reached parse flash bob (joined flash events) := by
  obtain ⟨current, state, pending⟩ := bobConnects_state
  have idles : Reached parse flash bob (idle flash events) := .start events
  have connected : Reached parse flash bob (connecting flash events) := .acts .callConnect bobEnv _ idles trivial
  have opened : Reached parse flash bob (accepted flash events) :=
    .opens 0 2 environment bobEnv _ connected opens.powered opens.free current state
  have asks : (opening flash events).joining = some bobJoin := by
    obtain ⟨root, sent⟩ := Option.isSome_iff_exists.mp pending
    have page : (opening flash events).joining =
        firstSent bobConnects.page (ClientSocket.step (.socketOpen 0) bobEnv bobConnects).page := rfl
    unfold bobJoin
    rw [page, sent]
    rfl
  exact .joins (opening flash events) 2 bobJoin _ environment _ opened rfl rfl asks opens.served bobJoin_carried

theorem delivered_reached {N : Network smallConfig} (reached : Reached parse flash bob N) (next : delivers N = true) :
    Reached parse flash bob (nextDelivered N) := by
  unfold delivers at next
  unfold nextDelivered
  cases there : N.connection with
  | none =>
    rw [there] at next
    cases next
  | some c =>
    rw [there, Option.any_some, Bool.and_eq_true, Bool.not_eq_true'] at next
    obtain ⟨some_frame, current⟩ := next
    cases frames : c.frames with
    | nil =>
      rw [frames] at some_frame
      cases some_frame
    | cons p rest =>
      dsimp only
      rw [frames]
      exact .delivers c p rest bobEnv N reached there frames (beq_iff_eq.mp current)

end replay

def synchronized : Network smallConfig := nextDelivered (joined emptyFlash annGreets)

theorem annGreets_opens : Opens emptyFlash annGreets :=
  ⟨by decide +kernel, by decide +kernel, by decide +kernel⟩

theorem synchronized_state : delivers (joined emptyFlash annGreets) = true ∧
    synchronized.tab.running = true ∧ synchronized.missed.isEmpty = true ∧
    synchronized.tab.page.store.pruned.isEmpty = true ∧
    bob.tab.page.store.lastSeenId = 0 ∧ synchronized.tab.page.store.lastSeenId = 1 ∧
    (storedMessages synchronized.node.world.trace).all
      (fun m => decide (fifteenDigits.Keeps m.id) && validHistoryMessage m.payload) = true ∧
    (storedMessages synchronized.node.world.trace).any (fun m =>
      m.id == 1 && isMessageForMe synchronized.tab.page.store.userId m.payload) = true := by
  decide +kernel

/-- Bob gets the greeting that was stored before he joined, once. -/
theorem greeting_synchronized : ∃ m x, .stored m ∈ synchronized.node.world.trace ∧ m.id = 1 ∧
    synchronized.tab.page.store.allMessages.filter (fun y => numericId y == m.id) = [x] ∧ Shows bob m x := by
  obtain ⟨next, running, present, unpruned, before, cursor, all, sent⟩ := synchronized_state
  obtain ⟨m, hm, mine⟩ := List.any_eq_true.mp sent
  rw [Bool.and_eq_true, beq_iff_eq] at mine
  have stored := mem_storedMessages.mp hm
  have both : ∀ m, .stored m ∈ synchronized.node.world.trace →
      decide (fifteenDigits.Keeps m.id) = true ∧ validHistoryMessage m.payload = true :=
    fun m stored => Bool.and_eq_true_iff.mp (List.all_eq_true.mp all m (mem_storedMessages.mpr stored))
  have found := reconnect_leaves_no_gap parse emptyFlash bob synchronized
    (delivered_reached (joined_reached annGreets_opens) next) (fun m stored => of_decide_eq_true (both m stored).1)
    (fun m stored => (both m stored).2) running m stored mine.2 (by omega) (by omega)
  rcases found with missed | ⟨x, dropped, -⟩ | ⟨x, once, shows⟩
  · rw [List.isEmpty_iff.mp present] at missed
    cases missed
  · rw [List.isEmpty_iff.mp unpruned] at dropped
    cases dropped
  · exact ⟨m, x, stored, mine.1, once, shows⟩

/-- The device has given out the ids up to 2^52 and two more. -/
def usedFlash : InitialFlash :=
  ⟨⟨some 4503599627370498, none⟩, fun v h => by cases h; decide⟩

def annGreetsTwice : List Event := annGreets ++ [.frame 1 (textFrame (Utf8Texts.encoded (greetingText "bye"))) environment]

def overtaken : Network smallConfig := nextDelivered (nextDelivered (joined usedFlash annGreetsTwice))

theorem annGreetsTwice_opens : Opens usedFlash annGreetsTwice :=
  ⟨by decide +kernel, by decide +kernel, by decide +kernel⟩

/-- Bob's page has taken the second greeting for the first. -/
theorem overtaken_state : delivers (joined usedFlash annGreetsTwice) = true ∧
    delivers (nextDelivered (joined usedFlash annGreetsTwice)) = true ∧
    overtaken.tab.running = true ∧ overtaken.missed.isEmpty = true ∧
    overtaken.tab.page.store.pruned.isEmpty = true ∧
    bob.tab.page.store.lastSeenId = 0 ∧ overtaken.tab.page.store.lastSeenId = 4503599627370500 ∧
    (storedMessages overtaken.node.world.trace).all (fun m => validHistoryMessage m.payload) = true ∧
    (storedMessages overtaken.node.world.trace).any (fun m => m.id == 4503599627370500 &&
      isMessageForMe overtaken.tab.page.store.userId m.payload && isText "bye" (m.payload.lastMember "data")) = true ∧
    overtaken.tab.page.store.allMessages.all (fun x => !isText "bye" (x.lastMember "data")) = true := by
  decide +kernel

/-- Two greetings are stored as 4503599627370499 and 4503599627370500, and printed as the latter. -/
theorem second_greeting_lost : ¬∀ (N : Network smallConfig), Reached parse usedFlash bob N →
    (∀ m, .stored m ∈ N.node.world.trace → validHistoryMessage m.payload = true) → N.tab.running = true →
    ∀ m, .stored m ∈ N.node.world.trace → isMessageForMe N.tab.page.store.userId m.payload = true →
      bob.tab.page.store.lastSeenId < m.id → m.id ≤ N.tab.page.store.lastSeenId →
      m.id ∈ N.missed ∨ (∃ x ∈ N.tab.page.store.pruned, Shows bob m x) ∨
        ∃ x, N.tab.page.store.allMessages.filter (fun y => numericId y == m.id) = [x] ∧ Shows bob m x := by
  intro always
  obtain ⟨first, second, running, present, unpruned, before, cursor, valid, sent, lost⟩ := overtaken_state
  have reached : Reached parse usedFlash bob overtaken :=
    delivered_reached (delivered_reached (joined_reached annGreetsTwice_opens) first) second
  obtain ⟨m, hm, here⟩ := List.any_eq_true.mp sent
  rw [Bool.and_eq_true, Bool.and_eq_true, beq_iff_eq] at here
  obtain ⟨⟨id, mine⟩, bye⟩ := here
  have all : ∀ m, .stored m ∈ overtaken.node.world.trace → validHistoryMessage m.payload = true :=
    fun m stored => List.all_eq_true.mp valid m (mem_storedMessages.mpr stored)
  have found := always overtaken reached all running m (mem_storedMessages.mp hm) mine (by omega) (by omega)
  rcases found with missed | ⟨x, dropped, -⟩ | ⟨x, once, y, source, -, same⟩
  · rw [List.isEmpty_iff.mp present] at missed
    cases missed
  · rw [List.isEmpty_iff.mp unpruned] at dropped
    cases dropped
  · -- his storage was empty, so that he would have to have the message itself
    have payload : y = m.payload := source.resolve_right List.not_mem_nil
    have there : x ∈ overtaken.tab.page.store.allMessages := by
      have among : x ∈ overtaken.tab.page.store.allMessages.filter (fun y => numericId y == m.id) :=
        once ▸ List.mem_singleton_self x
      exact (List.mem_filter.mp among).1
    have bye_x : isText "bye" (x.lastMember "data") = true := by
      rw [← WrittenMessages.isText_stringified, ← WrittenMessages.lastMember_stringified, same, payload,
        WrittenMessages.lastMember_stringified, WrittenMessages.isText_stringified]
      exact bye
    have silent := List.all_eq_true.mp lost x there
    rw [bye_x] at silent
    cases silent

end greeting

end EspWebChat.SynchronizedRuns
