import Mathlib.Tactic.Common
import EspWebChat.SettingsHandler

set_option autoImplicit false

/-!
# What loading, saving and posting do to the settings

One specification for each function, also when the power is cut in the middle of it.
-/
namespace EspWebChat.SettingsSteps
open CharArrays Interruptible JsonTree JsonGate DeviceSettings SettingsHandler
open ServerWorld (EspErr Reply)

variable {d : Device}

structure Valid (s : Settings) : Prop where
  ssid : 1 ≤ s.ssid.length ∧ s.ssid.length ≤ 32
  password : s.password.length = 0 ∨ (8 ≤ s.password.length ∧ s.password.length ≤ 63)
  channel : 1 ≤ s.channel ∧ s.channel ≤ 13
  adminPassword : 4 ≤ s.adminPassword.length ∧ s.adminPassword.length ≤ 32

theorem validWifiPassword_iff {password : CString} : chatSettingsValidWifiPassword password = true ↔
    password.length = 0 ∨ (8 ≤ password.length ∧ password.length ≤ 63) := by
  unfold chatSettingsValidWifiPassword
  simp only [Bool.or_eq_true, beq_iff_eq, Bool.and_eq_true, decide_eq_true_eq]
  rfl

theorem channel_range {c : UInt8} : 1 ≤ c ∧ c ≤ 13 ↔ ¬(c < 1 ∨ 13 < c) := by
  rw [not_or, UInt8.not_lt, UInt8.not_lt]

theorem stored_iff {s : Settings} : stored s = true ↔ Valid s := by
  have ssid : s.ssid.length ≤ 32 := s.ssid.length_le
  have adminPassword : s.adminPassword.length ≤ 32 := s.adminPassword.length_le
  have range := @channel_range s.channel
  unfold stored
  simp only [Bool.not_eq_true', Bool.or_eq_false_iff, decide_eq_false_iff_not, Bool.not_eq_false']
  unfold minAdminPassLen
  constructor
  · intro h
    obtain ⟨⟨⟨⟨named, wifi⟩, low⟩, high⟩, long⟩ := h
    exact ⟨by omega, validWifiPassword_iff.mp wifi, range.mpr (by tauto), by omega⟩
  · intro h
    have named := h.ssid
    have long := h.adminPassword
    have within := range.mp h.channel
    exact ⟨⟨⟨⟨by omega, validWifiPassword_iff.mpr h.password⟩, by tauto⟩, by tauto⟩, by omega⟩

theorem chatSettingsResetToDefaults_valid (defaults : Defaults) : Valid (chatSettingsResetToDefaults defaults) := by
  constructor
  case ssid =>
    constructor
    · unfold chatSettingsResetToDefaults
      dsimp only
      split_ifs with empty
      · decide
      · omega
    · exact CharArray.length_le _
  case password =>
    unfold chatSettingsResetToDefaults
    dsimp only
    split_ifs with invalid
    · decide
    · exact validWifiPassword_iff.mp (by simpa using invalid)
  case channel =>
    unfold chatSettingsResetToDefaults
    dsimp only
    split_ifs with outside
    · decide
    · exact channel_range.mpr outside
  case adminPassword =>
    constructor
    · unfold chatSettingsResetToDefaults
      dsimp only
      split_ifs with short
      · decide
      · unfold minAdminPassLen at short
        omega
    · exact CharArray.length_le _

/-- The settings are as before and nothing was recorded; the flash may differ. -/
structure Same (d u : Device) : Prop where
  settings : u.settings = d.settings
  trace : u.trace = d.trace

theorem same_self : Same d d := ⟨rfl, rfl⟩

def Idle {α : Type} (m : Firmware α) : Prop := ∀ d, Ends m d (fun _ u => u = d)

section idle
variable {α β : Type} {m : Firmware α} {f : α → Firmware β} {E : Option β → Device → Prop}

theorem Idle.bind (h : Idle m) (cut : E none d) (k : ∀ a, Ends (f a) d E) : Ends (m >>= f) d E := by
  apply (h d).bind
  · intro u same
    exact same ▸ cut
  · intro a u same
    exact same ▸ k a

theorem Idle.andThen (h : Idle m) (k : ∀ a, Idle (f a)) : Idle (m >>= f) :=
  fun d => h.bind rfl (fun a => k a d)

theorem Idle.pure (a : α) : Idle (Pure.pure a : Firmware α) := fun _ => .pure rfl

theorem Idle.reads (g : Device → α) : Idle (Interruptible.reads g) := fun _ => .reads rfl

theorem Idle.ite {c : Prop} [Decidable c] {m' : Firmware α} (pos : Idle m) (neg : Idle m') :
    Idle (if c then m else m') :=
  fun d => .ite (fun _ => pos d) (fun _ => neg d)

end idle

theorem reply_idle : Idle DeviceSettings.reply := fun _ => .ask rfl (fun _ _ => rfl)

theorem nvsCall_idle : Idle nvsCall := by
  apply reply_idle.andThen
  intro r
  cases r.nvs.error with
  | none => exact .pure _
  | some e => exact .pure _

theorem nvsOpenReadonly_idle : Idle nvsOpenReadonly :=
  nvsCall_idle.andThen (fun _ => .ite (.pure _) (.reads _))

theorem nvsGetStr_idle (limit : ℕ) (key : SettingsStore → Option CString) : Idle (nvsGetStr limit key) :=
  nvsCall_idle.andThen (fun _ => .ite (.pure _) (.reads _))

theorem nvsGetU8_idle (key : SettingsStore → Option UInt8) : Idle (nvsGetU8 key) :=
  nvsCall_idle.andThen (fun _ => .ite (.pure _) (.reads _))

theorem allocates_idle : Idle SettingsHandler.allocates := reply_idle.andThen (fun _ => .pure _)

theorem sends_idle : Idle sends := reply_idle.andThen (fun _ => .pure _)

theorem addMember_idle (ms : Members) (key : String) (v : Json) : Idle (SettingsHandler.addMember ms key v) :=
  allocates_idle.andThen (fun _ => .pure _)

theorem sendJsonResponse_idle (root : Json) (restarts : Bool) : Idle (sendJsonResponse root restarts) :=
  allocates_idle.andThen (fun _ => .ite (sends_idle.andThen (fun _ => .pure _)) (sends_idle.andThen (fun _ => .pure _)))

theorem sendHttpError_idle (code message : String) : Idle (sendHttpError code message) :=
  allocates_idle.andThen (fun _ => .ite (sends_idle.andThen (fun _ => .pure _))
    ((addMember_idle _ _ _).andThen (fun _ => (addMember_idle _ _ _).andThen (fun _ =>
      (addMember_idle _ _ _).andThen (fun _ => sendJsonResponse_idle _ _)))))

theorem chatSettingsLoad_valid (defaults : Defaults) :
    Ends (chatSettingsLoad defaults) d (fun r u => r = some () → Valid u.settings) := by
  have cut : ∀ u : Device, (none : Option Unit) = some () → Valid u.settings := by
    intro u h
    cases h
  apply Ends.bind (E := fun _ u => u.settings = chatSettingsResetToDefaults defaults) (.writes rfl) (fun u _ => cut u)
  intro _ a ha
  apply nvsOpenReadonly_idle.bind (cut a)
  intro ret
  apply Ends.ite
  · intro _
    apply Ends.writes
    intro _
    have kept : Valid a.settings := ha ▸ chatSettingsResetToDefaults_valid defaults
    exact kept
  · intro _
    apply (nvsGetStr_idle _ _).bind (cut a)
    intro ssid
    apply Ends.bind (E := fun _ _ => True) (.writes trivial) (fun u _ => cut u)
    intro _ b _
    apply (nvsGetStr_idle _ _).bind (cut b)
    intro password
    apply Ends.bind (E := fun _ _ => True) (.writes trivial) (fun u _ => cut u)
    intro _ c _
    apply (nvsGetStr_idle _ _).bind (cut c)
    intro adminPassword
    apply Ends.bind (E := fun _ _ => True) (.writes trivial) (fun u _ => cut u)
    intro _ e _
    apply (nvsGetU8_idle _).bind (cut e)
    intro channel
    apply Ends.bind (E := fun _ _ => True) (.writes trivial) (fun u _ => cut u)
    intro _ f _
    apply Ends.bind (E := fun _ u => Valid u.settings) _ (fun u _ => cut u)
    · intro _ g valid
      apply Ends.writes
      intro _
      exact valid
    · apply Ends.writes
      dsimp only
      split_ifs with fine
      · exact stored_iff.mp fine
      · exact chatSettingsResetToDefaults_valid defaults

/-- What a complete save leaves in the namespace. -/
def storeOf (s : Settings) : SettingsStore :=
  ⟨some s.ssid.text, some s.password.text, some s.adminPassword.text, some s.channel⟩

theorem nvsSet_ends (f : SettingsStore → SettingsStore) :
    Ends (nvsSet f) d (fun r u => Same d u ∧ (r = some .ok → u.cached = f d.cached)) := by
  apply reply_idle.bind ⟨same_self, nofun⟩
  intro r
  apply Ends.bind (E := fun _ u => Same d u ∧ (r.nvs.error = none → u.cached = f d.cached)) _
    (fun u h => ⟨h.1, nofun⟩)
  · intro _ u h
    cases error : r.nvs.error with
    | none =>
      apply Ends.pure
      exact ⟨h.1, fun _ => h.2 error⟩
    | some e =>
      apply Ends.pure
      exact ⟨h.1, fun ok => absurd (Option.some.inj ok) e.property.1⟩
  · apply Ends.writes
    constructor
    · exact ⟨rfl, rfl⟩
    · intro none
      simp [none]

theorem nvsCommit_ends : Ends nvsCommit d (fun r u => Same d u ∧ (r = some .ok → u.flash = d.cached)) := by
  apply reply_idle.bind ⟨same_self, nofun⟩
  intro r
  apply Ends.bind (E := fun _ u => Same d u ∧ (r.nvs.error = none → u.flash = d.cached)) _
    (fun u h => ⟨h.1, nofun⟩)
  · intro _ u h
    cases error : r.nvs.error with
    | none =>
      apply Ends.pure
      exact ⟨h.1, fun _ => h.2 error⟩
    | some e =>
      apply Ends.pure
      exact ⟨h.1, fun ok => absurd (Option.some.inj ok) e.property.1⟩
  · apply Ends.writes
    constructor
    · exact ⟨rfl, rfl⟩
    · intro none
      simp [none]

theorem Same.trans {u v : Device} (h : Same d u) (h' : Same u v) : Same d v :=
  ⟨h'.settings.trans h.settings, h'.trace.trans h.trace⟩

theorem saveStep {f : SettingsStore → SettingsStore} {k : Firmware EspErr} {e : Device} {g : SettingsStore}
    (same : Same d e)
    (rest : ∀ u, Same d u → u.cached = f e.cached →
      Ends k u (fun r v => Same d v ∧ (r = some .ok → v.flash = g))) :
    Ends (do let ret ← nvsSet f; if ret ≠ .ok then pure ret else k) e
      (fun r v => Same d v ∧ (r = some .ok → v.flash = g)) := by
  apply (nvsSet_ends f).bind (fun u h => ⟨same.trans h.1, nofun⟩)
  intro ret u h
  apply Ends.ite
  · intro error
    apply Ends.pure
    exact ⟨same.trans h.1, fun ok => absurd (Option.some.inj ok) error⟩
  · intro ok
    exact rest u (same.trans h.1) (h.2 (congrArg some (not_not.mp ok)))

theorem chatSettingsSave_ends (s : Settings) :
    Ends (chatSettingsSave s) d (fun r u => Same d u ∧ (r = some .ok → u.flash = storeOf s)) := by
  apply nvsCall_idle.bind ⟨same_self, nofun⟩
  intro opened
  apply Ends.ite
  · intro error
    apply Ends.pure
    exact ⟨same_self, fun ok => absurd (Option.some.inj ok) error⟩
  · intro _
    apply saveStep same_self
    intro a same ssid
    apply saveStep same
    intro b same pass
    apply saveStep same
    intro c same admin
    apply saveStep same
    intro e same chan
    apply nvsCommit_ends.post
    intro r u h
    refine ⟨same.trans h.1, ?_⟩
    intro ok
    rw [h.2 ok, chan, admin, pass, ssid]
    rfl

/-- A reply that tells the client that the request has failed. -/
def isError : Response → Bool
  | .internalError _ => true
  | .json root => (match root.member "ok" with
    | some (.bool ok) => !ok
    | _ => false) || (root.member "code").isSome

/-- The last error a handler can send: the reply it has built cannot be printed. -/
def encodingFailed : Response := .internalError "Failed to encode JSON"

def SavedReply (h : Handled) : Prop := ∀ r, h.response = some r → isError r = true → r = encodingFailed

theorem addMember_ends (ms : Members) (key : String) (v : Json) : Ends (SettingsHandler.addMember ms key v) d
    (fun r u => u = d ∧ ∀ ms', r = some ms' → ∀ m ∈ ms', m ∈ ms ∨ m = (key, v)) := by
  apply allocates_idle.bind ⟨rfl, nofun⟩
  intro done
  apply Ends.pure
  refine ⟨rfl, ?_⟩
  intro ms' h m hm
  cases h
  split_ifs at hm with added
  · simpa using hm
  · exact .inl hm

theorem not_error {ms : Members} {reboot message : Json} (h : ∀ m ∈ ms, m = ("ok", .bool true) ∨
    m = ("rebootRequired", .bool true) ∨ m = ("restarting", reboot) ∨ m = ("message", message)) :
    isError (.json (.obj ms)) = false := by
  have no_code : ms.lookup "code" = none := by
    cases found : ms.lookup "code" with
    | none => rfl
    | some v =>
      have member := h _ (mem_of_lookup found)
      simp at member
  have ok : ∀ v, ms.lookup "ok" = some v → v = .bool true := by
    intro v found
    have member := h _ (mem_of_lookup found)
    simpa using member
  unfold isError Json.member
  dsimp only [Json.members]
  rw [no_code]
  cases found : ms.lookup "ok" with
  | none => rfl
  | some v =>
    rw [ok v found]
    rfl

theorem sendJsonResponse_ends {root : Json} {restarts : Bool} (fine : isError (.json root) = false) :
    Ends (sendJsonResponse root restarts) d (fun r u => u = d ∧ ∀ h, r = some h → SavedReply h) := by
  apply allocates_idle.bind ⟨rfl, nofun⟩
  intro payload
  apply Ends.ite
  · intro _
    apply sends_idle.bind ⟨rfl, nofun⟩
    intro _
    apply Ends.pure
    refine ⟨rfl, ?_⟩
    intro h same r reply _
    cases same
    exact (Option.some.inj reply).symm
  · intro _
    apply sends_idle.bind ⟨rfl, nofun⟩
    intro _
    apply Ends.pure
    refine ⟨rfl, ?_⟩
    intro h same r reply error
    cases same
    cases reply
    rw [fine] at error
    cases error

theorem sendSaved_ends (reboot : Bool) :
    Ends (sendSaved reboot) d (fun r u => u = d ∧ ∀ h, r = some h → SavedReply h) := by
  apply allocates_idle.bind ⟨rfl, nofun⟩
  intro response
  apply Ends.ite
  · intro _
    apply Ends.pure
    refine ⟨rfl, ?_⟩
    intro h same r reply
    cases same
    cases reply
  · intro _
    apply (addMember_ends _ _ _).bind (fun u h => ⟨h.1, nofun⟩)
    intro a _ ha
    obtain ⟨rfl, ha⟩ := ha
    apply (addMember_ends _ _ _).bind (fun u h => ⟨h.1, nofun⟩)
    intro b _ hb
    obtain ⟨rfl, hb⟩ := hb
    apply (addMember_ends _ _ _).bind (fun u h => ⟨h.1, nofun⟩)
    intro c _ hc
    obtain ⟨rfl, hc⟩ := hc
    apply (addMember_ends _ _ _).bind (fun u h => ⟨h.1, nofun⟩)
    intro e _ he
    obtain ⟨rfl, he⟩ := he
    apply sendJsonResponse_ends
    apply not_error
    intro m hm
    have first := ha a rfl m
    have second := hb b rfl m
    have third := hc c rfl m
    have fourth := he e rfl m hm
    simp only [List.not_mem_nil, false_or] at first
    tauto

/-- What a request leaves: the settings as they were, or the requested ones, which are then in
    flash. -/
inductive Posted (root : Json) (d u : Device) (r : Option Handled) : Prop
  | kept (settings : u.settings = d.settings)
      (trace : u.trace = d.trace ∨ ∃ ret, ret ≠ .ok ∧ u.trace = d.trace ++ [.saved ret]) : Posted root d u r
  | saved (asked : requested root d.settings = .ok u.settings) (trace : u.trace = d.trace ++ [.saved .ok])
      (flash : u.flash = storeOf u.settings) (reply : ∀ h, r = some h → SavedReply h) : Posted root d u r

theorem Posted.unchanged {root : Json} {r : Option Handled} : Posted root d d r := .kept rfl (.inl rfl)

theorem saveRequested_ends {root : Json} {updated : Settings} (asked : requested root d.settings = .ok updated) :
    Ends (saveRequested root updated) d (fun r u => Posted root d u r) := by
  apply (chatSettingsSave_ends updated).bind (fun u h => .kept h.1.settings (.inl h.1.trace))
  intro ret u h
  obtain ⟨same, flash⟩ := h
  apply Ends.bind (E := fun r v => r = some () ∧ v = { u with trace := u.trace ++ [.saved ret] }) (.writes ⟨rfl, rfl⟩)
    (fun _ cut => nomatch cut.1)
  intro _ v hv
  obtain ⟨-, rfl⟩ := hv
  have trace : u.trace ++ [.saved ret] = d.trace ++ [.saved ret] := congrArg (· ++ [.saved ret]) same.trace
  apply Ends.ite
  · intro error
    apply (sendHttpError_idle _ _ _).post
    intro r w hw
    subst hw
    exact .kept same.settings (.inr ⟨ret, error, trace⟩)
  · intro ok
    obtain rfl := not_not.mp ok
    apply Ends.bind (E := fun r w => r = some () ∧ w = { u with trace := u.trace ++ [.saved .ok], settings := updated })
      (.writes ⟨rfl, rfl⟩) (fun _ cut => nomatch cut.1)
    intro _ w hw
    obtain ⟨-, rfl⟩ := hw
    apply (sendSaved_ends _).post
    intro r x hx
    obtain ⟨rfl, reply⟩ := hx
    exact .saved asked trace (flash rfl) reply

theorem handleRequested_ends (root : Json) : Ends (handleRequested root) d (fun r u => Posted root d u r) := by
  apply Ends.bind (E := fun r u => u = d ∧ ∀ s, r = some s → s = d.settings) (.reads ⟨rfl, fun s h => (Option.some.inj h).symm⟩)
    (fun u h => h.1 ▸ .unchanged)
  intro current u h
  obtain ⟨rfl, current⟩ := h
  obtain rfl := current _ rfl
  have idle : ∀ code message : String, Ends (sendHttpError code message) u (fun r v => Posted root u v r) := by
    intro code message
    apply (sendHttpError_idle _ _ _).post
    intro r v same
    exact same ▸ .unchanged
  apply Ends.ite (fun _ => idle _ _)
  intro _
  cases asked : requested root u.settings with
  | error refusal => exact idle _ _
  | ok updated => exact saveRequested_ends asked

/-- The object of a request whose body can be read and parsed. -/
def supplied (cJSONParse : CJSONParse) (req : Request) : Option Json :=
  if req.contentLen = 0 ∨ settingsBodyBytes < req.contentLen then none
  else (receive req.contentLen req.chunks []).bind (chatJsonParseObject cJSONParse)

theorem settingsPostHandler_reads {cJSONParse : CJSONParse} {req : Request} {E : Option Handled → Device → Prop}
    (unchanged : ∀ r, E r d) (k : ∀ root, supplied cJSONParse req = some root → Ends (handleRequested root) d E) :
    Ends (settingsPostHandler cJSONParse req) d E := by
  have refused : ∀ code message : String, Ends (sendHttpError code message) d E := by
    intro code message
    apply (sendHttpError_idle _ _ _).post
    intro r u same
    exact same ▸ unchanged r
  have read : Ends (readRequestBody req settingsBodyBytes) d (fun r u => u = d ∧ ∀ body, r = some (some body) →
      supplied cJSONParse req = chatJsonParseObject cJSONParse body) := by
    apply Ends.ite
    · intro _
      apply Ends.pure
      exact ⟨rfl, nofun⟩
    · intro size
      apply allocates_idle.bind ⟨rfl, nofun⟩
      intro memory
      apply Ends.pure
      refine ⟨rfl, ?_⟩
      intro body h
      unfold supplied
      rw [if_neg size]
      cases memory with
      | false => cases h
      | true =>
        rw [show receive req.contentLen req.chunks [] = some body from Option.some.inj h]
        rfl
  apply read.bind (fun u h => h.1 ▸ unchanged none)
  intro body u h
  obtain ⟨rfl, found⟩ := h
  cases body with
  | none => exact refused _ _
  | some body =>
    apply allocates_idle.bind (unchanged none)
    intro memory
    cases memory with
    | false => exact refused _ _
    | true =>
      rw [if_pos rfl, ← found body rfl]
      cases parsed : supplied cJSONParse req with
      | none => exact refused _ _
      | some root => exact k root parsed

end EspWebChat.SettingsSteps
