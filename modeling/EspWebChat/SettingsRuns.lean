import EspWebChat.ResponseLimit
import EspWebChat.SettingsSteps

set_option autoImplicit false

/-!
# The settings over any run of the device

The settings of a device that is on are valid, whatever the flash held when it was first switched
on, and what a request has saved is what the next boot loads.
-/
namespace EspWebChat.SettingsRuns
open CharArrays Interruptible JsonTree DeviceSettings SettingsHandler SettingsSteps
open JsonGate (CJSONParse chatJsonParseObject)
open ServerWorld (EspErr Reply)

structure Board where
  device : Device
  on : Bool

def Board.initial (store : SettingsStore) : Board := ⟨⟨.zero, store, store, []⟩, false⟩

/-- Every event carries the replies its computation will get; one that cuts the power leaves the
    board off until the next `powerOn`. -/
inductive Event where
  | powerOn (env : ℕ → Reply)
  | post (req : Request) (env : ℕ → Reply)

variable {defaults : Defaults} {cJSONParse : CJSONParse} {d : Device}

def step (defaults : Defaults) (cJSONParse : CJSONParse) (b : Board) : Event → Board
  | .powerOn env =>
    let loaded := chatSettingsLoad defaults env b.device.reboot
    ⟨loaded.world, loaded.result.isSome⟩
  | .post req env =>
    if b.on then
      let handled := settingsPostHandler cJSONParse req env b.device
      ⟨handled.world, handled.result.isSome⟩
    else b

def run (defaults : Defaults) (cJSONParse : CJSONParse) (store : SettingsStore) (events : List Event) : Board :=
  events.foldl (step defaults cJSONParse) (Board.initial store)

theorem stringInRange_some {item : Option Json} {maxLen : ℕ} {s : CString}
    (h : stringInRange item maxLen false = some s) : valuestring item = some s ∧ 0 < s.length ∧ s.length ≤ maxLen := by
  obtain ⟨read, range⟩ := Option.filter_eq_some_iff.mp h
  simp only [Bool.false_or, Bool.and_eq_true, decide_eq_true_eq] at range
  exact ⟨read, range⟩

theorem takeSsid_valid {root : Json} {s s' : Settings} (valid : Valid s) (h : takeSsid root s = .ok s') : Valid s' := by
  unfold takeSsid at h
  split at h
  · cases h
    exact valid
  · split at h
    · cases h
    · rename_i ssid inside
      cases h
      obtain ⟨-, named, short⟩ := stringInRange_some inside
      have length : (CharArray.copyBounded maxWifiSsidLen ssid).length = ssid.length := by
        rw [CharArray.copyBounded_length]
        omega
      exact ⟨by dsimp only; rw [length]; exact ⟨named, short⟩, valid.password, valid.channel, valid.adminPassword⟩

theorem channel_valid {v : ℤ} (low : 1 ≤ v) (high : v ≤ 13) : 1 ≤ UInt8.ofInt v ∧ UInt8.ofInt v ≤ 13 := by
  obtain ⟨n, rfl⟩ := Int.eq_ofNat_of_zero_le (by omega : 0 ≤ v)
  have all : ∀ n : ℕ, n < 14 → 1 ≤ n → 1 ≤ UInt8.ofInt (n : ℤ) ∧ UInt8.ofInt (n : ℤ) ≤ 13 := by decide
  exact all n (by omega) (by omega)

theorem takeChannel_valid {root : Json} {s s' : Settings} (valid : Valid s) (h : takeChannel root s = .ok s') :
    Valid s' := by
  unfold takeChannel at h
  split at h
  · cases h
    exact valid
  · split_ifs at h with outside
    cases h
    rw [not_or] at outside
    exact ⟨valid.ssid, valid.password, channel_valid (by omega) (by omega), valid.adminPassword⟩
  · cases h

theorem takePassword_valid {root : Json} {s s' : Settings} (valid : Valid s) (h : takePassword root s = .ok s') :
    Valid s' := by
  unfold takePassword at h
  split_ifs at h
  · cases h
    exact ⟨valid.ssid, .inl rfl, valid.channel, valid.adminPassword⟩
  · split at h
    · cases h
      exact valid
    · split at h
      · cases h
      · rename_i password _
        split_ifs at h with empty invalid
        · cases h
          exact valid
        · cases h
          have range := validWifiPassword_iff.mp (by simpa using invalid)
          have length : (CharArray.copyBounded maxWifiPassLen password).length = password.length := by
            rw [CharArray.copyBounded_length]
            unfold maxWifiPassLen
            omega
          exact ⟨valid.ssid, by dsimp only; rw [length]; exact range, valid.channel, valid.adminPassword⟩

theorem takeNewAdminPassword_valid {root : Json} {s s' : Settings} (valid : Valid s)
    (h : takeNewAdminPassword root s = .ok s') : Valid s' := by
  unfold takeNewAdminPassword at h
  split at h
  · cases h
    exact valid
  · rename_i password _
    split_ifs at h with empty outside
    · cases h
      exact valid
    · cases h
      unfold maxAdminPassLen minAdminPassLen at outside
      have length : (CharArray.copyBounded maxAdminPassLen password).length = password.length := by
        rw [CharArray.copyBounded_length]
        unfold maxAdminPassLen
        omega
      exact ⟨valid.ssid, valid.password, valid.channel, by dsimp only; rw [length]; omega⟩

theorem bind_ok {α β ε : Type} {x : Except ε α} {f : α → Except ε β} {b : β} (h : x >>= f = .ok b) :
    ∃ a, x = .ok a ∧ f a = .ok b := by
  cases x with
  | error e => cases h
  | ok a => exact ⟨a, rfl, h⟩

theorem requested_valid {root : Json} {s s' : Settings} (valid : Valid s) (h : requested root s = .ok s') :
    Valid s' := by
  obtain ⟨c, h, admin⟩ := bind_ok h
  obtain ⟨b, h, password⟩ := bind_ok h
  obtain ⟨a, ssid, channel⟩ := bind_ok h
  exact takeNewAdminPassword_valid (takePassword_valid (takeChannel_valid (takeSsid_valid valid ssid) channel) password)
    admin

theorem authorized_iff {root : Json} {s : Settings} (valid : Valid s) : authorized root s = true ↔
    valuestring (getObjectItem root "adminPassword") = some s.adminPassword.text := by
  unfold authorized
  rw [Option.any_eq_true]
  constructor
  · intro h
    obtain ⟨password, inside, same⟩ := h
    obtain rfl := beq_iff_eq.mp same
    exact (stringInRange_some inside).1
  · intro read
    refine ⟨_, ?_, beq_self_eq_true _⟩
    have long : 4 ≤ s.adminPassword.text.length := valid.adminPassword.1
    have short : s.adminPassword.text.length ≤ 32 := valid.adminPassword.2
    apply Option.filter_eq_some_iff.mpr
    refine ⟨read, ?_⟩
    simp only [Bool.false_or, Bool.and_eq_true, decide_eq_true_eq]
    exact ⟨by omega, short⟩

theorem handleRequested_unauthorized {root : Json} (h : authorized root d.settings = false) :
    Ends (handleRequested root) d (fun _ u => u = d) := by
  apply Ends.bind (E := fun r u => u = d ∧ ∀ s, r = some s → s = d.settings) (.reads ⟨rfl, fun s h => (Option.some.inj h).symm⟩)
    (fun u h => h.1)
  intro current u read
  obtain ⟨rfl, current⟩ := read
  obtain rfl := current _ rfl
  apply Ends.ite (fun _ => sendHttpError_idle _ _ _)
  intro passed
  rw [h] at passed
  exact absurd rfl passed

/-- The power stays on and the flash gives back what was written. -/
def Reliable (r : Reply) : Prop := r.powered = true ∧ r.nvs.error = none

theorem reply_reliable : Returns Reliable DeviceSettings.reply d (fun r u => u = d ∧ Reliable r) :=
  .ask (fun _ h => h.1) (fun _ h => ⟨rfl, h⟩)

theorem nvsCall_reliable : Returns Reliable nvsCall d (fun ret u => u = d ∧ ret = .ok) := by
  apply reply_reliable.bind
  intro r u h
  rw [h.2.2]
  exact .pure ⟨h.1, rfl⟩

theorem nvsRead_reliable {α : Type} (failed : EspErr → α) {read : Device → α} :
    Returns Reliable (do let ret ← nvsCall; if ret ≠ .ok then pure (failed ret) else reads read) d
      (fun a u => u = d ∧ a = read d) := by
  apply nvsCall_reliable.bind
  intro ret u h
  obtain ⟨rfl, rfl⟩ := h
  rw [if_neg (by decide)]
  exact .reads ⟨rfl, rfl⟩

theorem nvsOpenReadonly_reliable {s : Settings} (saved : d.cached = storeOf s) :
    Returns Reliable nvsOpenReadonly d (fun ret u => u = d ∧ ret = .ok) := by
  apply (nvsRead_reliable id).post
  intro ret u h
  refine ⟨h.1, h.2.trans (if_neg ?_)⟩
  rw [saved]
  nofun

theorem nvsGetStr_reliable {limit : ℕ} {key : SettingsStore → Option CString} {a : CharArray limit}
    (saved : key d.cached = some a.text) : Returns Reliable (nvsGetStr limit key) d (fun r u => u = d ∧ r = some a) := by
  apply (nvsRead_reliable (fun _ => none)).post
  intro r u h
  refine ⟨h.1, h.2.trans ?_⟩
  rw [saved, Option.bind_some, dif_pos a.fits]

theorem nvsGetU8_reliable {key : SettingsStore → Option UInt8} {c : UInt8} (saved : key d.cached = some c) :
    Returns Reliable (nvsGetU8 key) d (fun r u => u = d ∧ r = some c) := by
  apply (nvsRead_reliable (fun _ => none)).post
  intro r u h
  exact ⟨h.1, h.2.trans saved⟩

theorem writeSettings_reliable {f : Settings → Settings} {s : Settings} (same : f d.settings = s) :
    Returns Reliable (writeSettings f) d (fun _ u => u.settings = s ∧ u.cached = d.cached) :=
  .writes ⟨same, rfl⟩

theorem chatSettingsLoad_reliable {s : Settings} (valid : Valid s) (saved : d.cached = storeOf s) :
    Returns Reliable (chatSettingsLoad defaults) d (fun _ u => u.settings = s) := by
  apply (writeSettings_reliable rfl).bind
  intro _ a ha
  have stored_a : a.cached = storeOf s := ha.2.trans saved
  apply (nvsOpenReadonly_reliable stored_a).bind
  intro ret a h
  obtain ⟨rfl, rfl⟩ := h
  rw [if_neg (by decide)]
  apply (nvsGetStr_reliable (a := s.ssid) (congrArg SettingsStore.ssid stored_a)).bind
  intro ssid a h
  obtain ⟨rfl, rfl⟩ := h
  apply (writeSettings_reliable rfl).bind
  intro _ b hb
  have stored_b : b.cached = storeOf s := hb.2.trans stored_a
  apply (nvsGetStr_reliable (a := s.password) (congrArg SettingsStore.pass stored_b)).bind
  intro password b h
  obtain ⟨rfl, rfl⟩ := h
  apply (writeSettings_reliable rfl).bind
  intro _ c hc
  have stored_c : c.cached = storeOf s := hc.2.trans stored_b
  apply (nvsGetStr_reliable (a := s.adminPassword) (congrArg SettingsStore.admin stored_c)).bind
  intro adminPassword c h
  obtain ⟨rfl, rfl⟩ := h
  apply (writeSettings_reliable rfl).bind
  intro _ e he
  have stored_e : e.cached = storeOf s := he.2.trans stored_c
  apply (nvsGetU8_reliable (c := s.channel) (congrArg SettingsStore.chan stored_e)).bind
  intro channel e h
  obtain ⟨rfl, rfl⟩ := h
  have read : ({ e.settings with channel := (some s.channel).getD e.settings.channel } : Settings) = s := by
    rw [he.1, hc.1, hb.1]
    rfl
  apply (writeSettings_reliable read).bind
  intro _ f hf
  have kept : (if stored f.settings then f.settings else chatSettingsResetToDefaults defaults) = s := by
    rw [hf.1, if_pos (stored_iff.mpr valid)]
  apply (writeSettings_reliable kept).bind
  intro _ g hg
  exact .writes hg.1

/-- What holds of every request to a device that is on. -/
structure Keeps (defaults : Defaults) (cJSONParse : CJSONParse) (d : Device) (req : Request)
    (after : Outcome Reply Device Handled) : Prop where
  valid : Valid after.world.settings
  refused : ∀ h r, after.result = some h → h.response = some r → isError r = true →
    after.world.settings = d.settings ∨ (r = encodingFailed ∧ after.world.trace = d.trace ++ [.saved .ok])
  unauthorized : (∀ root, supplied cJSONParse req = some root →
    valuestring (getObjectItem root "adminPassword") ≠ some d.settings.adminPassword.text) → after.world = d
  durable : after.world.trace = d.trace ++ [.saved .ok] →
    Returns Reliable (chatSettingsLoad defaults) after.world.reboot (fun _ u => u.settings = after.world.settings)

theorem settingsPostHandler_posted (cJSONParse : CJSONParse) (req : Request) (env : ℕ → Reply) (d : Device) :
    (settingsPostHandler cJSONParse req env d).world = d ∨ ∃ root, supplied cJSONParse req = some root ∧
      Posted root d (settingsPostHandler cJSONParse req env d).world (settingsPostHandler cJSONParse req env d).result := by
  have ends : Ends (settingsPostHandler cJSONParse req) d (fun r u =>
      u = d ∨ ∃ root, supplied cJSONParse req = some root ∧ Posted root d u r) := by
    apply settingsPostHandler_reads
    · intro r
      exact .inl rfl
    · intro root given
      apply (handleRequested_ends root).post
      intro r u posted
      exact .inr ⟨root, given, posted⟩
  exact ends.run env

theorem saved_ne {trace : List SettingsEvent} {e : SettingsEvent} : trace ≠ trace ++ [e] := by
  intro same
  have length := congrArg List.length same
  rw [List.length_append, List.length_singleton] at length
  omega

theorem not_saved {trace trace' : List SettingsEvent}
    (h : trace' = trace ∨ ∃ ret, ret ≠ EspErr.ok ∧ trace' = trace ++ [.saved ret]) : trace' ≠ trace ++ [.saved .ok] := by
  intro saved
  cases h with
  | inl same => exact saved_ne (same.symm.trans saved)
  | inr failed =>
    obtain ⟨ret, error, failed⟩ := failed
    have answers : [SettingsEvent.saved ret] = [.saved .ok] := List.append_cancel_left (failed.symm.trans saved)
    cases answers
    exact error rfl

theorem settingsPostHandler_unauthorized (valid : Valid d.settings) {req : Request}
    (differs : ∀ root, supplied cJSONParse req = some root →
      valuestring (getObjectItem root "adminPassword") ≠ some d.settings.adminPassword.text) :
    Ends (settingsPostHandler cJSONParse req) d (fun _ u => u = d) := by
  apply settingsPostHandler_reads
  · intro _
    rfl
  intro root given
  apply handleRequested_unauthorized
  rw [← Bool.not_eq_true, authorized_iff valid]
  exact differs root given

theorem settingsPostHandler_keeps (valid : Valid d.settings) (req : Request) (env : ℕ → Reply) :
    Keeps defaults cJSONParse d req (settingsPostHandler cJSONParse req env d) := by
  have unchanged : ∀ {u : Device}, u = d → u.trace = d.trace ++ [.saved .ok] → False := by
    intro u same saved
    exact saved_ne ((congrArg Device.trace same).symm.trans saved)
  constructor
  case unauthorized => exact fun differs => (settingsPostHandler_unauthorized valid differs).run env
  all_goals
    rcases settingsPostHandler_posted cJSONParse req env d with same | ⟨root, -, posted⟩
  case valid.inl => exact same.symm ▸ valid
  case refused.inl => exact fun _ _ _ _ _ => .inl (congrArg Device.settings same)
  case durable.inl => exact fun saved => absurd saved (unchanged same)
  case valid.inr =>
    cases posted with
    | kept settings _ => exact settings ▸ valid
    | saved asked _ _ _ => exact requested_valid valid asked
  case refused.inr =>
    cases posted with
    | kept settings _ => exact fun _ _ _ _ _ => .inl settings
    | saved _ trace _ reply => exact fun h r result response error => .inr ⟨reply h result r response error, trace⟩
  case durable.inr =>
    intro saved
    cases posted with
    | kept _ trace => exact absurd saved (not_saved trace)
    | saved asked _ flash _ => exact chatSettingsLoad_reliable (requested_valid valid asked) flash

theorem step_valid {b : Board} (valid : b.on = true → Valid b.device.settings) (e : Event) :
    (step defaults cJSONParse b e).on = true → Valid (step defaults cJSONParse b e).device.settings := by
  cases e with
  | powerOn env =>
    intro on
    obtain ⟨u, loaded⟩ := Option.isSome_iff_exists.mp on
    exact (chatSettingsLoad_valid defaults).run env loaded
  | post req env =>
    unfold step
    dsimp only
    split_ifs with on
    · intro _
      have kept : Keeps defaults cJSONParse b.device req (settingsPostHandler cJSONParse req env b.device) :=
        settingsPostHandler_keeps (valid on) req env
      exact kept.valid
    · exact valid

theorem run_valid (store : SettingsStore) (events : List Event) : (run defaults cJSONParse store events).on = true →
    Valid (run defaults cJSONParse store events).device.settings := by
  induction events using List.reverseRecOn with
  | nil => nofun
  | append_singleton events e ih =>
    unfold run at ih ⊢
    rw [List.foldl_append]
    exact step_valid ih e

/-- The settings are always valid and survive a reboot. Only one error reply can follow a save:
    the one that says that the reply to the save could not be printed. -/
theorem settings_kept (defaults : Defaults) (cJSONParse : CJSONParse) :
    (∀ env d, (chatSettingsLoad defaults env d).result = some () →
      Valid (chatSettingsLoad defaults env d).world.settings) ∧
    ∀ store events, (run defaults cJSONParse store events).on = true → ∀ req env,
      Keeps defaults cJSONParse (run defaults cJSONParse store events).device req
        (settingsPostHandler cJSONParse req env (run defaults cJSONParse store events).device) := by
  constructor
  · intro env d loaded
    exact (chatSettingsLoad_valid defaults).run env loaded
  · intro store events on req env
    exact settingsPostHandler_keeps (run_valid store events on) req env

/-- No error reply to a request to a device that is on has changed the settings. -/
def ErrorsKeep (defaults : Defaults) (cJSONParse : CJSONParse) : Prop :=
  ∀ store events, (run defaults cJSONParse store events).on = true → ∀ req env h r,
    (settingsPostHandler cJSONParse req env (run defaults cJSONParse store events).device).result = some h →
    h.response = some r → isError r = true →
    (settingsPostHandler cJSONParse req env (run defaults cJSONParse store events).device).world.settings =
      (run defaults cJSONParse store events).device.settings

def factory : Defaults := ⟨.ofString "ESPChat", .ofString "esp-chat", 1, .ofString "admin"⟩

def emptyStore : SettingsStore := ⟨none, none, none, none⟩

open ResponseLimit (field quoted braces)

def renameText : List UInt8 :=
  Utf8Texts.encoded (braces [field "adminPassword" (quoted "admin".toList), field "ssid" (quoted "Lab".toList)])

def renameParse : CJSONParse := fun payload =>
  if payload = renameText then some (.obj [("adminPassword", .str "admin"), ("ssid", .str "Lab")], payload.length) else none

/-- There is no memory to print the last reply. -/
def shortOfMemory : ℕ → Reply := fun k => { ResponseLimit.answered with alloc := k != 13 }

def booting : List Event := [.powerOn ResponseLimit.environment]

def booted : Device := (run factory renameParse emptyStore booting).device

def renameRequest : Request := ⟨renameText.length, [renameText]⟩

def renamed : Outcome Reply Device Handled := settingsPostHandler renameParse renameRequest shortOfMemory booted

theorem booted_on : (run factory renameParse emptyStore booting).on = true := by decide +kernel

theorem booted_ssid : booted.settings.ssid.length = 7 := by decide +kernel

theorem renamed_fails : renamed.result.any (fun h => h.response.any isError) = true := by decide +kernel

theorem renamed_ssid : renamed.world.settings.ssid.length = 3 := by decide +kernel

/-- The network is renamed, and the reply is an error. -/
theorem error_after_save : ¬ErrorsKeep factory renameParse := by
  intro keep
  have kept := keep emptyStore booting booted_on renameRequest shortOfMemory
  rw [← booted, ← renamed] at kept
  obtain ⟨h, result, response⟩ := (Option.any_eq_true _ _).mp renamed_fails
  obtain ⟨r, response, error⟩ := (Option.any_eq_true _ _).mp response
  have same : renamed.world.settings = booted.settings := kept h r result response error
  have length := renamed_ssid
  rw [same, booted_ssid] at length
  omega

end EspWebChat.SettingsRuns
