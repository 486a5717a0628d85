import EspWebChat.SettingsDialog

set_option autoImplicit false

/-!
# `network/softap.c`

The access point is started once in every boot, with the settings that were loaded for it. What is
saved later waits for the next boot.
-/
namespace EspWebChat.AccessPoint
open CharArrays Interruptible JsonTree JsValues DeviceSettings SettingsHandler SettingsSteps SettingsRuns SettingsPage SettingsDialog
open JsonGate (CJSONParse)
open ServerWorld (EspErr Reply)
open Utf8Texts (encoded)

inductive AuthMode where
  | opened
  | wpa2Psk
  deriving DecidableEq, Repr

/-- The access point of `wifi_config_t`. The array of the SSID has no place for a terminator. -/
structure ApConfig where
  ssid : List UInt8
  password : CharArray maxWifiPassLen
  ssidLen : UInt8
  channel : UInt8
  maxConnection : ℕ
  authmode : AuthMode

def wifiConfig (maxStaConn : ℕ) (s : Settings) : ApConfig where
  ssid := s.ssid.text.bytes ++ List.replicate (maxWifiSsidLen - s.ssid.length) 0
  password := .copyBounded _ s.password.text
  ssidLen := UInt8.ofNat s.ssid.length
  channel := s.channel
  maxConnection := maxStaConn
  authmode := if s.password.length = 0 then .opened else .wpa2Psk

/-- `ESP_ERROR_CHECK`. A call that fails ends the boot as a loss of power does. -/
def checked : Firmware Unit := do
  let _ ← ask (fun r : Reply => r.powered && decide (r.send = .ok))
  pure ()

def chatSoftapStart (maxStaConn : ℕ) : Firmware ApConfig := do
  checked
  checked
  let _ ← ask (fun r : Reply => r.powered && r.alloc)
  checked
  checked
  checked
  let _ ← DeviceSettings.reply
  checked
  let s ← reads Device.settings
  checked
  checked
  checked
  pure (wifiConfig maxStaConn s)

structure Host where
  board : Board
  ap : Option ApConfig

def Host.initial (store : SettingsStore) : Host := ⟨.initial store, none⟩

/-- `app_main` erases a flash that is full or of another version; such a boot is not among the events. -/
inductive HostEvent where
  | powerOn (env start : ℕ → Reply)
  | post (req : Request) (env : ℕ → Reply)

def hostStep (defaults : Defaults) (maxStaConn : ℕ) (cJSONParse : CJSONParse) (h : Host) : HostEvent → Host
  | .powerOn env start =>
    let loaded := step defaults cJSONParse h.board (.powerOn env)
    if loaded.on then
      let started := chatSoftapStart maxStaConn start loaded.device
      ⟨⟨started.world, started.result.isSome⟩, started.result⟩
    else ⟨loaded, none⟩
  | .post req env =>
    let b := step defaults cJSONParse h.board (.post req env)
    ⟨b, if b.on then h.ap else none⟩

def hostRun (defaults : Defaults) (maxStaConn : ℕ) (cJSONParse : CJSONParse) (store : SettingsStore) (events : List HostEvent) : Host :=
  events.foldl (hostStep defaults maxStaConn cJSONParse) (Host.initial store)

variable {defaults : Defaults} {maxStaConn : ℕ} {cJSONParse : CJSONParse} {d : Device} {s : Settings}

theorem ask_idle {alive : Reply → Bool} : Idle (ask alive : Firmware Reply) := fun _ => .ask rfl (fun _ _ => rfl)

theorem checked_idle : Idle checked := ask_idle.andThen (fun _ => .pure _)

theorem chatSoftapStart_ends : Ends (chatSoftapStart maxStaConn) d (fun r u => u = d ∧ ∀ c, r = some c →
    c = wifiConfig maxStaConn d.settings) := by
  have cut : d = d ∧ ∀ c, (none : Option ApConfig) = some c → c = wifiConfig maxStaConn d.settings := ⟨rfl, nofun⟩
  unfold chatSoftapStart
  apply checked_idle.bind cut
  intro _
  apply checked_idle.bind cut
  intro _
  apply ask_idle.bind cut
  intro _
  apply checked_idle.bind cut
  intro _
  apply checked_idle.bind cut
  intro _
  apply checked_idle.bind cut
  intro _
  apply reply_idle.bind cut
  intro _
  apply checked_idle.bind cut
  intro _
  apply Ends.bind (E := fun r u => u = d ∧ ∀ s, r = some s → s = d.settings) (.reads ⟨rfl, fun s h => (Option.some.inj h).symm⟩)
    (fun u h => ⟨h.1, nofun⟩)
  rintro s u ⟨rfl, same⟩
  obtain rfl := same _ rfl
  apply checked_idle.bind cut
  intro _
  apply checked_idle.bind cut
  intro _
  apply checked_idle.bind cut
  intro _
  exact .pure ⟨rfl, fun c h => (Option.some.inj h).symm⟩

def Starts (r : Reply) : Prop := r.powered = true ∧ r.alloc = true ∧ r.send = .ok

theorem checked_starts : Returns Starts checked d (fun _ u => u = d) := by
  apply Returns.bind (P := fun _ u => u = d)
  · exact .ask (fun r h => by rw [h.1, h.2.2]; rfl) (fun _ _ => rfl)
  · rintro _ u rfl
    exact .pure rfl

theorem checked_next {α : Type} {m : Firmware α} {P : α → Device → Prop} (k : Returns Starts m d P) :
    Returns Starts (checked >>= fun _ => m) d P := by
  apply checked_starts.bind
  rintro _ u rfl
  exact k

theorem chatSoftapStart_starts : Returns Starts (chatSoftapStart maxStaConn) d (fun c u =>
    c = wifiConfig maxStaConn d.settings ∧ u = d) := by
  have netif : Returns Starts (ask (fun r : Reply => r.powered && r.alloc)) d (fun _ u => u = d) :=
    .ask (fun r h => by rw [h.1, h.2.1]; rfl) (fun _ _ => rfl)
  have dns : Returns Starts DeviceSettings.reply d (fun _ u => u = d) := .ask (fun _ h => h.1) (fun _ _ => rfl)
  unfold chatSoftapStart
  apply checked_next
  apply checked_next
  apply netif.bind
  rintro _ u rfl
  apply checked_next
  apply checked_next
  apply checked_next
  apply dns.bind
  rintro _ u rfl
  apply checked_next
  apply Returns.bind (P := fun s v => s = u.settings ∧ v = u) (.reads ⟨rfl, rfl⟩)
  rintro s v ⟨rfl, rfl⟩
  apply checked_next
  apply checked_next
  apply checked_next
  exact .pure ⟨rfl, rfl⟩

/-- What `esp_wifi_set_config` asks of an access point. -/
structure Startable (c : ApConfig) : Prop where
  array : c.ssid.length = 32
  named : 1 ≤ c.ssidLen ∧ c.ssidLen ≤ 32
  name : ∀ b ∈ c.ssid.take c.ssidLen.toNat, b ≠ 0
  rest : ∀ b ∈ c.ssid.drop c.ssidLen.toNat, b = 0
  channel : 1 ≤ c.channel ∧ c.channel ≤ 13
  secured : c.authmode = .wpa2Psk → 8 ≤ c.password.length ∧ c.password.length ≤ 63
  unsecured : c.authmode = .opened → c.password.length = 0

theorem ssidLen_value (s : Settings) : (wifiConfig maxStaConn s).ssidLen.toNat = s.ssid.length := by
  have short : s.ssid.length ≤ 32 := s.ssid.length_le
  change (UInt8.ofNat s.ssid.length).toNat = _
  rw [UInt8.toNat_ofNat']
  omega

theorem wifiConfig_password (s : Settings) : (wifiConfig maxStaConn s).password = s.password :=
  CharArray.ext (CharArray.copyBounded_text s.password.length_le)

theorem wifiConfig_startable (valid : Valid s) : Startable (wifiConfig maxStaConn s) := by
  have long := valid.ssid
  have name : (wifiConfig maxStaConn s).ssid.take (wifiConfig maxStaConn s).ssidLen.toNat = s.ssid.text.bytes := by
    rw [ssidLen_value]
    exact List.take_left
  have rest : (wifiConfig maxStaConn s).ssid.drop (wifiConfig maxStaConn s).ssidLen.toNat =
      List.replicate (maxWifiSsidLen - s.ssid.length) 0 := by
    rw [ssidLen_value]
    exact List.drop_left
  constructor
  case array =>
    change (s.ssid.text.bytes ++ List.replicate (32 - s.ssid.length) 0).length = 32
    rw [List.length_append, List.length_replicate]
    change s.ssid.length + (32 - s.ssid.length) = 32
    omega
  case named =>
    rw [UInt8.le_iff_toNat_le, UInt8.le_iff_toNat_le, ssidLen_value]
    exact long
  case name =>
    rw [name]
    intro b among zero
    exact s.ssid.text.clean (zero ▸ among)
  case rest =>
    rw [rest]
    exact fun b among => List.eq_of_mem_replicate among
  case channel => exact valid.channel
  case secured =>
    intro secured
    rw [wifiConfig_password]
    change (if s.password.length = 0 then AuthMode.opened else .wpa2Psk) = .wpa2Psk at secured
    split_ifs at secured with empty
    rcases valid.password with none | range
    · exact absurd none empty
    · exact range
  case unsecured =>
    intro unsecured
    rw [wifiConfig_password]
    change (if s.password.length = 0 then AuthMode.opened else .wpa2Psk) = .opened at unsecured
    split_ifs at unsecured with empty
    exact empty

/-- A board that is on has valid settings, and an access point that was started with valid ones. -/
def Serving (maxStaConn : ℕ) (h : Host) : Prop :=
  h.board.on = true → Valid h.board.device.settings ∧ ∃ s, Valid s ∧ h.ap = some (wifiConfig maxStaConn s)

theorem hostStep_serving {h : Host} (serving : Serving maxStaConn h) (e : HostEvent) :
    Serving maxStaConn (hostStep defaults maxStaConn cJSONParse h e) := by
  cases e with
  | powerOn env start =>
    unfold hostStep
    dsimp only
    split_ifs with loaded
    · intro on
      have valid : Valid (step defaults cJSONParse h.board (.powerOn env)).device.settings :=
        step_valid (fun on => (serving on).1) (.powerOn env) loaded
      obtain ⟨c, started⟩ := Option.isSome_iff_exists.mp on
      have ends : Ends (chatSoftapStart maxStaConn) (step defaults cJSONParse h.board (.powerOn env)).device
          (fun r u => u = (step defaults cJSONParse h.board (.powerOn env)).device ∧ ∀ c, r = some c →
            c = wifiConfig maxStaConn (step defaults cJSONParse h.board (.powerOn env)).device.settings) :=
        chatSoftapStart_ends
      obtain ⟨same, config⟩ := ends.run start
      refine ⟨?_, _, valid, ?_⟩
      · rw [same]
        exact valid
      · rw [started]
        exact congrArg some (config c started)
    · intro on
      exact absurd on loaded
  | post req env =>
    intro on
    have on' : (step defaults cJSONParse h.board (.post req env)).on = true := on
    have before : h.board.on = true := by
      unfold step at on'
      dsimp only at on'
      split_ifs at on' with was
      · exact was
      · exact on'
    obtain ⟨valid, s, valid_s, ap⟩ := serving before
    refine ⟨step_valid (fun _ => valid) (.post req env) on', s, valid_s, ?_⟩
    change (if (step defaults cJSONParse h.board (.post req env)).on = true then h.ap else none) = _
    rw [if_pos on', ap]

theorem hostRun_serving (store : SettingsStore) (events : List HostEvent) :
    Serving maxStaConn (hostRun defaults maxStaConn cJSONParse store events) := by
  induction events using List.reverseRecOn with
  | nil =>
    intro on
    cases on
  | append_singleton events e ih =>
    unfold hostRun at ih ⊢
    rw [List.foldl_append]
    exact hostStep_serving ih e

/-- In every run, whatever was in flash at first, what was posted and where the power went, an access point that is
    on was started with a configuration that the driver takes, and the name has not run over its array. -/
theorem access_point_startable (defaults : Defaults) (maxStaConn : ℕ) (cJSONParse : CJSONParse) (store : SettingsStore)
    (events : List HostEvent) (on : (hostRun defaults maxStaConn cJSONParse store events).board.on = true) :
    ∃ c, (hostRun defaults maxStaConn cJSONParse store events).ap = some c ∧ Startable c := by
  obtain ⟨-, s, valid, ap⟩ := hostRun_serving store events on
  exact ⟨_, ap, wifiConfig_startable valid⟩

def hostBooting : List HostEvent := [.powerOn ResponseLimit.environment ResponseLimit.environment]

theorem host_on : (hostRun factory 4 formParse emptyStore hostBooting).board.on = true := by decide +kernel

theorem access_point_startable_factory :
    ∃ c, (hostRun factory 4 formParse emptyStore hostBooting).ap = some c ∧ Startable c :=
  access_point_startable factory 4 formParse emptyStore hostBooting host_on

def SameFlash (d u : Device) : Prop := u.flash = d.flash

instance : Std.Refl SameFlash := ⟨fun _ => rfl⟩
instance : IsTrans Device SameFlash := ⟨fun _ _ _ h k => k.trans h⟩

theorem reply_flash : Within SameFlash DeviceSettings.reply := .ask

theorem nvsCall_flash : Within SameFlash nvsCall := by
  apply reply_flash.bind
  intro r
  cases r.nvs.error with
  | none => exact .pure _
  | some e => exact .pure _

theorem writeSettings_flash (f : Settings → Settings) : Within SameFlash (writeSettings f) := .writes (fun _ => rfl)

theorem nvsGetStr_flash (limit : ℕ) (key : SettingsStore → Option CString) : Within SameFlash (nvsGetStr limit key) :=
  nvsCall_flash.bind (fun _ => .ite (.pure _) .reads)

theorem nvsGetU8_flash (key : SettingsStore → Option UInt8) : Within SameFlash (nvsGetU8 key) :=
  nvsCall_flash.bind (fun _ => .ite (.pure _) .reads)

/-- Loading writes nothing to flash, also where it falls back to the defaults. -/
theorem chatSettingsLoad_flash (defaults : Defaults) : Within SameFlash (chatSettingsLoad defaults) := by
  have opened : Within SameFlash nvsOpenReadonly := nvsCall_flash.bind (fun _ => .ite (.pure _) .reads)
  have loaded : Within SameFlash (record .loaded) := .writes (fun _ => rfl)
  unfold chatSettingsLoad
  apply (writeSettings_flash _).bind
  intro _
  apply opened.bind
  intro ret
  apply Within.ite loaded
  apply (nvsGetStr_flash _ _).bind
  intro ssid
  apply (writeSettings_flash _).bind
  intro _
  apply (nvsGetStr_flash _ _).bind
  intro password
  apply (writeSettings_flash _).bind
  intro _
  apply (nvsGetStr_flash _ _).bind
  intro adminPassword
  apply (writeSettings_flash _).bind
  intro _
  apply (nvsGetU8_flash _).bind
  intro channel
  apply (writeSettings_flash _).bind
  intro _
  apply (writeSettings_flash _).bind
  intro _
  exact loaded

def HostEvent.boots : HostEvent → Bool
  | .powerOn _ _ => true
  | .post _ _ => false

theorem hostStep_flash {h : Host} {e : HostEvent} (boots : e.boots = true) :
    (hostStep defaults maxStaConn cJSONParse h e).board.device.flash = h.board.device.flash := by
  cases e with
  | powerOn env start =>
    have loaded : (step defaults cJSONParse h.board (.powerOn env)).device.flash = h.board.device.flash :=
      (chatSettingsLoad_flash defaults).run h.board.device.reboot env
    unfold hostStep
    dsimp only
    split_ifs with on
    · have ends : Ends (chatSoftapStart maxStaConn) (step defaults cJSONParse h.board (.powerOn env)).device
          (fun _ u => u = (step defaults cJSONParse h.board (.powerOn env)).device) :=
        chatSoftapStart_ends.post (fun _ _ ended => ended.1)
      exact (congrArg Device.flash (ends.run start)).trans loaded
    · exact loaded
  | post req env => cases boots

theorem boots_flash {h : Host} {events : List HostEvent} (boots : ∀ e ∈ events, e.boots = true) :
    (events.foldl (hostStep defaults maxStaConn cJSONParse) h).board.device.flash = h.board.device.flash := by
  induction events generalizing h with
  | nil => rfl
  | cons e events ih =>
    rw [List.foldl_cons, ih (fun x among => boots x (List.mem_cons_of_mem _ among))]
    exact hostStep_flash (boots e List.mem_cons_self)

theorem powerOn_starts {h : Host} {load start : ℕ → Reply} (valid : Valid s) (saved : h.board.device.flash = storeOf s)
    (loads : ∀ k, Reliable (load k)) (starts : ∀ k, Starts (start k)) :
    ∃ u, hostStep defaults maxStaConn cJSONParse h (.powerOn load start) = ⟨⟨u, true⟩, some (wifiConfig maxStaConn s)⟩ ∧
      u.settings = s := by
  have load_ok : Returns Reliable (chatSettingsLoad defaults) h.board.device.reboot (fun _ u => u.settings = s) :=
    chatSettingsLoad_reliable valid saved
  obtain ⟨_, u, rest, loaded, -, settings⟩ := load_ok.run load loads
  have stepped : step defaults cJSONParse h.board (.powerOn load) = ⟨u, true⟩ := by
    unfold step
    dsimp only
    rw [loaded]
    rfl
  have start_ok : Returns Starts (chatSoftapStart maxStaConn) u (fun c v => c = wifiConfig maxStaConn u.settings ∧ v = u) :=
    chatSoftapStart_starts
  obtain ⟨c, v, rest', started, -, config, same⟩ := start_ok.run start starts
  refine ⟨u, ?_, settings⟩
  unfold hostStep
  dsimp only
  rw [stepped, if_pos rfl, started, same, config, settings]
  rfl

theorem taken_saved {h : Host} {f : Form} {reboot : Bool} {body : Json} {req : Request} {env : ℕ → Reply}
    (on : h.board.on = true) (valid : Valid h.board.device.settings) (submits : saveSettings f reboot = .ok body)
    (carries : Carries cJSONParse body req) (taken : Taken f h.board.device.settings req) (fine : ∀ k, Fine (env k)) :
    ∃ u, hostStep defaults maxStaConn cJSONParse h (.post req env) = ⟨⟨u, true⟩, h.ap⟩ ∧
      u.flash = storeOf (typedOver f h.board.device.settings) := by
  obtain ⟨answer, u, stepped, -, replied⟩ := form_step defaults on valid submits carries fine
  refine ⟨u, ?_, ?_⟩
  · unfold hostStep
    dsimp only
    rw [stepped, if_pos rfl]
  · rcases replied with ⟨-, settings, flash, -⟩ | ⟨refused, -⟩
    · rw [flash, settings]
    · exact absurd taken refused

theorem typedOver_valid {f : Form} (valid : Valid s) (accepts : Accepts f) (typed : Typed f) (fits : FitsDevice f) :
    Valid (typedOver f s) := by
  have asked : requested (submitted f false) s = .ok (typedOver f s) :=
    (requested_submitted accepts typed).mpr ⟨fits, rfl⟩
  exact requested_valid valid asked

theorem hostRun_append (store : SettingsStore) (events more : List HostEvent) :
    hostRun defaults maxStaConn cJSONParse store (events ++ more) =
      more.foldl (hostStep defaults maxStaConn cJSONParse) (hostRun defaults maxStaConn cJSONParse store events) :=
  List.foldl_append

/-- In every run, a network that was typed and taken leaves the one on the air as it is. However many boots are cut off
    or do not get at the flash, the next one that goes well starts what was typed, and the dialog shows it. -/
theorem typed_network_starts (defaults : Defaults) (maxStaConn : ℕ) (cJSONParse : CJSONParse) (store : SettingsStore)
    (events boots : List HostEvent) (on : (hostRun defaults maxStaConn cJSONParse store events).board.on = true)
    (f : Form) (reboot : Bool) (body : Json) (req : Request) (submits : saveSettings f reboot = .ok body)
    (carries : Carries cJSONParse body req) (line : ∀ c ∈ f.ssid.toList, c ≠ '\n' ∧ c ≠ '\r')
    (taken : Taken f (hostRun defaults maxStaConn cJSONParse store events).board.device.settings req)
    (env load start : ℕ → Reply) (fine : ∀ k, Fine (env k)) (only : ∀ e ∈ boots, e.boots = true)
    (loads : ∀ k, Reliable (load k)) (starts : ∀ k, Starts (start k)) :
    let h := hostRun defaults maxStaConn cJSONParse store events
    let saved := hostRun defaults maxStaConn cJSONParse store (events ++ [.post req env])
    let next := hostRun defaults maxStaConn cJSONParse store (events ++ [.post req env] ++ boots ++ [.powerOn load start])
    saved.board.on = true ∧ saved.ap = h.ap ∧ next.board.on = true ∧
    next.ap = some (wifiConfig maxStaConn (typedOver f h.board.device.settings)) ∧
    ∀ decode, (∀ t, '\x00' ∉ t.toList → decode (CString.ofString t) = t) →
      Returns Fine (settingsGetHandler decode) next.board.device (fun answer v => v = next.board.device ∧
        ∃ data, answer = ⟨.ok, some (.json data), false⟩ ∧
          ∀ before, Shows cJSONParse next.board.device (trim f.ssid) (openSettings before (.ok data)).form) := by
  have serving : Serving maxStaConn (hostRun defaults maxStaConn cJSONParse store events) := hostRun_serving store events
  have valid := (serving on).1
  have accepts := (saveSettings_ok submits).2.2
  have valid' := typedOver_valid valid accepts taken.typed taken.fits
  dsimp only
  rw [hostRun_append, hostRun_append, hostRun_append, hostRun_append]
  generalize hostRun defaults maxStaConn cJSONParse store events = h at on taken valid valid'
  have posted : ∃ u, hostStep defaults maxStaConn cJSONParse h (.post req env) = ⟨⟨u, true⟩, h.ap⟩ ∧
      u.flash = storeOf (typedOver f h.board.device.settings) := taken_saved on valid submits carries taken fine
  obtain ⟨u, saved, flash⟩ := posted
  rw [List.foldl_cons, List.foldl_nil, saved, List.foldl_cons, List.foldl_nil]
  have before : (boots.foldl (hostStep defaults maxStaConn cJSONParse) ⟨⟨u, true⟩, h.ap⟩).board.device.flash =
      storeOf (typedOver f h.board.device.settings) := by
    rw [boots_flash only]
    exact flash
  generalize boots.foldl (hostStep defaults maxStaConn cJSONParse) ⟨⟨u, true⟩, h.ap⟩ = cut at before
  have well : ∃ v, hostStep defaults maxStaConn cJSONParse cut (.powerOn load start) =
      ⟨⟨v, true⟩, some (wifiConfig maxStaConn (typedOver f h.board.device.settings))⟩ ∧
      v.settings = typedOver f h.board.device.settings := powerOn_starts valid' before loads starts
  obtain ⟨v, started, settings⟩ := well
  rw [started]
  refine ⟨rfl, rfl, rfl, rfl, ?_⟩
  intro decode decodes
  have showable : Showable (trim f.ssid) v.settings := by
    rw [settings]
    exact typedOver_showable accepts taken.typed taken.fits line
  have valid_v : Valid v.settings := by
    rw [settings]
    exact valid'
  exact dialog_shows valid_v showable decodes

def cutBoot : HostEvent := .powerOn (fun _ => { ResponseLimit.environment 0 with powered := false }) ResponseLimit.environment

theorem host_taken : Taken change (hostRun factory 4 formParse emptyStore hostBooting).board.device.settings (requestOf change) where
  admin := by decide +kernel
  clean := by decide
  typed := ⟨by decide, by decide, by decide⟩
  fits := ⟨by decide, .inr (by decide), by decide⟩
  short := by decide +kernel

theorem typed_network_starts_change :
    (hostRun factory 4 formParse emptyStore (hostBooting ++ [.post (requestOf change) ResponseLimit.environment] ++ [cutBoot] ++
      [.powerOn ResponseLimit.environment ResponseLimit.environment])).ap =
      some (wifiConfig 4 (typedOver change (hostRun factory 4 formParse emptyStore hostBooting).board.device.settings)) := by
  have only : ∀ e ∈ [cutBoot], e.boots = true := by
    intro e among
    rw [List.mem_singleton.mp among]
    rfl
  exact (typed_network_starts factory 4 formParse emptyStore hostBooting [cutBoot] host_on change false _ (requestOf change)
    (saveSettings_accepts false accepts_change.1 accepts_change.2) (carries_form plain_change change_parsed) change_line
    host_taken ResponseLimit.environment ResponseLimit.environment ResponseLimit.environment environment_fine only
    (fun _ => ⟨rfl, rfl⟩) (fun _ => ⟨rfl, rfl, rfl⟩)).2.2.2.1

end EspWebChat.AccessPoint
