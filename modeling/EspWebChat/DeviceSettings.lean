import EspWebChat.CharArrays
import EspWebChat.Interruptible
import EspWebChat.ServerWorld

set_option autoImplicit false

/-!
# `common/settings.c`

The Wi-Fi settings of the device, and the NVS namespace `chatcfg` in which they are kept.
-/
namespace EspWebChat.DeviceSettings
open CharArrays Interruptible ServerWorld

/-! `chat_config.h` -/
def maxWifiSsidLen : ℕ := 32
def minWifiPassLen : ℕ := 8
def maxWifiPassLen : ℕ := 63
def minAdminPassLen : ℕ := 4
def maxAdminPassLen : ℕ := 32

/-- The values of `Kconfig.projbuild` the firmware was built with. -/
structure Defaults where
  ssid : CString
  password : CString
  channel : ℤ
  adminPassword : CString

structure Settings where
  ssid : CharArray maxWifiSsidLen
  password : CharArray maxWifiPassLen
  channel : UInt8
  adminPassword : CharArray maxAdminPassLen
  deriving DecidableEq

def Settings.zero : Settings := ⟨.empty _, .empty _, 0, .empty _⟩

def chatSettingsValidWifiPassword (password : CString) : Bool :=
  password.length == 0 || (decide (minWifiPassLen ≤ password.length) && decide (password.length ≤ maxWifiPassLen))

def chatSettingsResetToDefaults (d : Defaults) : Settings :=
  let ssid := CharArray.copyBounded maxWifiSsidLen d.ssid
  let password := CharArray.copyBounded maxWifiPassLen d.password
  let channel := UInt8.ofInt d.channel
  let adminPassword := CharArray.copyBounded maxAdminPassLen d.adminPassword
  { ssid := if ssid.length = 0 then .copyBounded _ (.ofString "ESPChat") else ssid
    password := if !chatSettingsValidWifiPassword password.text then .copyBounded _ (.ofString "esp-chat") else password
    channel := if channel < 1 ∨ 13 < channel then 1 else channel
    adminPassword := if adminPassword.length < minAdminPassLen then .copyBounded _ (.ofString "admin") else adminPassword }

/-- The condition under which the loader keeps what it has read. -/
def stored (s : Settings) : Bool :=
  !(decide (s.ssid.length = 0) || !chatSettingsValidWifiPassword s.password.text || decide (s.channel < 1) ||
    decide (13 < s.channel) || decide (s.adminPassword.length < minAdminPassLen))

/-- A key that is missing or of another type is `none`. -/
structure SettingsStore where
  ssid : Option CString
  pass : Option CString
  admin : Option CString
  chan : Option UInt8
  deriving DecidableEq

/-- What can be observed of the settings over all boots: when they were loaded, and the answers
    of `chat_settings_save`. -/
inductive SettingsEvent where
  | loaded
  | saved (ret : EspErr)
  deriving DecidableEq

/-- `cached` is what `nvs_get_*` reads, `flash` what a power loss leaves. -/
structure Device where
  settings : Settings
  cached : SettingsStore
  flash : SettingsStore
  trace : List SettingsEvent
  deriving DecidableEq

abbrev Firmware (α : Type) := Comp Reply Device α

def reply : Firmware Reply := ask Reply.powered

def record (e : SettingsEvent) : Firmware Unit := writes (fun d => { d with trace := d.trace ++ [e] })

def writeSettings (f : Settings → Settings) : Firmware Unit := writes (fun d => { d with settings := f d.settings })

def nvsCall : Firmware EspErr := do
  let r ← reply
  match r.nvs.error with
  | some e => pure e.val
  | none => pure .ok

/-- `nvs_open` with `NVS_READONLY`. A namespace without keys counts as absent. -/
def nvsOpenReadonly : Firmware EspErr := do
  let ret ← nvsCall
  if ret ≠ .ok then pure ret
  else reads (fun d => if d.cached = ⟨none, none, none, none⟩ then .nvsNotFound else .ok)

/-- `nvs_get_str` into an array of `limit + 1` characters: what does not fit is not read. -/
def nvsGetStr (limit : ℕ) (key : SettingsStore → Option CString) : Firmware (Option (CharArray limit)) := do
  let ret ← nvsCall
  if ret ≠ .ok then pure none
  else reads (fun d => (key d.cached).bind (fun s => if h : s.length ≤ limit then some ⟨s, h⟩ else none))

def nvsGetU8 (key : SettingsStore → Option UInt8) : Firmware (Option UInt8) := do
  let ret ← nvsCall
  if ret ≠ .ok then pure none else reads (fun d => key d.cached)

/-- Whether a failed call has written is left open, and so is whether flash has the value
    before the commit. -/
def nvsSet (f : SettingsStore → SettingsStore) : Firmware EspErr := do
  let r ← reply
  writes (fun d => { d with
    cached := if r.nvs.error.isNone || r.nvs.written then f d.cached else d.cached
    flash := if r.nvs.written then f d.flash else d.flash })
  match r.nvs.error with
  | some e => pure e.val
  | none => pure .ok

def nvsCommit : Firmware EspErr := do
  let r ← reply
  writes (fun d => { d with flash := if r.nvs.error.isNone || r.nvs.written then d.cached else d.flash })
  match r.nvs.error with
  | some e => pure e.val
  | none => pure .ok

def chatSettingsLoad (d : Defaults) : Firmware Unit := do
  writeSettings (fun _ => chatSettingsResetToDefaults d)
  let ret ← nvsOpenReadonly
  if ret ≠ .ok then record .loaded
  else do
    let ssid ← nvsGetStr maxWifiSsidLen SettingsStore.ssid
    writeSettings (fun s => { s with ssid := ssid.getD s.ssid })
    let password ← nvsGetStr maxWifiPassLen SettingsStore.pass
    writeSettings (fun s => { s with password := password.getD s.password })
    let adminPassword ← nvsGetStr maxAdminPassLen SettingsStore.admin
    writeSettings (fun s => { s with adminPassword := adminPassword.getD s.adminPassword })
    let channel ← nvsGetU8 SettingsStore.chan
    writeSettings (fun s => { s with channel := channel.getD s.channel })
    writeSettings (fun s => if stored s then s else chatSettingsResetToDefaults d)
    record .loaded

def setSsid (s : Settings) (store : SettingsStore) : SettingsStore := { store with ssid := some s.ssid.text }
def setPass (s : Settings) (store : SettingsStore) : SettingsStore := { store with pass := some s.password.text }
def setAdmin (s : Settings) (store : SettingsStore) : SettingsStore := { store with admin := some s.adminPassword.text }
def setChan (s : Settings) (store : SettingsStore) : SettingsStore := { store with chan := some s.channel }

def chatSettingsSave (s : Settings) : Firmware EspErr := do
  let opened ← nvsCall
  if opened ≠ .ok then pure opened
  else do
    let ssid ← nvsSet (setSsid s)
    if ssid ≠ .ok then pure ssid
    else do
      let pass ← nvsSet (setPass s)
      if pass ≠ .ok then pure pass
      else do
        let admin ← nvsSet (setAdmin s)
        if admin ≠ .ok then pure admin
        else do
          let chan ← nvsSet (setChan s)
          if chan ≠ .ok then pure chan else nvsCommit

/-- The device after its power was cut: the context is zeroed and the cache gone. -/
def Device.reboot (d : Device) : Device := { d with settings := .zero, cached := d.flash }

end EspWebChat.DeviceSettings
