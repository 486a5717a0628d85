import EspWebChat.DeviceSettings
import EspWebChat.JsonGate

set_option autoImplicit false

/-!
# The settings request of `server/http_server.c`

`POST /api/settings` from the body to the reply. The settings are bytes here, because the flash
may hold any, so a string of the parsed text is read as the C string it is stored as.
-/
namespace EspWebChat.SettingsHandler
open CharArrays Interruptible JsonTree JsonGate DeviceSettings
open ServerWorld (EspErr)

def settingsBodyBytes : ℕ := 512

/-- `chunks` are the answers of `httpd_req_recv`; an empty one stands for an error. -/
structure Request where
  contentLen : ℕ
  chunks : List (List UInt8)

inductive Response where
  | json (root : Json)
  | internalError (message : String)

/-- `restarts`: the restart task was created. -/
structure Handled where
  ret : EspErr
  response : Option Response
  restarts : Bool

def allocates : Firmware Bool := do
  let r ← DeviceSettings.reply
  pure r.alloc

def sends : Firmware EspErr := do
  let r ← DeviceSettings.reply
  pure r.send

def addMember (ms : Members) (key : String) (v : Json) : Firmware Members := do
  let done ← allocates
  pure (if done then ms ++ [(key, v)] else ms)

def sendJsonResponse (root : Json) (restarts : Bool) : Firmware Handled := do
  let payload ← allocates
  if !payload then do
    let _ ← sends
    pure ⟨.noMem, some (.internalError "Failed to encode JSON"), restarts⟩
  else do
    let ret ← sends
    pure ⟨ret, some (.json root), restarts⟩

def sendHttpError (code message : String) : Firmware Handled := do
  let root ← allocates
  if !root then do
    let _ ← sends
    pure ⟨.noMem, some (.internalError "Failed to create error response"), false⟩
  else do
    let ms ← addMember [] "ok" (.bool false)
    let ms ← addMember ms "code" (.str code)
    let ms ← addMember ms "message" (.str message)
    sendJsonResponse (.obj ms) false

/-- The loop of `read_request_body`. -/
def receive (contentLen : ℕ) : List (List UInt8) → List UInt8 → Option (List UInt8)
  | [], received => if received.length < contentLen then none else some received
  | chunk :: chunks, received =>
    if received.length < contentLen then
      if chunk = [] then none
      else receive contentLen chunks (received ++ chunk.take (contentLen - received.length))
    else some received

def readRequestBody (req : Request) (maxLen : ℕ) : Firmware (Option (List UInt8)) := do
  if req.contentLen = 0 ∨ maxLen < req.contentLen then pure none
  else do
    let body ← allocates
    pure (if body then receive req.contentLen req.chunks [] else none)

/-- `case_insensitive_strcmp`; only ASCII letters have two cases. -/
def sameName (a b : String) : Bool := a.toList.map Char.toLower == b.toList.map Char.toLower

def getObjectItem (root : Json) (name : String) : Option Json :=
  (root.members.find? (fun m => sameName m.1 name)).map Prod.snd

def valuestring : Option Json → Option CString
  | some (.str s) => some (.ofString s)
  | _ => none

/-- `json_string_in_range`, with the string. -/
def stringInRange (item : Option Json) (maxLen : ℕ) (allowEmpty : Bool) : Option CString :=
  (valuestring item).filter (fun s => (allowEmpty || decide (0 < s.length)) && decide (s.length ≤ maxLen))

/-- `valueint` of a number; the parser yields no NaN. -/
def valueint : Number → ℤ
  | .fin q => if (2147483647 : ℚ) ≤ q then 2147483647 else if q ≤ -2147483648 then -2147483648 else q.num.tdiv q.den
  | .inf negative => if negative then -2147483648 else 2147483647
  | .nan => 0

def isTrue : Option Json → Bool
  | some (.bool b) => b
  | _ => false

structure Refusal where
  code : String
  message : String

def takeSsid (root : Json) (updated : Settings) : Except Refusal Settings :=
  match getObjectItem root "ssid" with
  | none => .ok updated
  | some ssid =>
    match stringInRange (some ssid) maxWifiSsidLen false with
    | none => .error ⟨"bad_ssid", "SSID must be 1 to 32 bytes"⟩
    | some ssid => .ok { updated with ssid := .copyBounded _ ssid }

def takeChannel (root : Json) (updated : Settings) : Except Refusal Settings :=
  match getObjectItem root "channel" with
  | none => .ok updated
  | some (.num n) =>
    if valueint n < 1 ∨ 13 < valueint n then .error ⟨"bad_channel", "Wi-Fi channel must be between 1 and 13"⟩
    else .ok { updated with channel := UInt8.ofInt (valueint n) }
  | some _ => .error ⟨"bad_channel", "Wi-Fi channel must be between 1 and 13"⟩

def takePassword (root : Json) (updated : Settings) : Except Refusal Settings :=
  if isTrue (getObjectItem root "openNetwork") then .ok { updated with password := .empty _ }
  else
    match getObjectItem root "password" with
    | none => .ok updated
    | some password =>
      match valuestring (some password) with
      | none => .error ⟨"bad_password", "Password must be a string"⟩
      | some password =>
        if password.length = 0 then .ok updated
        else if !chatSettingsValidWifiPassword password then .error ⟨"bad_password", "WPA2 password must be 8 to 63 bytes"⟩
        else .ok { updated with password := .copyBounded _ password }

/-- A value that is no string is passed over. -/
def takeNewAdminPassword (root : Json) (updated : Settings) : Except Refusal Settings :=
  match valuestring (getObjectItem root "newAdminPassword") with
  | none => .ok updated
  | some password =>
    if password.length = 0 then .ok updated
    else if maxAdminPassLen < password.length ∨ password.length < minAdminPassLen then
      .error ⟨"bad_admin_password", "New admin password is too short"⟩
    else .ok { updated with adminPassword := .copyBounded _ password }

/-- The settings the request asks for. -/
def requested (root : Json) (settings : Settings) : Except Refusal Settings :=
  takeSsid root settings >>= takeChannel root >>= takePassword root >>= takeNewAdminPassword root

/-- `strcmp` of the supplied admin password and the current one. -/
def authorized (root : Json) (settings : Settings) : Bool :=
  (stringInRange (getObjectItem root "adminPassword") maxAdminPassLen false).any
    (fun password => password == settings.adminPassword.text)

/-- The reply after a save. Without memory for it nothing is sent and no restart is planned. -/
def sendSaved (reboot : Bool) : Firmware Handled := do
  let response ← allocates
  if !response then pure ⟨.noMem, none, false⟩
  else do
    let ms ← addMember [] "ok" (.bool true)
    let ms ← addMember ms "rebootRequired" (.bool true)
    let ms ← addMember ms "restarting" (.bool reboot)
    let ms ← addMember ms "message" (.str (if reboot then "Settings saved. ESP32 is restarting."
      else "Settings saved. Restart the ESP32 to apply Wi-Fi changes."))
    sendJsonResponse (.obj ms) reboot

def saveRequested (root : Json) (updated : Settings) : Firmware Handled := do
  let ret ← chatSettingsSave updated
  record (.saved ret)
  if ret ≠ .ok then sendHttpError "save_failed" "Unable to save settings to NVS"
  else do
    writeSettings (fun _ => updated)
    sendSaved (isTrue (getObjectItem root "reboot"))

def handleRequested (root : Json) : Firmware Handled := do
  let current ← reads (fun d : Device => d.settings)
  if !authorized root current then sendHttpError "unauthorized" "Admin password is incorrect"
  else
    match requested root current with
    | .error refusal => sendHttpError refusal.code refusal.message
    | .ok updated => saveRequested root updated

/-- The parser may also run out of memory. -/
def settingsPostHandler (cJSONParse : CJSONParse) (req : Request) : Firmware Handled := do
  let body ← readRequestBody req settingsBodyBytes
  match body with
  | none => sendHttpError "bad_body" "Settings payload is empty or too large"
  | some body => do
    let memory ← allocates
    match if memory then chatJsonParseObject cJSONParse body else none with
    | none => sendHttpError "bad_json" "Settings payload must be a JSON object"
    | some root => handleRequested root

end EspWebChat.SettingsHandler
