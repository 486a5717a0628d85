import EspWebChat.GateLanguage
import EspWebChat.SettingsRuns

set_option autoImplicit false

/-!
# The settings page of `script.js`

What `saveSettings` submits, and for whom the next save is open once the admin password has been
changed. The page trims the admin password before it sends it, but not the new one.
-/
namespace EspWebChat.SettingsPage
open CharArrays Interruptible JsonTree JsValues JsonGrammar DeviceSettings SettingsHandler SettingsSteps SettingsRuns
open JsonGate (CJSONParse chatJsonParseObject maxJsonNestingDepth)
open GateLanguage (TextOf Intended)
open ServerWorld (EspErr Reply)
open Utf8Texts (encoded)

structure Form where
  adminPassword : String
  ssid : String
  channel : String
  wifiPassword : String
  openNetwork : Bool
  newAdminPassword : String

/-- `Number.isInteger(channel)` between 1 and 13. -/
def channelAllowed : Number → Bool
  | .fin q => q.den == 1 && decide (1 ≤ q) && decide (q ≤ 13)
  | _ => false

def submitted (f : Form) (reboot : Bool) : Json :=
  .obj [("adminPassword", .str (trim f.adminPassword)), ("ssid", .str (trim f.ssid)), ("password", .str f.wifiPassword),
    ("openNetwork", .bool f.openNetwork), ("channel", .num (numberOfText f.channel)),
    ("newAdminPassword", .str f.newAdminPassword), ("reboot", .bool reboot)]

/-- Nothing is submitted when a text is shown instead. -/
def saveSettings (f : Form) (reboot : Bool) : Except String Json :=
  let password := f.wifiPassword
  let newAdminPassword := f.newAdminPassword
  if trim f.adminPassword = "" then .error "Admin password is required."
  else if trim f.ssid = "" then .error "SSID cannot be empty."
  else if !channelAllowed (numberOfText f.channel) then .error "Channel must be between 1 and 13."
  else if f.openNetwork = false ∧ password ≠ "" ∧ (utf16Length password < 8 ∨ 63 < utf16Length password) then
    .error "Wi-Fi password must be 8 to 63 characters, or left blank to keep the current password."
  else if newAdminPassword ≠ "" ∧ (utf16Length newAdminPassword < 4 ∨ 32 < utf16Length newAdminPassword) then
    .error "New admin password must be 4 to 32 characters."
  else .ok (submitted f reboot)

/-- The request has the text of `body` as its body, and the parser reads the tree back from it. -/
structure Carries (cJSONParse : CJSONParse) (body : Json) (req : Request) : Prop where
  text : ∃ cs stop, TextOf body cs stop ∧ cJSONParse (encoded cs) = some (body, stop) ∧
    req.contentLen = (encoded cs).length ∧ receive req.contentLen req.chunks [] = some (encoded cs)

/-- The page's own checks of everything but the admin password. -/
structure Accepts (f : Form) : Prop where
  ssid : trim f.ssid ≠ ""
  channel : channelAllowed (numberOfText f.channel) = true
  password : f.openNetwork = true ∨ f.wifiPassword = "" ∨
    (8 ≤ utf16Length f.wifiPassword ∧ utf16Length f.wifiPassword ≤ 63)
  newAdminPassword : f.newAdminPassword = "" ∨
    (4 ≤ utf16Length f.newAdminPassword ∧ utf16Length f.newAdminPassword ≤ 32)

/-- The replies after which the handler has not got to the settings. -/
def denied (h : Handled) : Bool :=
  match h.response with
  | some (.json root) => ["bad_body", "bad_json", "unauthorized"].any (fun code => isText code (root.member "code"))
  | _ => false

variable {defaults : Defaults} {cJSONParse : CJSONParse} {d : Device} {f g : Form} {body : Json} {req : Request}

/-- The power stays on and there is memory. -/
def Plenty (r : Reply) : Prop := r.powered = true ∧ r.alloc = true

theorem allocates_plenty : Returns Plenty SettingsHandler.allocates d (fun done u => u = d ∧ done = true) := by
  apply Returns.bind (P := fun r u => u = d ∧ r.alloc = true) (.ask (fun _ h => h.1) (fun _ h => ⟨rfl, h.2⟩))
  intro r u h
  exact .pure h

theorem sends_plenty : Returns Plenty sends d (fun _ u => u = d) := by
  apply Returns.bind (P := fun _ u => u = d) (.ask (fun _ h => h.1) (fun _ _ => rfl))
  intro r u h
  exact .pure h

theorem addMember_plenty (ms : Members) (key : String) (v : Json) :
    Returns Plenty (SettingsHandler.addMember ms key v) d (fun ms' u => u = d ∧ ms' = ms ++ [(key, v)]) := by
  apply allocates_plenty.bind
  intro done u h
  obtain ⟨same, rfl⟩ := h
  exact .pure ⟨same, rfl⟩

theorem sendJsonResponse_plenty (root : Json) (restarts : Bool) :
    Returns Plenty (sendJsonResponse root restarts) d (fun h u => u = d ∧ h.response = some (.json root)) := by
  apply allocates_plenty.bind
  intro payload u h
  obtain ⟨rfl, rfl⟩ := h
  apply sends_plenty.bind
  intro ret u h
  exact .pure ⟨h, rfl⟩

theorem sendHttpError_plenty (code message : String) : Returns Plenty (sendHttpError code message) d (fun h u =>
    u = d ∧ h.response = some (.json (.obj [("ok", .bool false), ("code", .str code), ("message", .str message)]))) := by
  apply allocates_plenty.bind
  intro root u h
  obtain ⟨rfl, rfl⟩ := h
  apply (addMember_plenty _ _ _).bind
  intro a u h
  obtain ⟨rfl, rfl⟩ := h
  apply (addMember_plenty _ _ _).bind
  intro b u h
  obtain ⟨rfl, rfl⟩ := h
  apply (addMember_plenty _ _ _).bind
  intro c u h
  obtain ⟨rfl, rfl⟩ := h
  exact sendJsonResponse_plenty _ _

theorem denied_error {h : Handled} {code message : String}
    (response : h.response = some (.json (.obj [("ok", .bool false), ("code", .str code), ("message", .str message)]))) :
    denied h = ["bad_body", "bad_json", "unauthorized"].any (fun refusal => refusal == code) := by
  unfold denied
  rw [response]
  have read : (Json.obj [("ok", .bool false), ("code", .str code), ("message", .str message)]).member "code" =
      some (.str code) := rfl
  dsimp only
  rw [read]
  congr 1
  funext refusal
  unfold isText text
  rw [Bool.eq_iff_iff, beq_iff_eq, beq_iff_eq, Option.some.injEq]
  exact eq_comm

theorem sendHttpError_denied {code message : String}
    (denies : ["bad_body", "bad_json", "unauthorized"].any (fun refusal => refusal == code) = true) :
    Returns Plenty (sendHttpError code message) d (fun h _ => denied h = true) := by
  apply (sendHttpError_plenty code message).post
  intro h u answered
  rw [denied_error answered.2, denies]

theorem sendHttpError_admitted {code message : String}
    (admits : ["bad_body", "bad_json", "unauthorized"].any (fun refusal => refusal == code) = false) :
    Returns Plenty (sendHttpError code message) d (fun h _ => denied h = false) := by
  apply (sendHttpError_plenty code message).post
  intro h u answered
  rw [denied_error answered.2, admits]

theorem nvsSet_plenty (change : SettingsStore → SettingsStore) : Returns Plenty (nvsSet change) d (fun _ _ => True) := by
  apply Returns.bind (P := fun _ _ => True) (.ask (fun _ h => h.1) (fun _ _ => trivial))
  intro r u _
  apply Returns.bind (P := fun _ _ => True) (.writes trivial)
  intro _ v _
  cases r.nvs.error with
  | none => exact .pure trivial
  | some e => exact .pure trivial

theorem nvsCommit_plenty : Returns Plenty nvsCommit d (fun _ _ => True) := by
  apply Returns.bind (P := fun _ _ => True) (.ask (fun _ h => h.1) (fun _ _ => trivial))
  intro r u _
  apply Returns.bind (P := fun _ _ => True) (.writes trivial)
  intro _ v _
  cases r.nvs.error with
  | none => exact .pure trivial
  | some e => exact .pure trivial

theorem nvsCall_plenty : Returns Plenty nvsCall d (fun _ _ => True) := by
  apply Returns.bind (P := fun _ _ => True) (.ask (fun _ h => h.1) (fun _ _ => trivial))
  intro r u _
  cases r.nvs.error with
  | none => exact .pure trivial
  | some e => exact .pure trivial

theorem chatSettingsSave_plenty (s : Settings) : Returns Plenty (chatSettingsSave s) d (fun _ _ => True) := by
  apply nvsCall_plenty.bind
  intro opened a _
  apply Returns.ite (fun _ => .pure trivial)
  intro _
  apply (nvsSet_plenty _).bind
  intro ssid b _
  apply Returns.ite (fun _ => .pure trivial)
  intro _
  apply (nvsSet_plenty _).bind
  intro pass c _
  apply Returns.ite (fun _ => .pure trivial)
  intro _
  apply (nvsSet_plenty _).bind
  intro admin e _
  apply Returns.ite (fun _ => .pure trivial)
  intro _
  apply (nvsSet_plenty _).bind
  intro chan u _
  exact .ite (fun _ => .pure trivial) (fun _ => nvsCommit_plenty)

theorem sendSaved_admitted (reboot : Bool) : Returns Plenty (sendSaved reboot) d (fun h _ => denied h = false) := by
  apply allocates_plenty.bind
  intro response u h
  obtain ⟨rfl, rfl⟩ := h
  apply (addMember_plenty _ _ _).bind
  intro a u h
  obtain ⟨rfl, rfl⟩ := h
  apply (addMember_plenty _ _ _).bind
  intro b u h
  obtain ⟨rfl, rfl⟩ := h
  apply (addMember_plenty _ _ _).bind
  intro c u h
  obtain ⟨rfl, rfl⟩ := h
  apply (addMember_plenty _ _ _).bind
  intro e u h
  obtain ⟨rfl, rfl⟩ := h
  apply (sendJsonResponse_plenty _ _).post
  intro h v answered
  unfold denied
  rw [answered.2]
  rfl

theorem saveRequested_admitted (root : Json) (updated : Settings) :
    Returns Plenty (saveRequested root updated) d (fun h _ => denied h = false) := by
  apply (chatSettingsSave_plenty updated).bind
  intro ret u _
  apply Returns.bind (P := fun _ _ => True) (.writes trivial)
  intro _ v _
  apply Returns.ite (fun _ => sendHttpError_admitted (by decide))
  intro _
  apply Returns.bind (P := fun _ _ => True) (.writes trivial)
  intro _ w _
  exact sendSaved_admitted _

theorem bind_error {α β ε : Type} {x : Except ε α} {k : α → Except ε β} {e : ε} (h : x >>= k = .error e) :
    x = .error e ∨ ∃ a, k a = .error e := by
  cases x with
  | error e' =>
    cases h
    exact .inl rfl
  | ok a => exact .inr ⟨a, h⟩

theorem requested_refusal {root : Json} {s : Settings} {refusal : Refusal} (h : requested root s = .error refusal) :
    ["bad_body", "bad_json", "unauthorized"].any (fun code => code == refusal.code) = false := by
  have ssid : ∀ s e, takeSsid root s = .error e → e.code = "bad_ssid" := by
    intro s e h
    unfold takeSsid at h
    split at h
    · cases h
    · split at h
      · cases h
        rfl
      · cases h
  have channel : ∀ s e, takeChannel root s = .error e → e.code = "bad_channel" := by
    intro s e h
    unfold takeChannel at h
    split at h
    · cases h
    · split_ifs at h
      cases h
      rfl
    · cases h
      rfl
  have password : ∀ s e, takePassword root s = .error e → e.code = "bad_password" := by
    intro s e h
    unfold takePassword at h
    split_ifs at h
    split at h
    · cases h
    · split at h
      · cases h
        rfl
      · split_ifs at h
        cases h
        rfl
  have admin : ∀ s e, takeNewAdminPassword root s = .error e → e.code = "bad_admin_password" := by
    intro s e h
    unfold takeNewAdminPassword at h
    split at h
    · cases h
    · split_ifs at h
      cases h
      rfl
  have code : refusal.code = "bad_ssid" ∨ refusal.code = "bad_channel" ∨ refusal.code = "bad_password" ∨
      refusal.code = "bad_admin_password" := by
    rcases bind_error h with h | ⟨c, h⟩
    · rcases bind_error h with h | ⟨b, h⟩
      · rcases bind_error h with h | ⟨a, h⟩
        · exact .inl (ssid _ _ h)
        · exact .inr (.inl (channel _ _ h))
      · exact .inr (.inr (.inl (password _ _ h)))
    · exact .inr (.inr (.inr (admin _ _ h)))
  rcases code with code | code | code | code <;> rw [code] <;> decide

theorem handleRequested_answer (root : Json) :
    Returns Plenty (handleRequested root) d (fun h _ => denied h = !authorized root d.settings) := by
  apply Returns.bind (P := fun s u => u = d ∧ s = d.settings) (.reads ⟨rfl, rfl⟩)
  intro current u h
  obtain ⟨rfl, rfl⟩ := h
  cases passed : authorized root u.settings with
  | false => exact sendHttpError_denied (by decide)
  | true =>
    cases asked : requested root u.settings with
    | error refusal =>
      apply Returns.ite (fun no => by cases no)
      intro _
      exact sendHttpError_admitted (requested_refusal asked)
    | ok updated =>
      apply Returns.ite (fun no => by cases no)
      intro _
      exact saveRequested_admitted root updated

/-- With memory enough the handler gets to the settings exactly when the request supplies the
    password. -/
theorem settingsPostHandler_answer : Returns Plenty (settingsPostHandler cJSONParse req) d (fun h _ =>
    denied h = !((supplied cJSONParse req).any (fun root => authorized root d.settings))) := by
  have read : Returns Plenty (readRequestBody req settingsBodyBytes) d (fun r u => u = d ∧
      r.bind (chatJsonParseObject cJSONParse) = supplied cJSONParse req) := by
    unfold readRequestBody supplied
    apply Returns.ite
    · intro size
      rw [if_pos size]
      exact .pure ⟨rfl, rfl⟩
    · intro size
      rw [if_neg size]
      apply allocates_plenty.bind
      intro memory u h
      obtain ⟨rfl, rfl⟩ := h
      exact .pure ⟨rfl, rfl⟩
  apply read.bind
  intro body u h
  obtain ⟨rfl, given⟩ := h
  rw [← given]
  cases body with
  | none => exact sendHttpError_denied (by decide)
  | some body =>
    apply allocates_plenty.bind
    intro memory v h
    obtain ⟨rfl, rfl⟩ := h
    rw [if_pos rfl, Option.bind_some]
    cases chatJsonParseObject cJSONParse body with
    | none => exact sendHttpError_denied (by decide)
    | some root => exact handleRequested_answer root

theorem encoded_injective {cs ds : List Char} (h : encoded cs = encoded ds) : cs = ds := by
  have bytes : cs.utf8Encode = ds.utf8Encode := congrArg List.toByteArray h
  apply String.ofList_injective
  rw [← String.toByteArray_inj, String.toByteArray_ofList, String.toByteArray_ofList, bytes]

theorem encoded_clean {cs : List Char} (h : '\x00' ∉ cs) : 0 ∉ encoded cs := by
  intro zero
  obtain ⟨c, hc, inside⟩ := List.mem_flatMap.mp zero
  by_cases low : c.toNat < 0x80
  · rw [GateLanguage.encode_ascii low, List.mem_singleton] at inside
    have code := congrArg UInt8.toNat inside
    simp only [UInt8.toNat_ofNat', UInt8.toNat_zero] at code
    have nul : c = '\x00' := Char.toNat_inj.mp (by change c.toNat = 0; omega)
    exact h (nul ▸ hc)
  · have high := GateLanguage.encode_high (by omega) 0 inside
    exact absurd high (by decide)

theorem ofString_bytes {s : String} (h : '\x00' ∉ s.toList) : (CString.ofString s).bytes = encoded s.toList :=
  CString.ofBytes_of_clean (encoded_clean h)

theorem ofString_inj {s t : String} (hs : '\x00' ∉ s.toList) (ht : '\x00' ∉ t.toList) :
    CString.ofString s = CString.ofString t ↔ s = t := by
  constructor
  · intro same
    have bytes := congrArg CString.bytes same
    rw [ofString_bytes hs, ofString_bytes ht] at bytes
    exact String.toList_injective (encoded_injective bytes)
  · exact congrArg CString.ofString

theorem ofString_filled {s : String} (hs : '\x00' ∉ s.toList) (filled : s ≠ "") : (CString.ofString s).length ≠ 0 := by
  intro empty
  have none : CString.ofString s = CString.ofString "" := by
    apply CString.ext
    exact List.eq_nil_of_length_eq_zero empty
  exact filled ((ofString_inj hs (by decide)).mp none)

theorem mem_trim {s : String} {c : Char} (h : c ∈ (trim s).toList) : c ∈ s.toList := by
  unfold trim trimmed at h
  rw [String.toList_ofList, List.mem_reverse] at h
  have inner := (List.dropWhile_sublist _).subset h
  rw [List.mem_reverse] at inner
  exact (List.dropWhile_sublist _).subset inner

/-- No text of the form contains U+0000, which the gate of the server refuses. -/
structure Typed (f : Form) : Prop where
  ssid : '\x00' ∉ (trim f.ssid).toList
  password : '\x00' ∉ f.wifiPassword.toList
  newAdminPassword : '\x00' ∉ f.newAdminPassword.toList

theorem saveSettings_ok {reboot : Bool} (h : saveSettings f reboot = .ok body) :
    body = submitted f reboot ∧ trim f.adminPassword ≠ "" ∧ Accepts f := by
  unfold saveSettings at h
  dsimp only at h
  split_ifs at h with admin ssid channel password newAdmin
  cases h
  refine ⟨rfl, admin, ssid, by simpa using channel, ?_, ?_⟩
  · by_cases secured : f.openNetwork = true
    · exact .inl secured
    · by_cases blank : f.wifiPassword = ""
      · exact .inr (.inl blank)
      · have range : ¬(utf16Length f.wifiPassword < 8 ∨ 63 < utf16Length f.wifiPassword) :=
          fun outside => password ⟨by simpa using secured, blank, outside⟩
        exact .inr (.inr (by omega))
  · by_cases blank : f.newAdminPassword = ""
    · exact .inl blank
    · have range : ¬(utf16Length f.newAdminPassword < 4 ∨ 32 < utf16Length f.newAdminPassword) :=
        fun outside => newAdmin ⟨blank, outside⟩
      exact .inr (by omega)

theorem saveSettings_accepts (reboot : Bool) (admin : trim f.adminPassword ≠ "") (accepts : Accepts f) :
    saveSettings f reboot = .ok (submitted f reboot) := by
  have password : ¬(f.openNetwork = false ∧ f.wifiPassword ≠ "" ∧
      (utf16Length f.wifiPassword < 8 ∨ 63 < utf16Length f.wifiPassword)) := by
    intro outside
    obtain ⟨secured, filled, range⟩ := outside
    rcases accepts.password with unsecured | blank | inside
    · rw [secured] at unsecured
      cases unsecured
    · exact filled blank
    · omega
  have newAdmin : ¬(f.newAdminPassword ≠ "" ∧
      (utf16Length f.newAdminPassword < 4 ∨ 32 < utf16Length f.newAdminPassword)) := by
    intro outside
    rcases accepts.newAdminPassword with blank | inside
    · exact outside.1 blank
    · omega
  unfold saveSettings
  dsimp only
  rw [if_neg admin, if_neg accepts.ssid, if_neg (by simp [accepts.channel]), if_neg password, if_neg newAdmin]

theorem nulFree_submitted {reboot : Bool} : nulFree (submitted f reboot) = true ↔
    '\x00' ∉ (trim f.adminPassword).toList ∧ Typed f := by
  have keys : textNulFree "adminPassword" = true ∧ textNulFree "ssid" = true ∧ textNulFree "password" = true ∧
      textNulFree "openNetwork" = true ∧ textNulFree "channel" = true ∧ textNulFree "newAdminPassword" = true ∧
      textNulFree "reboot" = true := by decide
  simp only [submitted, nulFree, membersNulFree, keys, Bool.and_true, Bool.true_and, Bool.and_eq_true]
  simp only [textNulFree, decide_eq_true_eq]
  constructor
  · intro h
    exact ⟨h.1, h.2.1, h.2.2.1, h.2.2.2⟩
  · intro h
    exact ⟨h.1, h.2.ssid, h.2.password, h.2.newAdminPassword⟩

theorem submitted_intended {reboot : Bool} (free : nulFree (submitted f reboot) = true) : Intended (submitted f reboot) := by
  constructor
  case object => rfl
  case shallow => simp [submitted, depth, membersDepth, maxJsonNestingDepth]
  case free => exact free
  case distinct =>
    refine ⟨?_, trivial, trivial, trivial, trivial, trivial, trivial, trivial, trivial⟩
    change (["adminPassword", "ssid", "password", "openNetwork", "channel", "newAdminPassword", "reboot"] : List String).Nodup
    decide

theorem getObjectItem_cons (key : String) (v : Json) (ms : Members) (name : String) :
    getObjectItem (.obj ((key, v) :: ms)) name = if sameName key name then some v else getObjectItem (.obj ms) name := by
  unfold getObjectItem
  dsimp only [Json.members]
  rw [List.find?_cons]
  cases sameName key name with
  | true => rfl
  | false => rfl

theorem submitted_adminPassword (f : Form) (reboot : Bool) :
    getObjectItem (submitted f reboot) "adminPassword" = some (.str (trim f.adminPassword)) := by
  unfold submitted
  rw [getObjectItem_cons, if_pos (by decide)]

theorem submitted_newAdminPassword (f : Form) (reboot : Bool) :
    getObjectItem (submitted f reboot) "newAdminPassword" = some (.str f.newAdminPassword) := by
  unfold submitted
  rw [getObjectItem_cons, if_neg (by decide), getObjectItem_cons, if_neg (by decide), getObjectItem_cons,
    if_neg (by decide), getObjectItem_cons, if_neg (by decide), getObjectItem_cons, if_neg (by decide),
    getObjectItem_cons, if_pos (by decide)]

/-- The handler gets the submitted object exactly when its text is short enough and has no NUL. -/
theorem supplied_submitted {reboot : Bool} (carries : Carries cJSONParse (submitted f reboot) req) (root : Json) :
    supplied cJSONParse req = some root ↔
      req.contentLen ≤ settingsBodyBytes ∧ nulFree (submitted f reboot) = true ∧ root = submitted f reboot := by
  obtain ⟨cs, stop, text, parsed, length, received⟩ := carries.text
  have gate := GateLanguage.chatJsonParseObject_text text parsed
  have filled : nulFree (submitted f reboot) = true → req.contentLen ≠ 0 := by
    intro free empty
    have none : encoded cs = [] := List.eq_nil_of_length_eq_zero (length ▸ empty)
    have taken := gate.1 (submitted_intended free)
    rw [none] at taken
    cases taken
  unfold supplied
  rw [received, Option.bind_some]
  constructor
  · intro h
    split_ifs at h with size
    by_cases free : nulFree (submitted f reboot) = true
    · rw [gate.1 (submitted_intended free)] at h
      exact ⟨by omega, free, (Option.some.inj h).symm⟩
    · rw [gate.2 (fun intended => free intended.free)] at h
      cases h
  · intro h
    obtain ⟨short, free, rfl⟩ := h
    have nonzero := filled free
    rw [if_neg (by omega)]
    exact gate.1 (submitted_intended free)

theorem takeNewAdminPassword_new {root : Json} {s s' : Settings} {p : String}
    (given : getObjectItem root "newAdminPassword" = some (.str p)) (filled : (CString.ofString p).length ≠ 0)
    (h : takeNewAdminPassword root s = .ok s') : s'.adminPassword.text = CString.ofString p := by
  unfold takeNewAdminPassword at h
  rw [given] at h
  dsimp only [valuestring] at h
  rw [if_neg filled] at h
  split_ifs at h with outside
  cases h
  exact CharArray.copyBounded_text (by omega)

/-- The page has submitted `p` as the new admin password, and the handler has saved it. -/
structure Changes (cJSONParse : CJSONParse) (d after : Device) (p : String) : Prop where
  saved : ∃ f reboot body req env, f.newAdminPassword = p ∧ p ≠ "" ∧ saveSettings f reboot = .ok body ∧
    Carries cJSONParse body req ∧ after = (settingsPostHandler cJSONParse req env d).world ∧
    after.trace = d.trace ++ [.saved .ok]

/-- Later, before or after a reboot that loads what was written. -/
def Later (defaults : Defaults) (after d : Device) : Prop :=
  d = after ∨ ∃ env, (∀ k, Reliable (env k)) ∧ d = (chatSettingsLoad defaults env after.reboot).world

/-- The page submits the form, and with memory enough the handler takes the password for the
    right one. -/
structure Opens (cJSONParse : CJSONParse) (d : Device) (g : Form) (reboot : Bool) (req : Request) : Prop where
  submits : ∃ body, saveSettings g reboot = .ok body
  authorizes : Returns Plenty (settingsPostHandler cJSONParse req) d (fun h _ => denied h = false)

theorem changed_password {after : Device} {p : String} (changes : Changes cJSONParse d after p) :
    '\x00' ∉ p.toList ∧ after.settings.adminPassword.text = CString.ofString p := by
  obtain ⟨f, reboot, body, req, env, rfl, filled, submits, carries, rfl, trace⟩ := changes.saved
  obtain ⟨rfl, -, -⟩ := saveSettings_ok submits
  rcases settingsPostHandler_posted cJSONParse req env d with same | ⟨root, given, posted⟩
  · rw [same] at trace
    exact absurd trace saved_ne
  · cases posted with
    | kept _ unsaved => exact absurd trace (not_saved unsaved)
    | saved asked _ _ _ =>
      obtain ⟨-, free, rfl⟩ := (supplied_submitted carries root).mp given
      have clean := (nulFree_submitted.mp free).2.newAdminPassword
      obtain ⟨c, -, admin⟩ := bind_ok asked
      exact ⟨clean, takeNewAdminPassword_new (submitted_newAdminPassword f reboot) (ofString_filled clean filled) admin⟩

theorem later_settings {after : Device} {p : String} (valid : Valid d.settings) (changes : Changes cJSONParse d after p)
    {d' : Device} (later : Later defaults after d') : d'.settings = after.settings ∧ Valid d'.settings := by
  obtain ⟨f, reboot, body, req, env, -, -, -, -, rfl, trace⟩ := changes.saved
  have keeps : Keeps defaults cJSONParse d req (settingsPostHandler cJSONParse req env d) :=
    settingsPostHandler_keeps valid req env
  cases later with
  | inl now =>
    subst now
    exact ⟨rfl, keeps.valid⟩
  | inr rebooted =>
    obtain ⟨env', reliable, rfl⟩ := rebooted
    obtain ⟨_, u, _, loaded, -, same⟩ := (keeps.durable trace).run env' reliable
    rw [loaded]
    exact ⟨same, same.symm ▸ keeps.valid⟩

/-- Who opens the settings of a device whose admin password is `p`. -/
theorem opens_iff {p : String} {reboot : Bool} (valid : Valid d.settings) (clean : '\x00' ∉ p.toList)
    (current : d.settings.adminPassword.text = CString.ofString p) (typed : g.adminPassword = p)
    (carries : ∀ body, saveSettings g reboot = .ok body → Carries cJSONParse body req) :
    Opens cJSONParse d g reboot req ↔
      trim p = p ∧ Accepts g ∧ Typed g ∧ req.contentLen ≤ settingsBodyBytes := by
  subst typed
  have trimmed_clean : '\x00' ∉ (trim g.adminPassword).toList := fun nul => clean (mem_trim nul)
  have authorized_submitted : authorized (submitted g reboot) d.settings = true ↔ trim g.adminPassword = g.adminPassword := by
    rw [authorized_iff valid, submitted_adminPassword, current]
    change some (CString.ofString (trim g.adminPassword)) = some (CString.ofString g.adminPassword) ↔ _
    rw [Option.some.injEq, ofString_inj trimmed_clean clean]
  constructor
  · intro opens
    obtain ⟨body, submits⟩ := opens.submits
    obtain ⟨rfl, -, accepts⟩ := saveSettings_ok submits
    have read := supplied_submitted (carries _ submits)
    obtain ⟨h, u, -, -, -, answer, admitted⟩ :=
      (settingsPostHandler_answer.both opens.authorizes).run ResponseLimit.environment (fun _ => ⟨rfl, rfl⟩)
    rw [admitted, eq_comm, Bool.not_eq_false', Option.any_eq_true] at answer
    obtain ⟨root, given, passed⟩ := answer
    obtain ⟨short, free, rfl⟩ := (read root).mp given
    exact ⟨authorized_submitted.mp passed, accepts, (nulFree_submitted.mp free).2, short⟩
  · intro condition
    obtain ⟨same, accepts, text, short⟩ := condition
    have filled : trim g.adminPassword ≠ "" := by
      rw [same]
      intro empty
      have long := valid.adminPassword.1
      have none : d.settings.adminPassword.text.length = 0 := by
        rw [current, empty]
        rfl
      change 4 ≤ d.settings.adminPassword.text.length at long
      omega
    have submits := saveSettings_accepts reboot filled accepts
    have given := (supplied_submitted (carries _ submits) (submitted g reboot)).mpr
      ⟨short, nulFree_submitted.mpr ⟨trimmed_clean, text⟩, rfl⟩
    refine ⟨⟨_, submits⟩, ?_⟩
    apply settingsPostHandler_answer.post
    intro h u answered
    rw [answered, given]
    simp [authorized_submitted.mpr same]

/-- The new admin password is stored as it was typed and survives a reboot. It opens the next
    save, if that is one the page and the gate accept, exactly when trimming does not change it. -/
theorem new_password_opens (defaults : Defaults) (cJSONParse : CJSONParse) :
    (∀ store events, (run defaults cJSONParse store events).on = true → ∀ after p,
      Changes cJSONParse (run defaults cJSONParse store events).device after p → ∀ d, Later defaults after d →
      d.settings.adminPassword.text = CString.ofString p) ∧
    ∀ store events, (run defaults cJSONParse store events).on = true → ∀ after p,
      Changes cJSONParse (run defaults cJSONParse store events).device after p → ∀ d, Later defaults after d →
      ∀ g reboot req, g.adminPassword = p → (∀ body, saveSettings g reboot = .ok body → Carries cJSONParse body req) →
      (Opens cJSONParse d g reboot req ↔
        trim p = p ∧ Accepts g ∧ Typed g ∧ req.contentLen ≤ settingsBodyBytes) := by
  have stored : ∀ store events, (run defaults cJSONParse store events).on = true → ∀ after p,
      Changes cJSONParse (run defaults cJSONParse store events).device after p → ∀ d, Later defaults after d →
      d.settings.adminPassword.text = CString.ofString p := by
    intro store events on after p changes d later
    rw [(later_settings (run_valid store events on) changes later).1]
    exact (changed_password changes).2
  refine ⟨stored, ?_⟩
  intro store events on after p changes d later g reboot req typed carries
  exact opens_iff (later_settings (run_valid store events on) changes later).2 (changed_password changes).1
    (stored store events on after p changes d later) typed carries

open ResponseLimit (quoted joined field braces)

def plainChar (c : Char) : Bool := decide (0x20 ≤ c.toNat) && c != '"' && c != '\\'

def plainText (s : String) : Bool := s.toList.all plainChar

theorem quoted_text {s : String} (h : plainText s = true) : StringText s (quoted s.toList) := by
  have unescaped : ∀ c ∈ s.toList, Unescaped c := by
    intro c hc
    have plain := List.all_eq_true.mp h c hc
    simp only [plainChar, Bool.and_eq_true, decide_eq_true_eq, bne_iff_ne] at plain
    exact ⟨plain.1.1, plain.1.2, plain.2⟩
  have body : ∀ cs : List Char, (∀ c ∈ cs, Unescaped c) → BodyText cs cs := by
    intro cs plain
    induction cs with
    | nil => exact .nil
    | cons c cs ih => exact .cons (.plain (plain c List.mem_cons_self)) (ih (fun x hx => plain x (List.mem_cons_of_mem _ hx)))
  exact .quoted (body _ unescaped)

abbrev Field := String × Json × List Char

theorem joined_fields {fields : List Field} (filled : fields ≠ []) (keys : ∀ m ∈ fields, plainText m.1 = true)
    (values : ∀ m ∈ fields, Writes (.value m.2.1) m.2.2) :
    Writes (.members (fields.map (fun m => (m.1, m.2.1)))) (joined (fields.map (fun m => field m.1 m.2.2))) := by
  have none : Spaces [] := fun c hc => absurd hc List.not_mem_nil
  induction fields with
  | nil => exact absurd rfl filled
  | cons m fields ih =>
    have key := quoted_text (keys m List.mem_cons_self)
    have value := values m List.mem_cons_self
    cases fields with
    | nil => simpa [joined, field] using Writes.member none key none none value none
    | cons m' fields =>
      have rest := ih (List.cons_ne_nil _ _) (fun x hx => keys x (List.mem_cons_of_mem _ hx))
        (fun x hx => values x (List.mem_cons_of_mem _ hx))
      simpa [joined, field] using Writes.moreMembers none key none none value none rest

def wordText (b : Bool) : List Char := if b then "true".toList else "false".toList

theorem wordText_writes (b : Bool) : Writes (.value (.bool b)) (wordText b) := by
  cases b with
  | true => exact .yes
  | false => exact .no

def formFields (f : Form) (reboot : Bool) : List Field :=
  [("adminPassword", .str (trim f.adminPassword), quoted (trim f.adminPassword).toList),
    ("ssid", .str (trim f.ssid), quoted (trim f.ssid).toList),
    ("password", .str f.wifiPassword, quoted f.wifiPassword.toList),
    ("openNetwork", .bool f.openNetwork, wordText f.openNetwork),
    ("channel", .num (numberOfText f.channel), f.channel.toList),
    ("newAdminPassword", .str f.newAdminPassword, quoted f.newAdminPassword.toList),
    ("reboot", .bool reboot, wordText reboot)]

/-- The text `JSON.stringify` writes for a form without characters it must escape. -/
def formText (f : Form) (reboot : Bool) : List Char := braces ((formFields f reboot).map (fun m => field m.1 m.2.2))

structure Plain (f : Form) : Prop where
  texts : [trim f.adminPassword, trim f.ssid, f.wifiPassword, f.newAdminPassword].all plainText = true
  channel : NumberText (numberOfText f.channel) f.channel.toList

theorem formText_writes (plain : Plain f) (reboot : Bool) :
    TextOf (submitted f reboot) (formText f reboot) (encoded (formText f reboot)).length := by
  have none : Spaces [] := fun c hc => absurd hc List.not_mem_nil
  have text : ∀ s ∈ [trim f.adminPassword, trim f.ssid, f.wifiPassword, f.newAdminPassword],
      Writes (.value (.str s)) (quoted s.toList) :=
    fun s hs => .str (quoted_text (List.all_eq_true.mp plain.texts s hs))
  have keys : ["adminPassword", "ssid", "password", "openNetwork", "channel", "newAdminPassword", "reboot"].all
      plainText = true := by decide +kernel
  have members : Writes (.members ((formFields f reboot).map (fun m => (m.1, m.2.1))))
      (joined ((formFields f reboot).map (fun m => field m.1 m.2.2))) := by
    apply joined_fields (List.cons_ne_nil _ _)
    · intro m hm
      exact List.all_eq_true.mp keys m.1 (List.mem_map_of_mem hm)
    · intro m hm
      simp only [List.mem_cons, List.not_mem_nil, or_false] at hm
      rcases hm with rfl | rfl | rfl | rfl | rfl | rfl | rfl
      · exact text _ (by simp)
      · exact text _ (by simp)
      · exact text _ (by simp)
      · exact wordText_writes _
      · exact .num plain.channel
      · exact text _ (by simp)
      · exact wordText_writes _
  have object : Writes (.value (submitted f reboot)) (formText f reboot) := .obj members
  exact ⟨[], formText f reboot, [], by simp, by simp, none, object, none⟩

def change : Form := ⟨"admin", "ESPChat", "1", "", false, " abcd"⟩

def reopening : Form := ⟨" abcd", "ESPChat", "1", "", false, ""⟩

def formParse : CJSONParse := fun payload =>
  if payload = encoded (formText change false) then some (submitted change false, payload.length)
  else if payload = encoded (formText reopening false) then some (submitted reopening false, payload.length)
  else none

def requestOf (f : Form) : Request := ⟨(encoded (formText f false)).length, [encoded (formText f false)]⟩

theorem one_channel : NumberText (numberOfText "1") ['1'] := by
  have one : Digits ['1'] := by
    intro c hc
    rw [List.mem_singleton.mp hc]
    decide
  have whole : WholePart ['1'] := .digits (by decide) one
  have read : NumberText (numberOfText (String.ofList ([] ++ ['1'] ++ [] ++ []))) ([] ++ ['1'] ++ [] ++ []) :=
    .mk (.inl rfl) whole .none .none
  have text : String.ofList ([] ++ ['1'] ++ [] ++ []) = "1" := rfl
  rw [text] at read
  exact read

theorem plain_change : Plain change := ⟨by decide +kernel, one_channel⟩

theorem plain_reopening : Plain reopening := ⟨by decide +kernel, one_channel⟩

theorem received_whole (bs : List UInt8) : receive bs.length [bs] [] = some bs := by
  cases bs with
  | nil => rfl
  | cons b bs =>
    unfold receive
    rw [if_pos (by simp), if_neg (List.cons_ne_nil _ _)]
    simp [receive]

theorem carries_form (plain : Plain f) (parsed : formParse (encoded (formText f false)) =
    some (submitted f false, (encoded (formText f false)).length)) :
    Carries formParse (submitted f false) (requestOf f) :=
  ⟨_, _, formText_writes plain false, parsed, rfl, received_whole _⟩

theorem change_parsed : formParse (encoded (formText change false)) =
    some (submitted change false, (encoded (formText change false)).length) := by
  unfold formParse
  rw [if_pos rfl]

theorem texts_differ : encoded (formText reopening false) ≠ encoded (formText change false) := by decide +kernel

theorem reopening_parsed : formParse (encoded (formText reopening false)) =
    some (submitted reopening false, (encoded (formText reopening false)).length) := by
  unfold formParse
  rw [if_neg texts_differ, if_pos rfl]

def start : Device := (run factory formParse emptyStore booting).device

def changed : Device := (settingsPostHandler formParse (requestOf change) ResponseLimit.environment start).world

theorem start_on : (run factory formParse emptyStore booting).on = true := by decide +kernel

theorem changed_saved : changed.trace = start.trace ++ [.saved .ok] := by decide +kernel

theorem accepts_change : trim change.adminPassword ≠ "" ∧ Accepts change :=
  ⟨by decide +kernel, by decide +kernel, by decide +kernel, by decide +kernel, by decide +kernel⟩

theorem accepts_reopening : Accepts reopening :=
  ⟨by decide +kernel, by decide +kernel, by decide +kernel, by decide +kernel⟩

theorem changes_password : Changes formParse start changed " abcd" := by
  have submits := saveSettings_accepts false accepts_change.1 accepts_change.2
  exact ⟨change, false, _, requestOf change, ResponseLimit.environment, rfl, by decide, submits,
    carries_form plain_change change_parsed, rfl, changed_saved⟩

/-- What is typed as the new admin password and saved opens every later save that is otherwise
    in order. -/
def NeverLocksOut (defaults : Defaults) (cJSONParse : CJSONParse) : Prop :=
  ∀ store events, (run defaults cJSONParse store events).on = true → ∀ after p,
    Changes cJSONParse (run defaults cJSONParse store events).device after p → ∀ d, Later defaults after d →
    ∀ g reboot req, g.adminPassword = p → (∀ body, saveSettings g reboot = .ok body → Carries cJSONParse body req) →
    Accepts g → Typed g → req.contentLen ≤ settingsBodyBytes → Opens cJSONParse d g reboot req

theorem owner_locked_out : ¬NeverLocksOut factory formParse := by
  intro never
  have carries : ∀ body, saveSettings reopening false = .ok body → Carries formParse body (requestOf reopening) := by
    intro body submits
    rw [(saveSettings_ok submits).1]
    exact carries_form plain_reopening reopening_parsed
  have clean : Typed reopening := ⟨by decide +kernel, by decide +kernel, by decide +kernel⟩
  have opens := never emptyStore booting start_on changed " abcd" changes_password changed (.inl rfl) reopening false
    (requestOf reopening) rfl carries accepts_reopening clean (by decide +kernel)
  have valid : Valid start.settings := run_valid emptyStore booting start_on
  have now : Later factory changed changed := .inl rfl
  have trimmed := ((opens_iff (later_settings valid changes_password now).2 (by decide) (changed_password changes_password).2 rfl carries).mp opens).1
  exact absurd trimmed (by decide +kernel)

end EspWebChat.SettingsPage
