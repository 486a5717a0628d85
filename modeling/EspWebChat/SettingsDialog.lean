import EspWebChat.SettingsPage
import Mathlib.Data.List.DropRight

set_option autoImplicit false

/-!
# The settings dialog and the device

The page counts the units of UTF-16, the device counts bytes. What both let through is saved as it
was typed, a field that is left blank stays as it was, and the dialog shows what was saved.
-/
namespace EspWebChat.SettingsDialog
open CharArrays Interruptible JsonTree JsValues DeviceSettings SettingsHandler SettingsSteps SettingsRuns SettingsPage
open JsonGate (CJSONParse)
open ServerWorld (EspErr Reply)
open Utf8Texts (encoded)
open ClientMessages (orEmpty)

variable {defaults : Defaults} {cJSONParse : CJSONParse} {d : Device} {f : Form} {s s' : Settings} {req : Request} {reboot : Bool}

/-- The limits in bytes, which the page does not know. -/
structure FitsDevice (f : Form) : Prop where
  ssid : strlen (trim f.ssid) ≤ maxWifiSsidLen
  password : f.openNetwork = true ∨ strlen f.wifiPassword ≤ maxWifiPassLen
  newAdminPassword : strlen f.newAdminPassword ≤ maxAdminPassLen

/-- The settings that the form asks for. -/
def typedOver (f : Form) (s : Settings) : Settings where
  ssid := .copyBounded _ (.ofString (trim f.ssid))
  password := if f.openNetwork then .empty _ else if f.wifiPassword = "" then s.password
    else .copyBounded _ (.ofString f.wifiPassword)
  channel := UInt8.ofInt (valueint (numberOfText f.channel))
  adminPassword := if f.newAdminPassword = "" then s.adminPassword else .copyBounded _ (.ofString f.newAdminPassword)

theorem encoded_length (cs : List Char) : (encoded cs).length = (cs.map Char.utf8Size).sum := by
  induction cs with
  | nil => rfl
  | cons c cs ih => rw [Utf8Texts.encoded_cons, List.length_append, ih, String.length_utf8EncodeChar, List.map_cons, List.sum_cons]

theorem ofString_length {t : String} (clean : '\x00' ∉ t.toList) : (CString.ofString t).length = strlen t := by
  unfold CString.length strlen
  rw [ofString_bytes clean, encoded_length]

theorem submitted_ssid (f : Form) (reboot : Bool) : getObjectItem (submitted f reboot) "ssid" = some (.str (trim f.ssid)) := by
  unfold submitted
  rw [getObjectItem_cons, if_neg (by decide), getObjectItem_cons, if_pos (by decide)]

theorem submitted_password (f : Form) (reboot : Bool) :
    getObjectItem (submitted f reboot) "password" = some (.str f.wifiPassword) := by
  unfold submitted
  rw [getObjectItem_cons, if_neg (by decide), getObjectItem_cons, if_neg (by decide), getObjectItem_cons, if_pos (by decide)]

theorem submitted_openNetwork (f : Form) (reboot : Bool) :
    getObjectItem (submitted f reboot) "openNetwork" = some (.bool f.openNetwork) := by
  unfold submitted
  rw [getObjectItem_cons, if_neg (by decide), getObjectItem_cons, if_neg (by decide), getObjectItem_cons,
    if_neg (by decide), getObjectItem_cons, if_pos (by decide)]

theorem submitted_channel (f : Form) (reboot : Bool) :
    getObjectItem (submitted f reboot) "channel" = some (.num (numberOfText f.channel)) := by
  unfold submitted
  rw [getObjectItem_cons, if_neg (by decide), getObjectItem_cons, if_neg (by decide), getObjectItem_cons,
    if_neg (by decide), getObjectItem_cons, if_neg (by decide), getObjectItem_cons, if_pos (by decide)]

theorem submitted_reboot (f : Form) (reboot : Bool) : getObjectItem (submitted f reboot) "reboot" = some (.bool reboot) := by
  unfold submitted
  rw [getObjectItem_cons, if_neg (by decide), getObjectItem_cons, if_neg (by decide), getObjectItem_cons,
    if_neg (by decide), getObjectItem_cons, if_neg (by decide), getObjectItem_cons, if_neg (by decide),
    getObjectItem_cons, if_neg (by decide), getObjectItem_cons, if_pos (by decide)]

theorem stringInRange_text {t : String} (clean : '\x00' ∉ t.toList) (filled : t ≠ "") (maxLen : ℕ) :
    stringInRange (some (.str t)) maxLen false = if strlen t ≤ maxLen then some (.ofString t) else none := by
  have length := ofString_length clean
  have positive := Nat.pos_of_ne_zero (ofString_filled clean filled)
  have range : stringInRange (some (.str t)) maxLen false = (some (CString.ofString t)).filter (fun s =>
      (false || decide (0 < s.length)) && decide (s.length ≤ maxLen)) := rfl
  rw [range, Option.filter_some, decide_eq_true positive, length]
  split_ifs with both short short
  · rfl
  · simp_all
  · simp_all
  · rfl

theorem takeSsid_submitted (accepts : Accepts f) (typed : Typed f) : takeSsid (submitted f reboot) s = .ok s' ↔
    strlen (trim f.ssid) ≤ maxWifiSsidLen ∧ s' = { s with ssid := (typedOver f s).ssid } := by
  unfold takeSsid
  rw [submitted_ssid]
  dsimp only
  rw [stringInRange_text typed.ssid accepts.ssid]
  by_cases short : strlen (trim f.ssid) ≤ maxWifiSsidLen
  · rw [if_pos short]
    simp only [Except.ok.injEq, short, true_and]
    exact eq_comm
  · rw [if_neg short]
    simp [short]

theorem channel_typed (allowed : channelAllowed (numberOfText f.channel) = true) :
    ¬(valueint (numberOfText f.channel) < 1 ∨ 13 < valueint (numberOfText f.channel)) := by
  cases number : numberOfText f.channel with
  | fin q =>
    rw [number] at allowed
    unfold channelAllowed at allowed
    simp only [Bool.and_eq_true, beq_iff_eq, decide_eq_true_eq] at allowed
    obtain ⟨⟨whole, low⟩, high⟩ := allowed
    have same : (q.num : ℚ) = q := Rat.coe_int_num_of_den_eq_one whole
    rw [← same] at low high
    have low' : 1 ≤ q.num := by exact_mod_cast low
    have high' : q.num ≤ 13 := by exact_mod_cast high
    have value : valueint (.fin q) = q.num := by
      change (if (2147483647 : ℚ) ≤ q then 2147483647 else if q ≤ -2147483648 then -2147483648 else q.num.tdiv q.den) = q.num
      rw [if_neg (by rw [← same]; exact_mod_cast (by omega : ¬(2147483647 : ℤ) ≤ q.num)),
        if_neg (by rw [← same]; exact_mod_cast (by omega : ¬q.num ≤ (-2147483648 : ℤ))), whole]
      simp
    omega
  | inf negative =>
    rw [number] at allowed
    cases allowed
  | nan =>
    rw [number] at allowed
    cases allowed

theorem takeChannel_submitted (accepts : Accepts f) :
    takeChannel (submitted f reboot) s = .ok { s with channel := (typedOver f s).channel } := by
  unfold takeChannel
  rw [submitted_channel]
  dsimp only
  rw [if_neg (channel_typed accepts.channel)]
  rfl

theorem takePassword_submitted (accepts : Accepts f) (typed : Typed f) : takePassword (submitted f reboot) s = .ok s' ↔
    (f.openNetwork = true ∨ strlen f.wifiPassword ≤ maxWifiPassLen) ∧ s' = { s with password := (typedOver f s).password } := by
  have length := ofString_length typed.password
  have is_open : SettingsHandler.isTrue (getObjectItem (submitted f reboot) "openNetwork") = f.openNetwork := by
    rw [submitted_openNetwork]
    rfl
  unfold takePassword
  rw [is_open, submitted_password]
  dsimp only [valuestring]
  by_cases unsecured : f.openNetwork = true
  · rw [if_pos unsecured]
    simp only [Except.ok.injEq, unsecured, true_or, true_and, typedOver, if_true]
    exact eq_comm
  · rw [if_neg unsecured]
    by_cases blank : f.wifiPassword = ""
    · have none : (CString.ofString f.wifiPassword).length = 0 := by
        rw [blank]
        rfl
      have short : strlen f.wifiPassword ≤ maxWifiPassLen := by
        rw [← length, none]
        exact Nat.zero_le _
      rw [if_pos none]
      simp only [Except.ok.injEq, short, or_true, true_and, typedOver, if_neg unsecured, if_pos blank]
      exact eq_comm
    · have units : 8 ≤ utf16Length f.wifiPassword := by
        rcases accepts.password with no | no | ⟨long, -⟩
        · exact absurd no unsecured
        · exact absurd no blank
        · exact long
      have long : 8 ≤ (CString.ofString f.wifiPassword).length := by
        rw [length]
        exact Nat.le_trans units (utf16Length_le _)
      rw [if_neg (by omega)]
      have valid : chatSettingsValidWifiPassword (CString.ofString f.wifiPassword) = true ↔
          strlen f.wifiPassword ≤ maxWifiPassLen := by
        rw [validWifiPassword_iff, ← length]
        unfold maxWifiPassLen
        omega
      by_cases short : strlen f.wifiPassword ≤ maxWifiPassLen
      · rw [if_neg (by rw [valid.mpr short]; decide)]
        simp only [Except.ok.injEq, short, or_true, true_and, typedOver, if_neg unsecured, if_neg blank]
        exact eq_comm
      · have invalid : chatSettingsValidWifiPassword (CString.ofString f.wifiPassword) = false :=
          Bool.eq_false_iff.mpr (fun ok => short (valid.mp ok))
        rw [if_pos (by rw [invalid]; rfl)]
        simp [short, unsecured]

theorem takeNewAdminPassword_submitted (accepts : Accepts f) (typed : Typed f) :
    takeNewAdminPassword (submitted f reboot) s = .ok s' ↔
      strlen f.newAdminPassword ≤ maxAdminPassLen ∧ s' = { s with adminPassword := (typedOver f s).adminPassword } := by
  have length := ofString_length typed.newAdminPassword
  unfold takeNewAdminPassword
  rw [submitted_newAdminPassword]
  dsimp only [valuestring]
  by_cases blank : f.newAdminPassword = ""
  · have none : (CString.ofString f.newAdminPassword).length = 0 := by
      rw [blank]
      rfl
    have short : strlen f.newAdminPassword ≤ maxAdminPassLen := by
      rw [← length, none]
      exact Nat.zero_le _
    rw [if_pos none]
    simp only [Except.ok.injEq, short, true_and, typedOver, if_pos blank]
    exact eq_comm
  · have units : 4 ≤ utf16Length f.newAdminPassword := by
      rcases accepts.newAdminPassword with no | ⟨long, -⟩
      · exact absurd no blank
      · exact long
    have long : 4 ≤ (CString.ofString f.newAdminPassword).length := by
      rw [length]
      exact Nat.le_trans units (utf16Length_le _)
    rw [if_neg (by omega), length]
    rw [length] at long
    by_cases short : strlen f.newAdminPassword ≤ maxAdminPassLen
    · rw [if_neg (by unfold minAdminPassLen; omega)]
      simp only [Except.ok.injEq, short, true_and, typedOver, if_neg blank]
      exact eq_comm
    · rw [if_pos (.inl (by omega))]
      simp [short]

theorem requested_submitted (accepts : Accepts f) (typed : Typed f) :
    requested (submitted f reboot) s = .ok s' ↔ FitsDevice f ∧ s' = typedOver f s := by
  constructor
  · intro asked
    obtain ⟨c, asked, admin⟩ := bind_ok asked
    obtain ⟨b, asked, password⟩ := bind_ok asked
    obtain ⟨a, ssid, channel⟩ := bind_ok asked
    obtain ⟨short_ssid, rfl⟩ := (takeSsid_submitted accepts typed).mp ssid
    rw [takeChannel_submitted accepts] at channel
    obtain rfl := Except.ok.inj channel
    obtain ⟨short_password, rfl⟩ := (takePassword_submitted accepts typed).mp password
    obtain ⟨short_admin, rfl⟩ := (takeNewAdminPassword_submitted accepts typed).mp admin
    exact ⟨⟨short_ssid, short_password, short_admin⟩, rfl⟩
  · rintro ⟨fits, rfl⟩
    unfold requested
    rw [(takeSsid_submitted accepts typed).mpr ⟨fits.ssid, rfl⟩]
    change (takeChannel (submitted f reboot) _ >>= takePassword (submitted f reboot) >>=
      takeNewAdminPassword (submitted f reboot)) = _
    rw [takeChannel_submitted accepts]
    change (takePassword (submitted f reboot) _ >>= takeNewAdminPassword (submitted f reboot)) = _
    rw [(takePassword_submitted accepts typed).mpr ⟨fits.password, rfl⟩]
    change takeNewAdminPassword (submitted f reboot) _ = _
    exact (takeNewAdminPassword_submitted accepts typed).mpr ⟨fits.newAdminPassword, rfl⟩

/-- Power, memory, flash and connection all work. -/
def Fine (r : Reply) : Prop := r.powered = true ∧ r.alloc = true ∧ r.nvs.error = none ∧ r.send = .ok

theorem reply_fine : Returns Fine DeviceSettings.reply d (fun r u => u = d ∧ Fine r) :=
  .ask (fun _ h => h.1) (fun _ h => ⟨rfl, h⟩)

theorem allocates_fine : Returns Fine SettingsHandler.allocates d (fun done u => u = d ∧ done = true) := by
  apply reply_fine.bind
  rintro r u ⟨rfl, fine⟩
  exact .pure ⟨rfl, fine.2.1⟩

theorem sends_fine : Returns Fine sends d (fun ret u => u = d ∧ ret = .ok) := by
  apply reply_fine.bind
  rintro r u ⟨rfl, fine⟩
  exact .pure ⟨rfl, fine.2.2.2⟩

theorem addMember_fine (ms : Members) (key : String) (v : Json) :
    Returns Fine (SettingsHandler.addMember ms key v) d (fun ms' u => u = d ∧ ms' = ms ++ [(key, v)]) := by
  apply allocates_fine.bind
  rintro done u ⟨rfl, rfl⟩
  exact .pure ⟨rfl, rfl⟩

theorem addMember_next {α : Type} {ms : Members} {key : String} {v : Json} {f : Members → Firmware α}
    {P : α → Device → Prop} (k : Returns Fine (f (ms ++ [(key, v)])) d P) :
    Returns Fine (SettingsHandler.addMember ms key v >>= f) d P := by
  apply (addMember_fine ms key v).bind
  rintro _ u ⟨rfl, rfl⟩
  exact k

theorem sendJsonResponse_fine (root : Json) (restarts : Bool) :
    Returns Fine (sendJsonResponse root restarts) d (fun h u => u = d ∧ h = ⟨.ok, some (.json root), restarts⟩) := by
  apply allocates_fine.bind
  rintro done u ⟨rfl, rfl⟩
  apply Returns.ite (fun no => by cases no)
  intro _
  apply sends_fine.bind
  rintro ret u ⟨rfl, rfl⟩
  exact .pure ⟨rfl, rfl⟩

def errorReply (code message : String) : Handled :=
  ⟨.ok, some (.json (.obj [("ok", .bool false), ("code", .str code), ("message", .str message)])), false⟩

theorem sendHttpError_fine (code message : String) :
    Returns Fine (sendHttpError code message) d (fun h u => u = d ∧ h = errorReply code message) := by
  apply allocates_fine.bind
  rintro done u ⟨rfl, rfl⟩
  apply Returns.ite (fun no => by cases no)
  intro _
  apply addMember_next
  apply addMember_next
  apply addMember_next
  exact sendJsonResponse_fine _ _

def savedReply (reboot : Bool) : Handled :=
  ⟨.ok, some (.json (.obj [("ok", .bool true), ("rebootRequired", .bool true), ("restarting", .bool reboot),
    ("message", .str (if reboot then "Settings saved. ESP32 is restarting."
      else "Settings saved. Restart the ESP32 to apply Wi-Fi changes."))])), reboot⟩

theorem sendSaved_fine (reboot : Bool) : Returns Fine (sendSaved reboot) d (fun h u => u = d ∧ h = savedReply reboot) := by
  apply allocates_fine.bind
  rintro done u ⟨rfl, rfl⟩
  apply Returns.ite (fun no => by cases no)
  intro _
  apply addMember_next
  apply addMember_next
  apply addMember_next
  apply addMember_next
  exact sendJsonResponse_fine _ _

theorem nvsCall_fine : Returns Fine nvsCall d (fun ret u => u = d ∧ ret = .ok) := by
  apply reply_fine.bind
  rintro r u ⟨rfl, fine⟩
  rw [fine.2.2.1]
  exact .pure ⟨rfl, rfl⟩

theorem nvsSet_fine (change : SettingsStore → SettingsStore) : Returns Fine (nvsSet change) d (fun ret u =>
    ret = .ok ∧ Same d u ∧ u.cached = change d.cached) := by
  apply reply_fine.bind
  rintro r u ⟨rfl, fine⟩
  apply Returns.bind (P := fun _ v => Same u v ∧ v.cached = change u.cached)
  · refine .writes ⟨⟨rfl, rfl⟩, ?_⟩
    dsimp only
    rw [if_pos (by rw [fine.2.2.1]; rfl)]
  · intro _ v hv
    rw [fine.2.2.1]
    exact .pure ⟨rfl, hv⟩

theorem nvsCommit_fine : Returns Fine nvsCommit d (fun ret u => ret = .ok ∧ Same d u ∧ u.flash = d.cached) := by
  apply reply_fine.bind
  rintro r u ⟨rfl, fine⟩
  apply Returns.bind (P := fun _ v => Same u v ∧ v.flash = u.cached)
  · refine .writes ⟨⟨rfl, rfl⟩, ?_⟩
    dsimp only
    rw [if_pos (by rw [fine.2.2.1]; rfl)]
  · intro _ v hv
    rw [fine.2.2.1]
    exact .pure ⟨rfl, hv⟩

theorem save_next {change : SettingsStore → SettingsStore} {rest : Firmware EspErr} {e : Device} {store : SettingsStore}
    (same : Same d e) (k : ∀ u, Same d u → u.cached = change e.cached →
      Returns Fine rest u (fun ret v => ret = .ok ∧ Same d v ∧ v.flash = store)) :
    Returns Fine (nvsSet change >>= fun ret => if ret ≠ .ok then pure ret else rest) e (fun ret v =>
      ret = .ok ∧ Same d v ∧ v.flash = store) := by
  apply (nvsSet_fine change).bind
  rintro ret u ⟨rfl, one, cached⟩
  exact .ite (fun no => absurd rfl no) (fun _ => k u (same.trans one) cached)

theorem chatSettingsSave_fine (s : Settings) : Returns Fine (chatSettingsSave s) d (fun ret u =>
    ret = .ok ∧ Same d u ∧ u.flash = storeOf s) := by
  apply nvsCall_fine.bind
  rintro opened u ⟨rfl, rfl⟩
  apply Returns.ite (fun no => absurd rfl no)
  intro _
  apply save_next same_self
  intro a same ssid
  apply save_next same
  intro b same pass
  apply save_next same
  intro c same admin
  apply save_next same
  intro e same chan
  apply nvsCommit_fine.post
  rintro ret v ⟨rfl, last, flash⟩
  refine ⟨rfl, same.trans last, ?_⟩
  rw [flash, chan, admin, pass, ssid]
  rfl

/-- What has become of a request: it is saved, or nothing has changed. -/
inductive Replied (given : Option Json) (d : Device) (h : Handled) (u : Device) : Prop where
  | saved (root : Json) (supplied : given = some root) (right : authorized root d.settings = true)
      (asked : requested root d.settings = .ok u.settings) (flash : u.flash = storeOf u.settings)
      (answer : h = savedReply (SettingsHandler.isTrue (getObjectItem root "reboot"))) : Replied given d h u
  | refused (wrong : ∀ root, given = some root → authorized root d.settings = true → ∀ s, requested root d.settings ≠ .ok s)
      (same : u = d) (answer : ∃ code message, h = errorReply code message) : Replied given d h u

theorem handleRequested_fine (root : Json) : Returns Fine (handleRequested root) d (Replied (some root) d) := by
  apply Returns.bind (P := fun current u => current = d.settings ∧ u = d) (.reads ⟨rfl, rfl⟩)
  rintro current u ⟨rfl, rfl⟩
  apply Returns.ite
  · intro wrong
    apply (sendHttpError_fine _ _).post
    rintro h v ⟨rfl, answer⟩
    refine .refused ?_ rfl ⟨_, _, answer⟩
    intro _ given right
    cases given
    rw [right] at wrong
    cases wrong
  · intro right
    cases asked : requested root u.settings with
    | error refusal =>
      apply (sendHttpError_fine _ _).post
      rintro h v ⟨rfl, answer⟩
      refine .refused ?_ rfl ⟨_, _, answer⟩
      intro _ given _ s taken
      cases given
      rw [asked] at taken
      cases taken
    | ok updated =>
      apply (chatSettingsSave_fine updated).bind
      rintro ret v ⟨rfl, same, flash⟩
      apply Returns.bind (P := fun _ x => x = { v with trace := v.trace ++ [.saved .ok] }) (.writes rfl)
      rintro _ x rfl
      apply Returns.ite (fun no => absurd rfl no)
      intro _
      apply Returns.bind (P := fun _ y => y = { v with trace := v.trace ++ [.saved .ok], settings := updated }) (.writes rfl)
      rintro _ y rfl
      apply (sendSaved_fine _).post
      rintro h z ⟨rfl, answer⟩
      exact .saved root rfl (by simpa using right) asked flash answer

theorem settingsPostHandler_fine : Returns Fine (settingsPostHandler cJSONParse req) d (Replied (supplied cJSONParse req) d) := by
  have read : Returns Fine (readRequestBody req settingsBodyBytes) d (fun r u => u = d ∧
      r.bind (JsonGate.chatJsonParseObject cJSONParse) = supplied cJSONParse req) := by
    unfold readRequestBody supplied
    apply Returns.ite
    · intro size
      rw [if_pos size]
      exact .pure ⟨rfl, rfl⟩
    · intro size
      rw [if_neg size]
      apply allocates_fine.bind
      rintro memory u ⟨rfl, rfl⟩
      exact .pure ⟨rfl, rfl⟩
  have nothing : ∀ {code message : String}, Returns Fine (sendHttpError code message) d (Replied none d) := by
    intro code message
    apply (sendHttpError_fine code message).post
    rintro h u ⟨rfl, answer⟩
    exact .refused (fun _ no => by cases no) rfl ⟨_, _, answer⟩
  apply read.bind
  rintro body u ⟨rfl, given⟩
  rw [← given]
  cases body with
  | none => exact nothing
  | some body =>
    apply allocates_fine.bind
    rintro memory v ⟨rfl, rfl⟩
    rw [if_pos rfl, Option.bind_some]
    cases JsonGate.chatJsonParseObject cJSONParse body with
    | none => exact nothing
    | some root => exact handleRequested_fine root

/-- When the device takes what the page submits. -/
structure Taken (f : Form) (s : Settings) (req : Request) : Prop where
  admin : CString.ofString (trim f.adminPassword) = s.adminPassword.text
  clean : '\x00' ∉ (trim f.adminPassword).toList
  typed : Typed f
  fits : FitsDevice f
  short : req.contentLen ≤ settingsBodyBytes

theorem submitted_authorized (valid : Valid s) : authorized (submitted f reboot) s = true ↔
    CString.ofString (trim f.adminPassword) = s.adminPassword.text := by
  rw [authorized_iff valid, submitted_adminPassword]
  exact ⟨Option.some.inj, congrArg some⟩

/-- A form that the page lets through is saved as it was typed when the device takes it, and changes nothing
    otherwise. -/
theorem form_replied {body : Json} (valid : Valid d.settings) (submits : saveSettings f reboot = .ok body)
    (carries : Carries cJSONParse body req) : Returns Fine (settingsPostHandler cJSONParse req) d (fun h u =>
      (Taken f d.settings req ∧ u.settings = typedOver f d.settings ∧ u.flash = storeOf u.settings ∧ h = savedReply reboot) ∨
      (¬Taken f d.settings req ∧ u = d ∧ ∃ code message, h = errorReply code message)) := by
  obtain ⟨rfl, -, accepts⟩ := saveSettings_ok submits
  have read := supplied_submitted carries
  apply settingsPostHandler_fine.post
  intro h u replied
  cases replied with
  | saved root given right asked flash answer =>
    obtain ⟨short, free, rfl⟩ := (read root).mp given
    obtain ⟨clean, typed⟩ := nulFree_submitted.mp free
    obtain ⟨fits, same⟩ := (requested_submitted accepts typed).mp asked
    refine .inl ⟨⟨(submitted_authorized valid).mp right, clean, typed, fits, short⟩, same, flash, ?_⟩
    rw [answer, submitted_reboot]
    rfl
  | refused wrong same answer =>
    refine .inr ⟨?_, same, answer⟩
    intro taken
    have given := (read (submitted f reboot)).mpr ⟨taken.short, nulFree_submitted.mpr ⟨taken.clean, taken.typed⟩, rfl⟩
    exact wrong _ given ((submitted_authorized valid).mpr taken.admin) _
      ((requested_submitted accepts taken.typed).mpr ⟨taken.fits, rfl⟩)

theorem form_step (defaults : Defaults) {b : Board} {body : Json} {env : ℕ → Reply} (on : b.on = true)
    (valid : Valid b.device.settings) (submits : saveSettings f reboot = .ok body) (carries : Carries cJSONParse body req)
    (fine : ∀ k, Fine (env k)) : ∃ h u, step defaults cJSONParse b (.post req env) = ⟨u, true⟩ ∧
      (settingsPostHandler cJSONParse req env b.device).result = some h ∧
      ((Taken f b.device.settings req ∧ u.settings = typedOver f b.device.settings ∧ u.flash = storeOf u.settings ∧
          h = savedReply reboot) ∨
        (¬Taken f b.device.settings req ∧ u = b.device ∧ ∃ code message, h = errorReply code message)) := by
  obtain ⟨h, u, env', ran, -, replied⟩ := (form_replied valid submits carries).run env fine
  refine ⟨h, u, ?_, ?_, replied⟩
  · unfold step
    dsimp only
    rw [if_pos on, ran]
    rfl
  · rw [ran]

/-- In every run, what the owner submits is saved exactly as it was typed, and is in flash then, when the admin
    password is right, the text fits the body, and no field is too long in bytes. In all other cases the
    device is as before and the reply is an error. -/
theorem form_saved (defaults : Defaults) (cJSONParse : CJSONParse) (store : SettingsStore) (events : List Event)
    (on : (run defaults cJSONParse store events).on = true) (f : Form) (reboot : Bool) (body : Json) (req : Request)
    (submits : saveSettings f reboot = .ok body) (carries : Carries cJSONParse body req)
    (env : ℕ → Reply) (fine : ∀ k, Fine (env k)) :
    let d := (run defaults cJSONParse store events).device
    let b := step defaults cJSONParse (run defaults cJSONParse store events) (.post req env)
    b.on = true ∧
    (Taken f d.settings req → b.device.settings = typedOver f d.settings ∧ b.device.flash = storeOf b.device.settings ∧
      (settingsPostHandler cJSONParse req env d).result = some (savedReply reboot)) ∧
    (¬Taken f d.settings req → b.device = d ∧
      ∃ code message, (settingsPostHandler cJSONParse req env d).result = some (errorReply code message)) := by
  intro d b
  have valid : Valid d.settings := run_valid store events on
  obtain ⟨h, u, stepped, result, replied⟩ := form_step defaults on valid submits carries fine
  have ended : b = ⟨u, true⟩ := stepped
  rw [ended, result]
  refine ⟨rfl, ?_, ?_⟩
  · intro taken
    rcases replied with ⟨-, settings, flash, answer⟩ | ⟨refused, -⟩
    · exact ⟨settings, flash, congrArg some answer⟩
    · exact absurd taken refused
  · intro refused
    rcases replied with ⟨taken, -⟩ | ⟨-, same, code, message, answer⟩
    · exact absurd taken refused
    · exact ⟨same, code, message, congrArg some answer⟩

theorem change_taken : Taken change (run factory formParse emptyStore booting).device.settings (requestOf change) where
  admin := by decide +kernel
  clean := by decide
  typed := ⟨by decide, by decide, by decide⟩
  fits := ⟨by decide, .inr (by decide), by decide⟩
  short := by decide +kernel

theorem environment_fine (k : ℕ) : Fine (ResponseLimit.environment k) := ⟨rfl, rfl, rfl, rfl⟩

theorem form_saved_change :
    (step factory formParse (run factory formParse emptyStore booting) (.post (requestOf change) ResponseLimit.environment)).device.settings =
      typedOver change (run factory formParse emptyStore booting).device.settings :=
  ((form_saved factory formParse emptyStore booting start_on change false _ (requestOf change)
    (saveSettings_accepts false accepts_change.1 accepts_change.2) (carries_form plain_change change_parsed)
    ResponseLimit.environment environment_fine).2.1 change_taken).1

/-- `settings_get_handler`. `decode` is how the browser reads the bytes of the SSID. -/
def settingsGetHandler (decode : CString → String) : Firmware Handled := do
  let root ← SettingsHandler.allocates
  if !root then do
    let _ ← sends
    pure ⟨.noMem, some (.internalError "Failed to create settings response"), false⟩
  else do
    let s ← reads Device.settings
    let ms ← SettingsHandler.addMember [] "ok" (.bool true)
    let ms ← SettingsHandler.addMember ms "ssid" (.str (decode s.ssid.text))
    let ms ← SettingsHandler.addMember ms "channel" (.num (.fin s.channel.toNat))
    let ms ← SettingsHandler.addMember ms "passwordSet" (.bool (s.password.length != 0))
    let ms ← SettingsHandler.addMember ms "maxSsidLength" (.num (.fin maxWifiSsidLen))
    let ms ← SettingsHandler.addMember ms "minPasswordLength" (.num (.fin minWifiPassLen))
    let ms ← SettingsHandler.addMember ms "maxPasswordLength" (.num (.fin maxWifiPassLen))
    let ms ← SettingsHandler.addMember ms "minAdminPasswordLength" (.num (.fin minAdminPassLen))
    sendJsonResponse (.obj ms) false

structure Dialog where
  form : Form
  wifiPlaceholder : String
  status : String
  failed : Bool

def inputText (s : String) : String := String.ofList (s.toList.filter (fun c => c != '\n' && c != '\r'))

/-- `data.channel || 1` in a number input; the device reports whole numbers. -/
def channelValue : Option Json → String
  | some (.num (.fin q)) => if q = 0 then "1" else toString q.num
  | _ => "1"

/-- What the fetch has thrown, or the object that was read. -/
def openSettings (before : Dialog) (fetched : Except String Json) : Dialog :=
  let cleared : Form :=
    { before.form with adminPassword := "", wifiPassword := "", newAdminPassword := "", openNetwork := false }
  match fetched with
  | .error message => ⟨cleared, before.wifiPlaceholder, "Failed to load settings: " ++ message, true⟩
  | .ok data =>
    if !truthy (data.lastMember "ok") then
      ⟨cleared, before.wifiPlaceholder, "Failed to load settings: " ++
        (if truthy (data.lastMember "message") then orEmpty (data.lastMember "message") else "Unable to load settings"), true⟩
    else
      ⟨{ cleared with
          ssid := inputText (orEmpty (data.lastMember "ssid"))
          channel := channelValue (data.lastMember "channel") },
        if truthy (data.lastMember "passwordSet") then "Leave blank to keep current password" else "No password is currently set",
        "Enter the admin password to save changes.", false⟩

def reported (decode : CString → String) (s : Settings) : Json :=
  .obj [("ok", .bool true), ("ssid", .str (decode s.ssid.text)), ("channel", .num (.fin s.channel.toNat)),
    ("passwordSet", .bool (s.password.length != 0)), ("maxSsidLength", .num (.fin maxWifiSsidLen)),
    ("minPasswordLength", .num (.fin minWifiPassLen)), ("maxPasswordLength", .num (.fin maxWifiPassLen)),
    ("minAdminPasswordLength", .num (.fin minAdminPassLen))]

theorem settingsGetHandler_fine (decode : CString → String) : Returns Fine (settingsGetHandler decode) d (fun h u =>
    u = d ∧ h = ⟨.ok, some (.json (reported decode d.settings)), false⟩) := by
  apply allocates_fine.bind
  rintro done u ⟨rfl, rfl⟩
  apply Returns.ite (fun no => by cases no)
  intro _
  apply Returns.bind (P := fun s v => s = u.settings ∧ v = u) (.reads ⟨rfl, rfl⟩)
  rintro s v ⟨rfl, rfl⟩
  apply addMember_next
  apply addMember_next
  apply addMember_next
  apply addMember_next
  apply addMember_next
  apply addMember_next
  apply addMember_next
  apply addMember_next
  exact sendJsonResponse_fine _ _

def openedForm (decode : CString → String) (s : Settings) : Form where
  adminPassword := ""
  ssid := inputText (decode s.ssid.text)
  channel := channelValue (some (.num (.fin s.channel.toNat)))
  wifiPassword := ""
  openNetwork := false
  newAdminPassword := ""

theorem openSettings_reported (decode : CString → String) (s : Settings) (before : Dialog) :
    (openSettings before (.ok (reported decode s))).form = openedForm decode s := rfl

theorem inputText_line {t : String} (line : ∀ c ∈ t.toList, c ≠ '\n' ∧ c ≠ '\r') : inputText t = t := by
  unfold inputText
  rw [List.filter_eq_self.mpr, String.ofList_toList]
  intro c among
  simpa using line c among

theorem channel_reported {c : UInt8} (low : 1 ≤ c) (high : c ≤ 13) :
    UInt8.ofInt (valueint (numberOfText (channelValue (some (.num (.fin c.toNat)))))) = c := by
  have all : ∀ n : Fin 14, 1 ≤ n.val →
      UInt8.ofInt (valueint (numberOfText (channelValue (some (.num (.fin (n.val : ℕ))))))) = UInt8.ofNat n.val := by
    decide +kernel
  rw [UInt8.le_iff_toNat_le] at low high
  have below : c.toNat < 14 := Nat.lt_succ_of_le high
  have same := all ⟨c.toNat, below⟩ low
  rw [same, UInt8.ofNat_toNat]

theorem dropWhile_rdropWhile {p : Char → Bool} {cs : List Char} (kept : cs.dropWhile p = cs) :
    (cs.rdropWhile p).dropWhile p = cs.rdropWhile p := by
  obtain ⟨rest, whole⟩ := cs.rdropWhile_prefix p
  cases first : cs.rdropWhile p with
  | nil => rfl
  | cons c ds =>
    rw [first, List.cons_append] at whole
    rw [← whole, List.dropWhile_cons] at kept
    split_ifs at kept with dropped
    · have short := (List.dropWhile_sublist (l := ds ++ rest) p).length_le
      rw [kept, List.length_cons] at short
      omega
    · rw [List.dropWhile_cons, if_neg dropped]

theorem trim_trim (t : String) : trim (trim t) = trim t := by
  have form : ∀ cs : List Char, trimmed cs = (cs.dropWhile isJsSpace).rdropWhile isJsSpace := fun _ => rfl
  unfold trim
  rw [String.toList_ofList, form (trimmed t.toList), form t.toList,
    dropWhile_rdropWhile (List.dropWhile_idempotent _ _), List.rdropWhile_idempotent]

theorem opened_unchanged {decode : CString → String} {t p : String} (valid : Valid s)
    (name : s.ssid.text = CString.ofString t) (decoded : decode (CString.ofString t) = t)
    (line : ∀ c ∈ t.toList, c ≠ '\n' ∧ c ≠ '\r') (cut : trim t = t) :
    typedOver { openedForm decode s with adminPassword := p } s = s := by
  have shown : (openedForm decode s).ssid = t := by
    change inputText (decode s.ssid.text) = t
    rw [name, decoded, inputText_line line]
  have ssid : CharArray.copyBounded maxWifiSsidLen (CString.ofString (trim (openedForm decode s).ssid)) = s.ssid := by
    apply CharArray.ext
    rw [shown, cut, ← name]
    exact CharArray.copyBounded_text s.ssid.length_le
  have channel : UInt8.ofInt (valueint (numberOfText (openedForm decode s).channel)) = s.channel :=
    channel_reported valid.channel.1 valid.channel.2
  unfold typedOver
  dsimp only
  rw [ssid, channel]
  rfl

/-- What is typed over the settings is taken as a text that an input shows again. -/
structure Showable (t : String) (s : Settings) : Prop where
  name : s.ssid.text = CString.ofString t
  clean : '\x00' ∉ t.toList
  line : ∀ c ∈ t.toList, c ≠ '\n' ∧ c ≠ '\r'
  cut : trim t = t
  filled : t ≠ ""

theorem typedOver_showable (accepts : Accepts f) (typed : Typed f) (fits : FitsDevice f)
    (line : ∀ c ∈ f.ssid.toList, c ≠ '\n' ∧ c ≠ '\r') : Showable (trim f.ssid) (typedOver f s) where
  name := CharArray.copyBounded_text (by rw [ofString_length typed.ssid]; exact fits.ssid)
  clean := typed.ssid
  line := fun c among => line c (mem_trim among)
  cut := trim_trim f.ssid
  filled := accepts.ssid

theorem typedOver_channel (accepts : Accepts f) :
    ((typedOver f s).channel.toNat : ℤ) = valueint (numberOfText f.channel) := by
  have range := channel_typed accepts.channel
  rw [not_or] at range
  obtain ⟨n, value⟩ := Int.eq_ofNat_of_zero_le (by omega : 0 ≤ valueint (numberOfText f.channel))
  have small : n < 14 := by omega
  change ((UInt8.ofInt (valueint (numberOfText f.channel))).toNat : ℤ) = _
  rw [value]
  have all : ∀ n : ℕ, n < 14 → ((UInt8.ofInt (n : ℤ)).toNat : ℤ) = n := by decide
  exact all n small

/-- The dialog shows the network, and to save what it shows changes nothing. -/
structure Shows (cJSONParse : CJSONParse) (d : Device) (t : String) (g : Form) : Prop where
  ssid : g.ssid = t
  channel : valueint (numberOfText g.channel) = d.settings.channel.toNat
  blank : g.adminPassword = "" ∧ g.wifiPassword = "" ∧ g.newAdminPassword = "" ∧ g.openNetwork = false
  submits : ∀ p, trim p ≠ "" → ∀ reboot, ∃ body, saveSettings { g with adminPassword := p } reboot = .ok body
  unchanged : ∀ p reboot body req, saveSettings { g with adminPassword := p } reboot = .ok body →
    Carries cJSONParse body req → Returns Fine (settingsPostHandler cJSONParse req) d (fun _ u => u.settings = d.settings)

theorem opened_shows {decode : CString → String} {t : String} (valid : Valid d.settings) (showable : Showable t d.settings)
    (decodes : ∀ t, '\x00' ∉ t.toList → decode (CString.ofString t) = t) :
    Shows cJSONParse d t (openedForm decode d.settings) := by
  have decoded := decodes t showable.clean
  have shown : (openedForm decode d.settings).ssid = t := by
    change inputText (decode d.settings.ssid.text) = t
    rw [showable.name, decoded, inputText_line showable.line]
  have channels : ∀ n : Fin 14, 1 ≤ n.val → valueint (numberOfText (channelValue (some (.num (.fin (n.val : ℕ)))))) = n.val ∧
      channelAllowed (numberOfText (channelValue (some (.num (.fin (n.val : ℕ)))))) = true := by decide +kernel
  have low := UInt8.le_iff_toNat_le.mp valid.channel.1
  have high := UInt8.le_iff_toNat_le.mp valid.channel.2
  obtain ⟨value, allowed⟩ := channels ⟨d.settings.channel.toNat, Nat.lt_succ_of_le high⟩ low
  have accepts : ∀ p, Accepts { openedForm decode d.settings with adminPassword := p } := by
    intro p
    refine ⟨?_, allowed, .inr (.inl rfl), .inl rfl⟩
    rw [shown, showable.cut]
    exact showable.filled
  refine ⟨shown, value, ⟨rfl, rfl, rfl, rfl⟩, ?_, ?_⟩
  · intro p filled reboot
    exact ⟨_, saveSettings_accepts reboot filled (accepts p)⟩
  · intro p reboot body req submits carries
    apply (form_replied valid submits carries).post
    rintro h u (⟨-, settings, -⟩ | ⟨-, same, -⟩)
    · rw [settings]
      exact opened_unchanged valid showable.name decoded showable.line showable.cut
    · rw [same]

theorem dialog_shows {decode : CString → String} {t : String} (valid : Valid d.settings) (showable : Showable t d.settings)
    (decodes : ∀ t, '\x00' ∉ t.toList → decode (CString.ofString t) = t) :
    Returns Fine (settingsGetHandler decode) d (fun h u => u = d ∧ ∃ data, h = ⟨.ok, some (.json data), false⟩ ∧
      ∀ before, Shows cJSONParse d t (openSettings before (.ok data)).form) := by
  apply (settingsGetHandler_fine decode).post
  rintro h u ⟨rfl, rfl⟩
  refine ⟨rfl, _, rfl, ?_⟩
  intro before
  rw [openSettings_reported]
  exact opened_shows valid showable decodes

/-- In every run, what was saved is what the dialog shows the next time, with every password left blank, and to save
    what it shows changes nothing. -/
theorem saved_shown (defaults : Defaults) (cJSONParse : CJSONParse) (store : SettingsStore) (events : List Event)
    (on : (run defaults cJSONParse store events).on = true) (f : Form) (reboot : Bool) (body : Json) (req : Request)
    (submits : saveSettings f reboot = .ok body) (carries : Carries cJSONParse body req)
    (taken : Taken f (run defaults cJSONParse store events).device.settings req)
    (line : ∀ c ∈ f.ssid.toList, c ≠ '\n' ∧ c ≠ '\r') (decode : CString → String)
    (decodes : ∀ t, '\x00' ∉ t.toList → decode (CString.ofString t) = t) (env : ℕ → Reply) (fine : ∀ k, Fine (env k)) :
    let u := (step defaults cJSONParse (run defaults cJSONParse store events) (.post req env)).device
    Returns Fine (settingsGetHandler decode) u (fun h v => v = u ∧ ∃ data, h = ⟨.ok, some (.json data), false⟩ ∧
      ∀ before, Shows cJSONParse u (trim f.ssid) (openSettings before (.ok data)).form ∧
        valueint (numberOfText (openSettings before (.ok data)).form.channel) = valueint (numberOfText f.channel)) := by
  intro u
  have valid := run_valid store events on
  have accepts := (saveSettings_ok submits).2.2
  obtain ⟨h, v, stepped, -, replied⟩ := form_step defaults on valid submits carries fine
  have after : u.settings = typedOver f (run defaults cJSONParse store events).device.settings := by
    change (step defaults cJSONParse (run defaults cJSONParse store events) (.post req env)).device.settings = _
    rw [stepped]
    rcases replied with ⟨-, settings, -⟩ | ⟨refused, -⟩
    · exact settings
    · exact absurd taken refused
  have valid' : Valid u.settings := step_valid (fun _ => valid) (.post req env) (by rw [stepped])
  have showable : Showable (trim f.ssid) u.settings := by
    rw [after]
    exact typedOver_showable accepts taken.typed taken.fits line
  apply (dialog_shows valid' showable decodes).post
  rintro h w ⟨same, data, answer, shows⟩
  refine ⟨same, data, answer, ?_⟩
  intro before
  refine ⟨shows before, ?_⟩
  rw [(shows before).channel, after]
  exact typedOver_channel accepts

def readText (s : CString) : String := (String.fromUTF8? s.bytes.toByteArray).getD ""

theorem readText_written (t : String) (clean : '\x00' ∉ t.toList) : readText (CString.ofString t) = t := by
  have bytes : (CString.ofString t).bytes.toByteArray = t.toByteArray := by
    rw [ofString_bytes clean, ← String.ofList_toList (s := t), String.toByteArray_ofList, String.toList_ofList]
    rfl
  unfold readText String.fromUTF8?
  rw [bytes, dif_pos t.isValidUTF8]
  rfl

theorem change_line : ∀ c ∈ change.ssid.toList, c ≠ '\n' ∧ c ≠ '\r' := by
  have all : change.ssid.toList.all (fun c => c != '\n' && c != '\r') = true := by decide +kernel
  intro c among
  simpa using List.all_eq_true.mp all c among

theorem saved_shown_change :
    Returns Fine (settingsGetHandler readText)
      (step factory formParse (run factory formParse emptyStore booting) (.post (requestOf change) ResponseLimit.environment)).device
      (fun h v => v = (step factory formParse (run factory formParse emptyStore booting)
          (.post (requestOf change) ResponseLimit.environment)).device ∧ ∃ data, h = ⟨.ok, some (.json data), false⟩ ∧
        ∀ before, Shows formParse (step factory formParse (run factory formParse emptyStore booting)
          (.post (requestOf change) ResponseLimit.environment)).device (trim change.ssid)
          (openSettings before (.ok data)).form ∧
          valueint (numberOfText (openSettings before (.ok data)).form.channel) = valueint (numberOfText change.channel)) :=
  saved_shown factory formParse emptyStore booting start_on change false _ (requestOf change)
    (saveSettings_accepts false accepts_change.1 accepts_change.2) (carries_form plain_change change_parsed) change_taken
    change_line readText readText_written ResponseLimit.environment environment_fine

end EspWebChat.SettingsDialog
