import EspWebChat.SettingsRuns

set_option autoImplicit false

/-!
# A save that fails

`chat_settings_save` writes four keys one after the other and stops at the first error. Flash
may by then have the new values of the keys before it, and the next boot loads them.
-/
namespace EspWebChat.FailedSaves
open CharArrays Interruptible JsonTree DeviceSettings SettingsHandler SettingsSteps SettingsRuns
open JsonGate (CJSONParse chatJsonParseObject)
open ServerWorld (EspErr Reply)

variable {defaults : Defaults} {cJSONParse : CJSONParse} {d : Device} {s t : Settings} {store : SettingsStore}

inductive Key where
  | ssid
  | pass
  | admin
  | chan
  deriving DecidableEq, Repr

def SameField (s t : Settings) : Key → Prop
  | .ssid => s.ssid = t.ssid
  | .pass => s.password = t.password
  | .admin => s.adminPassword = t.adminPassword
  | .chan => s.channel = t.channel

def ValidField (s : Settings) : Key → Prop
  | .ssid => 1 ≤ s.ssid.length ∧ s.ssid.length ≤ 32
  | .pass => s.password.length = 0 ∨ (8 ≤ s.password.length ∧ s.password.length ≤ 63)
  | .admin => 4 ≤ s.adminPassword.length ∧ s.adminPassword.length ≤ 32
  | .chan => 1 ≤ s.channel ∧ s.channel ≤ 13

theorem valid_iff_fields : Valid s ↔ ∀ k, ValidField s k := by
  constructor
  · intro h k
    cases k with
    | ssid => exact h.ssid
    | pass => exact h.password
    | admin => exact h.adminPassword
    | chan => exact h.channel
  · intro h
    exact ⟨h .ssid, h .pass, h .chan, h .admin⟩

theorem eq_iff_fields : s = t ↔ ∀ k, SameField s t k := by
  constructor
  · intro same k
    cases same
    cases k <;> rfl
  · intro h
    have ssid : s.ssid = t.ssid := h .ssid
    have password : s.password = t.password := h .pass
    have adminPassword : s.adminPassword = t.adminPassword := h .admin
    have channel : s.channel = t.channel := h .chan
    cases s
    cases t
    simp only at ssid password adminPassword channel
    rw [ssid, password, adminPassword, channel]

/-- The fields of the keys in `taken` from `s`, the others from `t`. -/
def mix (taken : Key → Bool) (s t : Settings) : Settings where
  ssid := if taken .ssid then s.ssid else t.ssid
  password := if taken .pass then s.password else t.password
  channel := if taken .chan then s.channel else t.channel
  adminPassword := if taken .admin then s.adminPassword else t.adminPassword

/-- The namespace once the keys in `taken` have their values from `s`. -/
def mixStore (taken : Key → Bool) (s : Settings) (store : SettingsStore) : SettingsStore where
  ssid := if taken .ssid then some s.ssid.text else store.ssid
  pass := if taken .pass then some s.password.text else store.pass
  admin := if taken .admin then some s.adminPassword.text else store.admin
  chan := if taken .chan then some s.channel else store.chan

theorem mix_same (taken : Key → Bool) (u : Settings) (k : Key) :
    SameField (mix taken s t) u k ↔ SameField (if taken k then s else t) u k := by
  cases k <;> (simp only [SameField, mix]; split_ifs <;> rfl)

theorem mix_valid (taken : Key → Bool) (k : Key) :
    ValidField (mix taken s t) k ↔ ValidField (if taken k then s else t) k := by
  cases k <;> (simp only [ValidField, mix]; split_ifs <;> rfl)

/-- A field that is read where it can be, and keeps its default where not. -/
def readInto {limit : ℕ} (value : Option CString) (fallback : CharArray limit) : CharArray limit :=
  (value.bind fun s => if h : s.length ≤ limit then some ⟨s, h⟩ else none).getD fallback

/-- The stored fields over the defaults, before the loader checks them. -/
def readBack (defaults : Defaults) (store : SettingsStore) : Settings where
  ssid := readInto store.ssid (chatSettingsResetToDefaults defaults).ssid
  password := readInto store.pass (chatSettingsResetToDefaults defaults).password
  channel := store.chan.getD (chatSettingsResetToDefaults defaults).channel
  adminPassword := readInto store.admin (chatSettingsResetToDefaults defaults).adminPassword

def bootSettings (defaults : Defaults) (store : SettingsStore) : Settings :=
  if stored (readBack defaults store) then readBack defaults store else chatSettingsResetToDefaults defaults

theorem readBack_empty : readBack defaults ⟨none, none, none, none⟩ = chatSettingsResetToDefaults defaults := rfl

theorem bootSettings_empty : bootSettings defaults ⟨none, none, none, none⟩ = chatSettingsResetToDefaults defaults := by
  rw [bootSettings, readBack_empty, ite_self]

theorem nvsOpenReadonly_answers : Returns Reliable nvsOpenReadonly d (fun ret u => u = d ∧
    ret = if d.cached = ⟨none, none, none, none⟩ then .nvsNotFound else .ok) :=
  nvsRead_reliable id

theorem nvsGetStr_answers (limit : ℕ) (key : SettingsStore → Option CString) :
    Returns Reliable (nvsGetStr limit key) d (fun r u => u = d ∧ r = (key d.cached).bind fun s =>
      if h : s.length ≤ limit then some (⟨s, h⟩ : CharArray limit) else none) :=
  nvsRead_reliable fun _ => none

theorem nvsGetU8_answers (key : SettingsStore → Option UInt8) :
    Returns Reliable (nvsGetU8 key) d (fun r u => u = d ∧ r = key d.cached) :=
  nvsRead_reliable fun _ => none

theorem chatSettingsLoad_boots : Returns Reliable (chatSettingsLoad defaults) d
    (fun _ u => u.settings = bootSettings defaults d.cached) := by
  apply (writeSettings_reliable rfl).bind
  intro _ a ha
  apply nvsOpenReadonly_answers.bind
  intro ret a' h
  obtain ⟨rfl, rfl⟩ := h
  by_cases empty : a'.cached = ⟨none, none, none, none⟩
  · rw [if_pos empty]
    apply Returns.writes
    dsimp only
    rw [ha.1, ← ha.2, empty, bootSettings_empty]
  · rw [if_neg empty]
    apply (nvsGetStr_answers _ _).bind
    intro ssid a h
    obtain ⟨rfl, rfl⟩ := h
    apply (writeSettings_reliable rfl).bind
    intro _ b hb
    apply (nvsGetStr_answers _ _).bind
    intro password b h
    obtain ⟨rfl, rfl⟩ := h
    apply (writeSettings_reliable rfl).bind
    intro _ c hc
    apply (nvsGetStr_answers _ _).bind
    intro adminPassword c h
    obtain ⟨rfl, rfl⟩ := h
    apply (writeSettings_reliable rfl).bind
    intro _ e he
    apply (nvsGetU8_answers _).bind
    intro channel e h
    obtain ⟨rfl, rfl⟩ := h
    apply (writeSettings_reliable rfl).bind
    intro _ f hf
    have read : f.settings = readBack defaults d.cached := by
      rw [hf.1, he.1, he.2, hc.1, hc.2, hb.1, hb.2, ha.1, ha.2]
      rfl
    have kept : (if stored f.settings then f.settings else chatSettingsResetToDefaults defaults) =
        bootSettings defaults d.cached := by
      rw [read]
      rfl
    apply (writeSettings_reliable kept).bind
    intro _ g hg
    exact .writes hg.1

def Loads (defaults : Defaults) (d : Device) (s : Settings) : Prop :=
  Returns Reliable (chatSettingsLoad defaults) d.reboot (fun _ u => u.settings = s)

theorem loads_iff : Loads defaults d s ↔ bootSettings defaults d.flash = s := by
  have boots : Returns Reliable (chatSettingsLoad defaults) d.reboot
    (fun _ u => u.settings = bootSettings defaults d.flash) := chatSettingsLoad_boots
  constructor
  · intro loads
    obtain ⟨_, u, _, -, -, boot, same⟩ := (boots.both loads).run ResponseLimit.environment (fun _ => ⟨rfl, rfl⟩)
    exact boot.symm.trans same
  · rintro rfl
    exact boots

theorem readInto_text {limit : ℕ} (a fallback : CharArray limit) : readInto (some a.text) fallback = a := by
  rw [readInto, Option.bind_some, dif_pos a.fits]
  rfl

theorem readBack_mix (taken : Key → Bool) :
    readBack defaults (mixStore taken s store) = mix taken s (readBack defaults store) := by
  rw [eq_iff_fields]
  intro k
  cases k <;> (simp only [SameField, readBack, mixStore, mix]; split_ifs)
  all_goals first | rfl | exact readInto_text _ _

/-- The cases in which valid new values of the keys in `taken` do not show at the next boot. -/
inductive Harmless (defaults : Defaults) (store : SettingsStore) (updated : Settings) (taken : Key → Bool) : Prop where
  /-- Another stored value is invalid, so that both boots fall back to the defaults. -/
  | spoiled (k : Key) (other : taken k = false) (invalid : ¬ValidField (readBack defaults store) k)
  /-- The values are the stored ones. -/
  | repeated (valid : Valid (readBack defaults store))
      (same : ∀ k, taken k = true → SameField updated (readBack defaults store) k)
  /-- An invalid value has given way, and everything is as in the defaults. -/
  | restored (invalid : ¬Valid (readBack defaults store))
      (same : ∀ k, SameField (if taken k then updated else readBack defaults store) (chatSettingsResetToDefaults defaults) k)

theorem boot_mix_iff (valid : Valid s) (taken : Key → Bool) :
    bootSettings defaults (mixStore taken s store) = bootSettings defaults store ↔ Harmless defaults store s taken := by
  have fields : ∀ k, ValidField (mix taken s (readBack defaults store)) k ↔
      taken k = true ∨ ValidField (readBack defaults store) k := by
    intro k
    rw [mix_valid]
    cases taken k with
    | true => exact iff_of_true (valid_iff_fields.mp valid k) (.inl rfl)
    | false => simp
  rw [bootSettings, readBack_mix]
  by_cases mixed : Valid (mix taken s (readBack defaults store))
  · have open_keys : ∀ k, taken k = false → ValidField (readBack defaults store) k := by
      intro k other
      have field := (fields k).mp (valid_iff_fields.mp mixed k)
      simpa [other] using field
    rw [if_pos (stored_iff.mpr mixed), bootSettings]
    by_cases old : Valid (readBack defaults store)
    · rw [if_pos (stored_iff.mpr old), eq_iff_fields]
      constructor
      · intro same
        refine .repeated old ?_
        intro k took
        have field := (mix_same taken _ k).mp (same k)
        rwa [if_pos took] at field
      · intro harmless k
        rw [mix_same]
        cases harmless with
        | spoiled k other invalid => exact absurd (open_keys k other) invalid
        | repeated _ same =>
          cases took : taken k with
          | true => exact same k took
          | false => exact eq_iff_fields.mp rfl k
        | restored invalid _ => exact absurd old invalid
    · rw [if_neg (fun yes => old (stored_iff.mp yes)), eq_iff_fields]
      constructor
      · intro same
        exact .restored old fun k => (mix_same taken _ k).mp (same k)
      · intro harmless k
        rw [mix_same]
        cases harmless with
        | spoiled k other invalid => exact absurd (open_keys k other) invalid
        | repeated valid _ => exact absurd valid old
        | restored _ same => exact same k
  · obtain ⟨k, invalid⟩ := not_forall.mp (fun all => mixed (valid_iff_fields.mpr all))
    rw [fields, not_or, Bool.not_eq_true] at invalid
    have old : ¬Valid (readBack defaults store) := fun valid => invalid.2 (valid_iff_fields.mp valid k)
    rw [if_neg (fun yes => mixed (stored_iff.mp yes)), bootSettings, if_neg (fun yes => old (stored_iff.mp yes))]
    exact iff_of_true rfl (.spoiled k invalid.1 invalid.2)

def Key.call : Key → ℕ
  | .ssid => 1
  | .pass => 2
  | .admin => 3
  | .chan => 4

/-- None of the first `n` calls of a save fails. Call 0 opens the namespace, call 5 commits. -/
def passes (env : ℕ → Reply) (n : ℕ) : Bool := (List.range n).all fun i => (env i).nvs.error.isNone

/-- The keys whose new values flash has after a save that fails: the set of the key was called,
    and flash took the value there and then, or at a commit that failed nevertheless. -/
def wrote (env : ℕ → Reply) (k : Key) : Bool :=
  passes env k.call && ((env k.call).nvs.written || (passes env 5 && (env 5).nvs.written))

section calls
variable {env : ℕ → Reply} {ret : EspErr} {f : SettingsStore → SettingsStore} {k : Firmware EspErr}

def later (env : ℕ → Reply) : ℕ → Reply := fun k => env (k + 1)

def answer (r : Reply) : EspErr := r.nvs.error.elim .ok Subtype.val

theorem answer_ok {r : Reply} : answer r = .ok ↔ r.nvs.error.isNone = true := by
  unfold answer
  cases r.nvs.error with
  | none => exact iff_of_true rfl rfl
  | some e => exact iff_of_false e.property.1 Bool.false_ne_true

theorem reply_run (powered : (env 0).powered = true) : DeviceSettings.reply env d = ⟨some (env 0), d, later env⟩ := by
  unfold later
  simp [DeviceSettings.reply, Interruptible.ask, powered]

theorem reply_powered {α : Type} {g : Reply → Firmware α} {a : α}
    (h : ((DeviceSettings.reply >>= g) env d).result = some a) : (env 0).powered = true := by
  by_contra off
  obtain ⟨r, w, env', run, -⟩ := bind_returned h
  simp [DeviceSettings.reply, Interruptible.ask, off] at run

theorem writes_run (g : Device → Device) : (writes g : Firmware Unit) env d = ⟨some (), g d, env⟩ := rfl

def afterSet (f : SettingsStore → SettingsStore) (r : Reply) (d : Device) : Device :=
  { d with
    cached := if r.nvs.error.isNone || r.nvs.written then f d.cached else d.cached
    flash := if r.nvs.written then f d.flash else d.flash }

def afterCommit (r : Reply) (d : Device) : Device :=
  { d with flash := if r.nvs.error.isNone || r.nvs.written then d.cached else d.flash }

theorem nvsCall_run (powered : (env 0).powered = true) : nvsCall env d = ⟨some (answer (env 0)), d, later env⟩ := by
  rw [nvsCall, bind_run (reply_run powered)]
  unfold answer
  cases (env 0).nvs.error <;> rfl

theorem nvsSet_run (f : SettingsStore → SettingsStore) (powered : (env 0).powered = true) :
    nvsSet f env d = ⟨some (answer (env 0)), afterSet f (env 0) d, later env⟩ := by
  rw [nvsSet, bind_run (reply_run powered), bind_run (writes_run _)]
  unfold answer afterSet
  cases (env 0).nvs.error <;> rfl

theorem nvsCommit_run (powered : (env 0).powered = true) :
    nvsCommit env d = ⟨some (answer (env 0)), afterCommit (env 0) d, later env⟩ := by
  rw [nvsCommit, bind_run (reply_run powered), bind_run (writes_run _)]
  unfold answer afterCommit
  cases (env 0).nvs.error <;> rfl

theorem call_cases {m : Firmware EspErr} {after : Device} (run : m env d = ⟨some (answer (env 0)), after, later env⟩) :
    ((env 0).nvs.error.isNone = false ∧
      (m >>= fun ret => if ret ≠ .ok then pure ret else k) env d = ⟨some (answer (env 0)), after, later env⟩) ∨
    ((env 0).nvs.error.isNone = true ∧
      (m >>= fun ret => if ret ≠ .ok then pure ret else k) env d = k (later env) after) := by
  rw [bind_run run]
  cases none : (env 0).nvs.error.isNone with
  | false =>
    have failed : answer (env 0) ≠ .ok := fun ok => by rw [answer_ok, none] at ok; cases ok
    exact .inl ⟨rfl, by rw [if_pos failed]; rfl⟩
  | true => exact .inr ⟨rfl, by rw [if_neg (not_not_intro (answer_ok.mpr none))]⟩

theorem set_cases (h : ((nvsSet f >>= fun ret => if ret ≠ .ok then pure ret else k) env d).result = some ret) :
    ((env 0).nvs.error.isNone = false ∧ (nvsSet f >>= fun ret => if ret ≠ .ok then pure ret else k) env d =
      ⟨some (answer (env 0)), afterSet f (env 0) d, later env⟩) ∨
    ((env 0).nvs.error.isNone = true ∧ (nvsSet f >>= fun ret => if ret ≠ .ok then pure ret else k) env d =
      k (later env) (afterSet f (env 0) d)) := by
  obtain ⟨_, _, _, first, -⟩ := bind_returned h
  have powered : (env 0).powered = true := reply_powered (congrArg Outcome.result first)
  exact call_cases (nvsSet_run f powered)

theorem passes_succ {n : ℕ} (before : passes env n = true) (next : (env n).nvs.error.isNone = true) :
    passes env (n + 1) = true := by
  unfold passes at before ⊢
  rw [List.range_succ, List.all_append, before]
  simpa using next

theorem passes_until {n : ℕ} (before : passes env n = true) (fails : (env n).nvs.error.isNone = false) (m : ℕ) :
    passes env m = decide (m ≤ n) := by
  unfold passes at before ⊢
  rw [List.all_eq_true] at before
  by_cases reached : m ≤ n
  · rw [decide_eq_true reached, List.all_eq_true]
    intro i inside
    rw [List.mem_range] at inside
    exact before i (List.mem_range.mpr (by omega))
  · rw [decide_eq_false reached, List.all_eq_false]
    exact ⟨n, List.mem_range.mpr (by omega), by rw [fails]; exact Bool.false_ne_true⟩

theorem wrote_until {n : ℕ} (before : passes env n = true) (fails : (env n).nvs.error.isNone = false) :
    wrote env = fun k => decide (k.call ≤ n) && ((env k.call).nvs.written || (decide (5 ≤ n) && (env 5).nvs.written)) := by
  funext k
  rw [wrote, passes_until before fails, passes_until before fails]

def pick (ssid pass admin chan : Bool) : Key → Bool
  | .ssid => ssid
  | .pass => pass
  | .admin => admin
  | .chan => chan

def setIf (b : Bool) (f : SettingsStore → SettingsStore) (store : SettingsStore) : SettingsStore :=
  if b then f store else store

theorem sets_mix (ssid pass admin chan : Bool) :
    setIf chan (setChan s) (setIf admin (setAdmin s) (setIf pass (setPass s) (setIf ssid (setSsid s) store))) =
      mixStore (pick ssid pass admin chan) s store := by
  cases ssid <;> cases pass <;> cases admin <;> cases chan <;> rfl

theorem wrote_pick {n : ℕ} (before : passes env n = true) (fails : (env n).nvs.error.isNone = false) (sets : n ≤ 4) :
    wrote env = pick (decide (1 ≤ n) && (env 1).nvs.written) (decide (2 ≤ n) && (env 2).nvs.written)
      (decide (3 ≤ n) && (env 3).nvs.written) (decide (4 ≤ n) && (env 4).nvs.written) := by
  have early : decide (5 ≤ n) = false := decide_eq_false (by omega)
  rw [wrote_until before fails, early]
  funext k
  rw [Bool.false_and, Bool.or_false]
  cases k <;> rfl

/-- A save that fails has changed flash by the keys it wrote, and nothing else. -/
theorem chatSettingsSave_failed (failed : (chatSettingsSave s env d).result = some ret) (error : ret ≠ .ok) :
    (chatSettingsSave s env d).world.flash = mixStore (wrote env) s d.flash := by
  unfold chatSettingsSave at failed ⊢
  obtain ⟨_, _, _, first, -⟩ := bind_returned failed
  have powered : (env 0).powered = true := reply_powered (congrArg Outcome.result first)
  have p0 : passes env 0 = true := rfl
  rcases call_cases (nvsCall_run powered) with ⟨e0, run⟩ | ⟨e0, run⟩ <;> rw [run] at failed ⊢
  · rw [wrote_pick p0 e0 (by omega)]
    exact sets_mix false false false false
  have p1 := passes_succ p0 e0
  rcases set_cases failed with ⟨e1, run⟩ | ⟨e1, run⟩ <;> rw [run] at failed ⊢
  · rw [wrote_pick p1 e1 (by omega)]
    exact sets_mix _ false false false
  have p2 := passes_succ p1 e1
  rcases set_cases failed with ⟨e2, run⟩ | ⟨e2, run⟩ <;> rw [run] at failed ⊢
  · rw [wrote_pick p2 e2 (by omega)]
    exact sets_mix _ _ false false
  have p3 := passes_succ p2 e2
  rcases set_cases failed with ⟨e3, run⟩ | ⟨e3, run⟩ <;> rw [run] at failed ⊢
  · rw [wrote_pick p3 e3 (by omega)]
    exact sets_mix _ _ _ false
  have p4 := passes_succ p3 e3
  rcases set_cases failed with ⟨e4, run⟩ | ⟨e4, run⟩ <;> rw [run] at failed ⊢
  · rw [wrote_pick p4 e4 (by omega)]
    exact sets_mix _ _ _ _
  have p5 := passes_succ p4 e4
  have powered : (later (later (later (later (later env)))) 0).powered = true := reply_powered failed
  rw [nvsCommit_run powered] at failed ⊢
  have e5 : (env 5).nvs.error.isNone = false := by
    rw [Bool.eq_false_iff]
    intro none
    exact error ((Option.some.inj failed).symm.trans (answer_ok.mpr none))
  rw [wrote_until p5 e5]
  unfold afterCommit
  dsimp only
  rw [show (later (later (later (later (later env)))) 0) = env 5 from rfl, e5, Bool.false_or]
  cases took : (env 5).nvs.written with
  | true =>
    have all : (fun k : Key => decide (k.call ≤ 5) && ((env k.call).nvs.written || (decide (5 ≤ 5) && true))) =
        pick true true true true := by
      funext k
      cases k <;> simp [Key.call, pick]
    rw [if_pos rfl, show (fun k : Key => _) = pick true true true true from all]
    simp only [afterSet, e1, e2, e3, e4, Bool.true_or, if_true]
    rfl
  | false =>
    have sets : (fun k : Key => decide (k.call ≤ 5) && ((env k.call).nvs.written || (decide (5 ≤ 5) && false))) =
        pick (env 1).nvs.written (env 2).nvs.written (env 3).nvs.written (env 4).nvs.written := by
      funext k
      cases k <;> simp [Key.call, pick]
    rw [if_neg Bool.false_ne_true, show (fun k : Key => _) = pick _ _ _ _ from sets]
    exact sets_mix _ _ _ _

end calls

/-- A request whose save failed has saved nothing: the device runs with the settings it had, and
    switched off and on it comes back with the same settings as before the request. -/
structure LeavesNothing (defaults : Defaults) (d after : Device) : Prop where
  settings : after.settings = d.settings
  boot : ∃ s, Loads defaults d s ∧ Loads defaults after s

theorem saveRequested_failed {env : ℕ → Reply} {root : Json} {updated : Settings} {ret : EspErr}
    (saved : (saveRequested root updated env d).world.trace = d.trace ++ [.saved ret]) (error : ret ≠ .ok) :
    (saveRequested root updated env d).world.settings = d.settings ∧
      (saveRequested root updated env d).world.flash = mixStore (wrote env) updated d.flash := by
  have same := ((chatSettingsSave_ends updated).run env (w := d)).1
  unfold saveRequested at saved ⊢
  cases run : chatSettingsSave updated env d with
  | mk result u env' =>
    rw [run] at same
    cases result with
    | none =>
      rw [bind_cut run] at saved
      exact absurd (same.trace.symm.trans saved) saved_ne
    | some ret' =>
      have flash : ret' ≠ .ok → u.flash = mixStore (wrote env) updated d.flash := by
        intro failed
        have left := chatSettingsSave_failed (congrArg Outcome.result run) failed
        rw [run] at left
        exact left
      rw [bind_run run, record, bind_run (writes_run _)] at saved ⊢
      have trace : u.trace ++ [.saved ret'] = d.trace ++ [.saved ret'] := congrArg (· ++ [.saved ret']) same.trace
      split_ifs at saved ⊢ with failed
      · have idle : ∀ v, (sendHttpError "save_failed" "Unable to save settings to NVS" env' v).world = v :=
          fun v => (sendHttpError_idle _ _ v).run env'
        rw [idle]
        exact ⟨same.settings, flash failed⟩
      · have ok : ret' = .ok := not_not.mp failed
        have tail := (sendSaved_ends (isTrue (getObjectItem root "reboot"))).run env'
          (w := { u with trace := u.trace ++ [.saved ret'], settings := updated })
        rw [writeSettings, bind_run (writes_run _), tail.1, trace, ok] at saved
        cases List.append_cancel_left saved
        exact absurd rfl error

theorem allocates_run {env : ℕ → Reply} (powered : (env 0).powered = true) :
    SettingsHandler.allocates env d = ⟨some (env 0).alloc, d, later env⟩ := by
  rw [SettingsHandler.allocates, bind_run (reply_run powered)]
  rfl

theorem allocates_cut {env : ℕ → Reply} (off : (env 0).powered = false) :
    ∃ env', SettingsHandler.allocates env d = ⟨none, d, env'⟩ := by
  refine ⟨later env, ?_⟩
  have cut : DeviceSettings.reply env d = ⟨none, d, later env⟩ := by
    unfold later
    simp [DeviceSettings.reply, Interruptible.ask, off]
  exact bind_cut cut

theorem settingsPostHandler_saves {req : Request} {env : ℕ → Reply} {root : Json} {updated : Settings} {ret : EspErr}
    (given : supplied cJSONParse req = some root) (allowed : authorized root d.settings = true)
    (asked : requested root d.settings = .ok updated)
    (saved : (settingsPostHandler cJSONParse req env d).world.trace = d.trace ++ [.saved ret]) :
    settingsPostHandler cJSONParse req env d = saveRequested root updated (later (later env)) d := by
  have moved : (settingsPostHandler cJSONParse req env d).world ≠ d := by
    intro same
    rw [same] at saved
    exact saved_ne saved
  unfold supplied at given
  split_ifs at given with size
  obtain ⟨body, received, parsed⟩ := Option.bind_eq_some_iff.mp given
  have refused : ∀ code message env', (sendHttpError code message env' d).world = d :=
    fun code message => (sendHttpError_idle code message d).run
  unfold settingsPostHandler at moved ⊢
  cases p0 : (env 0).powered with
  | false =>
    obtain ⟨env', cut⟩ := allocates_cut (d := d) p0
    have first : readRequestBody req settingsBodyBytes env d = ⟨none, d, env'⟩ := by
      rw [readRequestBody, if_neg size]
      exact bind_cut cut
    rw [bind_cut first] at moved
    exact absurd rfl moved
  | true =>
    have first : readRequestBody req settingsBodyBytes env d =
        ⟨some (if (env 0).alloc then receive req.contentLen req.chunks [] else none), d, later env⟩ := by
      rw [readRequestBody, if_neg size, bind_run (allocates_run p0)]
      rfl
    rw [bind_run first] at moved ⊢
    rw [received] at moved ⊢
    cases a0 : (env 0).alloc with
    | false =>
      rw [a0] at moved
      exact absurd (refused _ _ _) moved
    | true =>
      rw [a0, if_pos rfl] at moved
      rw [if_pos rfl]
      dsimp only at moved ⊢
      cases p1 : (later env 0).powered with
      | false =>
        obtain ⟨env', cut⟩ := allocates_cut (d := d) p1
        rw [bind_cut cut] at moved
        exact absurd rfl moved
      | true =>
        rw [bind_run (allocates_run p1)] at moved ⊢
        cases a1 : (later env 0).alloc with
        | false =>
          rw [a1] at moved
          exact absurd (refused _ _ _) moved
        | true =>
          rw [if_pos rfl, parsed]
          change handleRequested root (later (later env)) d = _
          have current : (reads (fun d : Device => d.settings) : Firmware Settings) (later (later env)) d =
              ⟨some d.settings, d, later (later env)⟩ := rfl
          rw [handleRequested, bind_run current, allowed, if_neg (by decide), asked]

/-- A request whose save fails leaves nothing exactly when the values it got into flash are
    harmless. -/
theorem failed_save_harmless (defaults : Defaults) (cJSONParse : CJSONParse) (store : SettingsStore) (events : List Event)
    (on : (run defaults cJSONParse store events).on = true) {req : Request} {env : ℕ → Reply} {root : Json}
    {updated : Settings} {ret : EspErr} (given : supplied cJSONParse req = some root)
    (allowed : authorized root (run defaults cJSONParse store events).device.settings = true)
    (asked : requested root (run defaults cJSONParse store events).device.settings = .ok updated)
    (saved : (settingsPostHandler cJSONParse req env (run defaults cJSONParse store events).device).world.trace =
      (run defaults cJSONParse store events).device.trace ++ [.saved ret]) (error : ret ≠ .ok) :
    LeavesNothing defaults (run defaults cJSONParse store events).device
        (settingsPostHandler cJSONParse req env (run defaults cJSONParse store events).device).world ↔
      Harmless defaults (run defaults cJSONParse store events).device.flash updated (wrote (later (later env))) := by
  have valid : Valid updated := requested_valid (run_valid store events on) asked
  have saves := settingsPostHandler_saves given allowed asked saved
  rw [saves] at saved ⊢
  obtain ⟨settings, flash⟩ := saveRequested_failed saved error
  rw [← boot_mix_iff valid, ← flash]
  constructor
  · intro nothing
    obtain ⟨s, before, after⟩ := nothing.boot
    exact (loads_iff.mp after).trans (loads_iff.mp before).symm
  · intro same
    exact ⟨settings, _, loads_iff.mpr rfl, loads_iff.mpr same⟩

/-- No request whose save has failed leaves anything. -/
def FailedSavesLeaveNothing (defaults : Defaults) (cJSONParse : CJSONParse) : Prop :=
  ∀ store events, (run defaults cJSONParse store events).on = true → ∀ req env ret,
    (settingsPostHandler cJSONParse req env (run defaults cJSONParse store events).device).world.trace =
      (run defaults cJSONParse store events).device.trace ++ [.saved ret] → ret ≠ .ok →
    LeavesNothing defaults (run defaults cJSONParse store events).device
      (settingsPostHandler cJSONParse req env (run defaults cJSONParse store events).device).world

open ResponseLimit (field quoted braces answered)

def moveRoot : Json := .obj [("adminPassword", .str "admin"), ("ssid", .str "Lab"), ("password", .str "labpass99")]

def moveText : List UInt8 :=
  Utf8Texts.encoded (braces [field "adminPassword" (quoted "admin".toList), field "ssid" (quoted "Lab".toList),
    field "password" (quoted "labpass99".toList)])

def moveParse : CJSONParse := fun payload => if payload = moveText then some (moveRoot, payload.length) else none

def moveRequest : Request := ⟨moveText.length, [moveText]⟩

def nvsFails : Reply := { answered with nvs := ⟨some ⟨.fail, by decide⟩, false⟩ }

/-- The call of that number fails, as the handler counts its calls; the ones before it reach flash. -/
def failingAt (n : ℕ) : ℕ → Reply := fun k => if k = n then nvsFails else answered

def shipped : Device := (run factory moveParse emptyStore booting).device

theorem shipped_on : (run factory moveParse emptyStore booting).on = true := by decide +kernel

theorem move_supplied : supplied moveParse moveRequest = some moveRoot := by
  have size : ¬(moveRequest.contentLen = 0 ∨ settingsBodyBytes < moveRequest.contentLen) := by decide +kernel
  have received : receive moveRequest.contentLen moveRequest.chunks [] = some moveText := by decide +kernel
  have passes : ¬(moveText = [] ∨ JsonGate.validUtf8 moveText ≠ some true ∨ JsonGate.scanFrom moveText 0 false = false) := by
    decide +kernel
  rw [supplied, if_neg size, received, Option.bind_some, chatJsonParseObject, if_neg passes, moveParse, if_pos rfl]
  dsimp only
  rw [List.drop_length]
  rfl

def moved : Settings := (requested moveRoot shipped.settings).toOption.getD .zero

theorem move_asked : requested moveRoot shipped.settings = .ok moved := by
  have fine : (requested moveRoot shipped.settings).isOk = true := by decide +kernel
  unfold moved
  cases asked : requested moveRoot shipped.settings with
  | error refusal =>
    rw [asked] at fine
    cases fine
  | ok updated => rfl

def unopened : Outcome Reply Device Handled := settingsPostHandler moveParse moveRequest (failingAt 2) shipped

theorem unopened_harmless : LeavesNothing factory shipped unopened.world := by
  have allowed : authorized moveRoot shipped.settings = true := by decide +kernel
  have saved : unopened.world.trace = shipped.trace ++ [.saved .fail] := by decide +kernel
  have valid : Valid (readBack factory shipped.flash) := stored_iff.mp (by decide +kernel)
  have none : ∀ k, wrote (later (later (failingAt 2))) k = false := by
    intro k
    cases k <;> decide +kernel
  have exact_when := @failed_save_harmless factory moveParse emptyStore booting shipped_on moveRequest (failingAt 2)
    moveRoot moved .fail move_supplied
  rw [← shipped, ← unopened] at exact_when
  refine (exact_when allowed move_asked saved (by decide)).mpr (.repeated valid ?_)
  intro k took
  rw [none k] at took
  cases took

def halfway : Outcome Reply Device Handled := settingsPostHandler moveParse moveRequest (failingAt 4) shipped

theorem shipped_name : (bootSettings factory shipped.flash).ssid.length = 7 := by decide +kernel

theorem halfway_name : (bootSettings factory halfway.world.flash).ssid.length = 3 := by decide +kernel

/-- The second set fails: the next boot has the new network name and the old password. -/
theorem network_moved : ¬FailedSavesLeaveNothing factory moveParse := by
  intro never
  have saved : halfway.world.trace = shipped.trace ++ [.saved .fail] := by decide +kernel
  have nothing := never emptyStore booting shipped_on moveRequest (failingAt 4) .fail
  rw [← shipped, ← halfway] at nothing
  obtain ⟨s, before, after⟩ := (nothing saved (by decide)).boot
  have same : bootSettings factory halfway.world.flash = bootSettings factory shipped.flash :=
    (loads_iff.mp after).trans (loads_iff.mp before).symm
  have length := halfway_name
  rw [same, shipped_name] at length
  omega

end EspWebChat.FailedSaves
