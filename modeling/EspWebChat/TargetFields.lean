import EspWebChat.Protocol
import EspWebChat.ServerSteps

set_option autoImplicit false

/-!
# Targets, visibility and the edits of a payload

`validate_to_object` leaves every member but `to` alone and only fills in what `to` lacks,
so who a message is meant for is the same before and after.
-/
namespace EspWebChat.TargetFields
open JsonTree NumberMaps CjsonPrinter ClientSlots Interruptible ServerWorld History JsonGate Protocol ServerSteps

variable {cfg : Config} {w : World cfg}

def allOf (j : Json) : Bool := isTrue (itemMember (j.member "to") "all")

def usersOf (j : Json) : List Json := ((itemMember (j.member "to") "users").map Json.items).getD []

/-- Who may see a message: its sender, everybody when it is for all, and the listed users. -/
def Entitled (message : Json) (userId : String) : Prop :=
  message.member "from" = some (.str userId) ∨ allOf message = true ∨ .str userId ∈ usersOf message

theorem isString_iff {value : String} {j : Json} : isString value j = true ↔ j = .str value := by
  cases j with
  | str s => simp [isString]
  | _ => simp [isString]

theorem containsString_iff {array : Option Json} {value : String} :
    jsonArrayContainsString array value = true ↔ .str value ∈ (array.map Json.items).getD [] := by
  cases array with
  | none => simp [jsonArrayContainsString]
  | some j =>
    cases j with
    | arr items =>
      simp only [jsonArrayContainsString, List.any_eq_true, isString_iff, Option.map_some,
        Option.getD_some, Json.items]
      constructor
      · rintro ⟨x, hx, rfl⟩
        exact hx
      · intro h
        exact ⟨_, h, rfl⟩
    | _ => simp [jsonArrayContainsString, Json.items]

theorem itemMember_of_not_object {item : Option Json} (h : isObjectItem item = false) (key : String) :
    itemMember item key = none := by
  cases item with
  | none => rfl
  | some j =>
    cases j with
    | obj ms => simp [isObjectItem, Json.isObject] at h
    | _ => rfl

theorem from_any_iff {message : Json} {userId : String} :
    (message.member "from").any (isString userId) = true ↔
      message.member "from" = some (.str userId) := by
  cases message.member "from" with
  | none => simp
  | some j => simp [isString_iff]

/-- `message_visible_to_user` decides entitlement for the users that have an id. -/
theorem messageVisibleToUser_iff {message : Json} {userId : String} :
    messageVisibleToUser message userId = true ↔
      message.isObject = true ∧ userId ≠ "" ∧ Entitled message userId := by
  unfold messageVisibleToUser Entitled allOf usersOf
  by_cases ho : message.isObject = true
  · by_cases hu : userId = ""
    · simp [hu]
    · by_cases hf : message.member "from" = some (.str userId)
      · have hany := from_any_iff.mpr hf
        simp [ho, hu, hf, isString]
      · have hany : (message.member "from").any (isString userId) = false :=
          Bool.eq_false_iff.mpr (fun h => hf (from_any_iff.mp h))
        by_cases hobj : isObjectItem (message.member "to") = true
        · by_cases hall : isTrue (itemMember (message.member "to") "all") = true
          · simp [ho, hu, hany, hobj, hall]
          · simp [ho, hu, hf, hany, hobj, hall, containsString_iff]
        · have hno := itemMember_of_not_object (Bool.eq_false_iff.mpr hobj)
          simp [ho, hu, hf, hany, hobj, hno, Protocol.isTrue]
  · simp [ho]

/-! A printed payload is meant for the same users. -/

section printed
variable (p : Printer) (j : Json)

theorem printed_is_true (item : Option Json) : isTrue (item.map p.printed) = isTrue item := by
  cases item with
  | none => rfl
  | some value =>
    cases value with
    | num n => exact p.numeric.cases (P := fun v => isTrue (some v) = false) n rfl (fun _ => rfl)
    | null | bool | str | cut | arr | obj => rfl

theorem printed_item_member (item : Option Json) (key : String) :
    itemMember (item.map p.printed) key = (itemMember item key).map p.printed := by
  cases item with
  | none => rfl
  | some value => exact p.printed_member value key

theorem allOf_printed : allOf (p.printed j) = allOf j := by
  unfold allOf
  rw [p.printed_member, printed_item_member, printed_is_true]

theorem usersOf_printed : usersOf (p.printed j) = (usersOf j).map p.printed := by
  unfold usersOf
  rw [p.printed_member, printed_item_member]
  cases itemMember (j.member "to") "users" with
  | none => rfl
  | some users => exact mapNumbers_items p.numeric users

theorem listed_printed {userId : String} : .str userId ∈ usersOf (p.printed j) ↔ .str userId ∈ usersOf j := by
  rw [usersOf_printed]
  constructor
  · intro listed
    obtain ⟨user, mem, same⟩ := List.mem_map.mp listed
    rw [← (mapNumbers_eq_str p.numeric).mp same]
    exact mem
  · intro listed
    exact List.mem_map.mpr ⟨_, listed, rfl⟩

theorem entitled_printed (userId : String) : Entitled (p.printed j) userId ↔ Entitled j userId := by
  unfold Entitled
  rw [p.printed_member, p.printed_text, allOf_printed, listed_printed]

theorem jsonStringInRange_printed (item : Option Json) (maxLen : ℕ) (allowEmpty : Bool) :
    jsonStringInRange (item.map p.printed) maxLen allowEmpty = jsonStringInRange item maxLen allowEmpty := by
  cases item with
  | none => rfl
  | some value =>
    cases value with
    | num n =>
      exact p.numeric.cases (P := fun v => jsonStringInRange (some v) maxLen allowEmpty = false) n rfl (fun _ => rfl)
    | null | bool | str | cut | arr | obj => rfl

theorem usersOf_printed_texts {j : Json} (texts : ∀ user ∈ usersOf j, ∃ s, user = .str s) :
    usersOf (p.printed j) = usersOf j := by
  rw [usersOf_printed]
  refine (List.map_congr_left (g := id) ?_).trans (List.map_id _)
  intro user mem
  obtain ⟨s, rfl⟩ := texts user mem
  rfl

end printed

structure Found (object : Json) (key : String) (default v : Json) (object' : Json) : Prop where
  value : v = (object.member key).getD default
  self : object'.member key = some v
  others : ∀ k, k ≠ key → object'.member k = object.member k
  unique : UniqueKeys object.members → UniqueKeys object'.members
  isObject : object'.isObject = true

theorem append_isObject (j : Json) (key : String) (v : Json) : (j.append key v).isObject = j.isObject := by
  cases j <;> rfl

theorem set_isObject (j : Json) (key : String) (v : Json) : (j.set key v).isObject = j.isObject := by
  cases j <;> rfl

theorem delete_isObject (j : Json) (key : String) : (j.delete key).isObject = j.isObject := by
  cases j <;> rfl

theorem memberOrDefault_spec {Step : World cfg → World cfg → Prop} {object : Json} (key : String)
    (default : Json) (ho : object.isObject = true) :
    Traces Step (memberOrDefault object key default : Server cfg _) w (fun found u => u = w ∧
      ∀ r, found = some r → Found object key default r.1 r.2) := by
  unfold memberOrDefault
  cases hm : object.member key with
  | some v =>
    refine .pure ⟨rfl, ?_⟩
    rintro r hr
    cases hr
    exact ⟨by rw [hm]; rfl, hm, fun _ _ => rfl, fun h => h, ho⟩
  | none =>
    refine allocates_spec.bind ?_
    rintro added u - rfl
    refine .pure ⟨rfl, ?_⟩
    rintro r hr
    split_ifs at hr
    cases hr
    exact ⟨by rw [hm]; rfl, member_append_self _ _ ho hm, fun _ hk => member_append_ne _ _ hk,
      fun h => members_append_unique _ _ h hm, by rw [append_isObject]; exact ho⟩

/-- `root'` is `root` with nothing but defaults added to its target. -/
structure Filled (root root' : Json) : Prop where
  others : ∀ k, k ≠ "to" → root'.member k = root.member k
  unique : UniqueKeys root.members → UniqueKeys root'.members
  isObject : root'.isObject = true
  all : allOf root' = allOf root
  users : usersOf root' = usersOf root

theorem filled_self {root : Json} (ho : root.isObject = true) : Filled root root :=
  ⟨fun _ _ => rfl, fun h => h, ho, rfl, rfl⟩

theorem filled_set {root root₁ target target' : Json} (found : Found root "to" (.obj []) target root₁)
    (all : isTrue (target'.member "all") = isTrue (target.member "all"))
    (users : ((target'.member "users").map Json.items).getD [] =
      ((target.member "users").map Json.items).getD []) :
    Filled root (root₁.set "to" target') := by
  have read : ∀ key, itemMember (some target) key = target.member key := fun _ => rfl
  have same : ∀ key, itemMember (root.member "to") key = target.member key ∨
      (itemMember (root.member "to") key = none ∧ target.member key = none) := by
    intro key
    rw [found.value]
    cases root.member "to" with
    | none => exact .inr ⟨rfl, rfl⟩
    | some t => exact .inl rfl
  have self : (root₁.set "to" target').member "to" = some target' :=
    member_set_self _ _ found.isObject
  refine ⟨?_, fun h => members_set_unique _ _ (found.unique h), ?_, ?_, ?_⟩
  · intro k hk
    rw [member_set_ne _ _ hk, found.others k hk]
  · rw [set_isObject]
    exact found.isObject
  · unfold allOf
    rw [self]
    change isTrue (target'.member "all") = _
    rw [all]
    rcases same "all" with h | ⟨h, h'⟩
    · rw [h]
    · rw [h, h']
  · unfold usersOf
    rw [self]
    change ((target'.member "users").map Json.items).getD [] = _
    rw [users]
    rcases same "users" with h | ⟨h, h'⟩
    · rw [h]
    · rw [h, h']

theorem filled_found {root root₁ target : Json} (found : Found root "to" (.obj []) target root₁) :
    Filled root root₁ := by
  refine ⟨found.others, found.unique, found.isObject, ?_, ?_⟩
  · unfold allOf
    rw [found.self, found.value]
    cases root.member "to" <;> rfl
  · unfold usersOf
    rw [found.self, found.value]
    cases root.member "to" <;> rfl

/-- What a valid target is after the defaults are in. -/
structure ValidTarget (cfg : Config) (root : Json) : Prop where
  object : ∃ target, root.member "to" = some target ∧ target.isObject = true
  someone : allOf root = true ∨ usersOf root ≠ []
  count : (usersOf root).length ≤ cfg.maxClients + 1
  ids : ∀ user ∈ usersOf root, ∃ s, user = .str s ∧ s ≠ "" ∧ strlen s ≤ maxUserIdLen
  array : ∃ users, itemMember (root.member "to") "users" = some users ∧ users.isArray = true

theorem validTargets_iff {users : Json} : validTargets cfg users = true ↔
    users.isArray = true ∧ users.items.length ≤ cfg.maxClients + 1 ∧
      ∀ user ∈ users.items, ∃ s, user = .str s ∧ s ≠ "" ∧ strlen s ≤ maxUserIdLen := by
  simp only [validTargets, Bool.and_eq_true, decide_eq_true_eq, List.all_eq_true, and_assoc]
  refine and_congr_right (fun _ => and_congr_right (fun _ => forall₂_congr (fun user _ => ?_)))
  rw [jsonStringInRange_iff]
  constructor
  · rintro ⟨s, hs⟩
    obtain ⟨he, hl, hne⟩ := stringInRange_eq_some hs
    exact ⟨s, Option.some.inj he, hne rfl, hl⟩
  · rintro ⟨s, rfl, hne, hl⟩
    exact ⟨s, by simp [stringInRange, hne, hl]⟩

theorem validateToObject_spec {Step : World cfg → World cfg → Prop} {root : Json}
    (ho : root.isObject = true) :
    Traces Step (validateToObject root : Server cfg _) w (fun r u => u = w ∧ Filled root r.2 ∧
      (r.1 = true → ValidTarget cfg r.2)) := by
  refine (memberOrDefault_spec "to" (.obj []) ho).bind ?_
  rintro found u - ⟨rfl, hfound⟩
  cases found with
  | none => exact .pure ⟨rfl, filled_self ho, by simp⟩
  | some r =>
    obtain ⟨target, root₁⟩ := r
    have fto : Found root "to" (.obj []) target root₁ := hfound _ rfl
    refine .ite (fun _ => .pure ⟨rfl, filled_found fto, by simp⟩) (fun hobj => ?_)
    have htarget : target.isObject = true := by simpa using hobj
    refine (memberOrDefault_spec "all" (.bool false) htarget).bind ?_
    rintro found u - ⟨rfl, hfound⟩
    cases found with
    | none => exact .pure ⟨rfl, filled_found fto, by simp⟩
    | some r =>
      obtain ⟨all, target₁⟩ := r
      have fall : Found target "all" (.bool false) all target₁ := hfound _ rfl
      have hall : isTrue (target₁.member "all") = isTrue (target.member "all") := by
        rw [fall.self, fall.value]
        cases target.member "all" <;> rfl
      have husers : target₁.member "users" = target.member "users" := fall.others _ (by decide)
      refine .ite (fun _ => .pure ⟨rfl, filled_set fto hall (by rw [husers]), by simp⟩) (fun _ => ?_)
      refine (memberOrDefault_spec "users" (.arr []) fall.isObject).bind ?_
      rintro found u - ⟨rfl, hfound⟩
      cases found with
      | none => exact .pure ⟨rfl, filled_set fto hall (by rw [husers]), by simp⟩
      | some r =>
        obtain ⟨users, target₂⟩ := r
        have fusers : Found target₁ "users" (.arr []) users target₂ := hfound _ rfl
        have hall₂ : isTrue (target₂.member "all") = isTrue (target.member "all") := by
          rw [fusers.others _ (by decide), hall]
        have husers₂ : ((target₂.member "users").map Json.items).getD [] =
            ((target.member "users").map Json.items).getD [] := by
          rw [fusers.self, fusers.value, husers]
          cases target.member "users" <;> rfl
        have filled := filled_set fto hall₂ husers₂
        refine .ite (fun _ => .pure ⟨rfl, filled, by simp⟩) (fun hvalid => ?_)
        refine .pure ⟨rfl, filled, ?_⟩
        intro hsome
        have self : (root₁.set "to" target₂).member "to" = some target₂ :=
          member_set_self _ _ fto.isObject
        have hu : usersOf (root₁.set "to" target₂) = users.items := by
          unfold usersOf
          rw [self]
          change ((target₂.member "users").map Json.items).getD [] = _
          rw [fusers.self]
          rfl
        have ha : allOf (root₁.set "to" target₂) = isTrue (some all) := by
          unfold allOf
          rw [self]
          change isTrue (target₂.member "all") = _
          rw [fusers.others _ (by decide), fall.self]
        obtain ⟨harr, hlen, hids⟩ := validTargets_iff.mp (by simpa using hvalid)
        refine ⟨⟨target₂, self, fusers.isObject⟩, ?_, by rw [hu]; exact hlen, by rw [hu]; exact hids, ?_⟩
        · rw [ha, hu]
          simpa using hsome
        · exact ⟨users, by rw [self]; exact fusers.self, harr⟩

theorem safeInteger_iff {low : ℚ} (nonneg : 0 ≤ low) {number : Number} {id : ℕ} :
    safeInteger low number = some id ↔ number = .fin id ∧ low ≤ id ∧ id ≤ chatMessageMaxSafeId := by
  cases number with
  | nan => simp [safeInteger]
  | inf => simp [safeInteger]
  | fin q =>
    constructor
    · intro safe
      simp only [safeInteger] at safe
      split_ifs at safe with bounds
      obtain rfl : q.num.toNat = id := Option.some.inj safe
      obtain ⟨least, high, whole⟩ := bounds
      have positive : 0 ≤ q.num := Rat.num_nonneg.mpr (nonneg.trans least)
      have same : ((q.num.toNat : ℕ) : ℚ) = q := by
        rw [← Rat.coe_int_num_of_den_eq_one whole]
        exact_mod_cast Int.toNat_of_nonneg positive
      rw [same]
      refine ⟨rfl, least, ?_⟩
      rw [← same] at high
      exact_mod_cast high
    · rintro ⟨same, least, high⟩
      obtain rfl := Number.fin.inj same
      have bounds : low ≤ (id : ℚ) ∧ (id : ℚ) ≤ (chatMessageMaxSafeId : ℚ) ∧ (id : ℚ).den = 1 :=
        ⟨least, by exact_mod_cast high, Rat.den_natCast id⟩
      simp only [safeInteger, if_pos bounds]
      rw [Rat.num_natCast, Int.toNat_natCast]

theorem jsonSafeMessageId_iff {item : Option Json} {id : ℕ} :
    jsonSafeMessageId item = some id ↔ item = some (natJson id) ∧ 0 < id ∧ id ≤ chatMessageMaxSafeId := by
  have number : ∀ n, safeInteger 1 n = some id ↔ n = .fin id ∧ 0 < id ∧ id ≤ chatMessageMaxSafeId := by
    intro n
    rw [safeInteger_iff (by decide)]
    exact and_congr_right (fun _ => and_congr_left (fun _ => by exact_mod_cast Nat.succ_le_iff))
  unfold jsonSafeMessageId natJson
  cases item with
  | none => simp [numberValue]
  | some value =>
    cases value with
    | num n => simp [numberValue, number]
    | null | bool | str | cut | arr | obj => simp [numberValue]

theorem printed_id (p : Printer) {message : Json} {id : ℕ} (h : jsonSafeMessageId (message.member "id") = some id) :
    (p.printed message).member "id" = some (.num (p.read id)) := by
  rw [p.printed_member, (jsonSafeMessageId_iff.mp h).1]
  rfl

theorem printed_id_kept (p : Printer) {message : Json} {id : ℕ} (h : jsonSafeMessageId (message.member "id") = some id) :
    jsonSafeMessageId ((p.printed message).member "id") = some id ↔ p.Keeps id := by
  rw [printed_id p h, jsonSafeMessageId_iff]
  unfold Printer.Keeps natJson
  rw [Option.some.injEq, Json.num.injEq]
  exact and_iff_left (jsonSafeMessageId_iff.mp h).2

theorem member_finalized {root : Json} {id : ℕ} {timestamp : ℤ} {key : String} (hid : key ≠ "id")
    (hts : key ≠ "timestamp") : (finalized root id timestamp).member key = root.member key := by
  rw [finalized, member_append_ne _ _ hts, member_append_ne _ _ hid, member_delete_ne _ hts,
    member_delete_ne _ hid]

theorem finalized_unique {root : Json} {id : ℕ} {timestamp : ℤ} (unique : UniqueKeys root.members) :
    UniqueKeys (finalized root id timestamp).members := by
  have h₁ : UniqueKeys (root.delete "id").members := members_delete_unique _ unique
  have h₂ : UniqueKeys ((root.delete "id").delete "timestamp").members := members_delete_unique _ h₁
  have no_id : ((root.delete "id").delete "timestamp").member "id" = none := by
    rw [member_delete_ne _ (by decide), member_delete_self _ unique]
  have h₃ := members_append_unique _ (natJson id) h₂ no_id
  refine members_append_unique _ _ h₃ ?_
  rw [member_append_ne _ _ (by decide), member_delete_self _ h₁]

end EspWebChat.TargetFields
