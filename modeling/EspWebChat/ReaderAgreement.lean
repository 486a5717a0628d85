import EspWebChat.GateLanguage

set_option autoImplicit false

/-!
# One tree, two readers

cJSON walks the members of an object and stops at the first match. `JSON.parse` lets a later
member of the same name take the place of an earlier one. The trees on which the two never
select different members are those in which `json_has_duplicate_keys` finds nothing.
-/
namespace EspWebChat.ReaderAgreement
open JsonTree JsonGate JsonGrammar GateLanguage

/-- The loop of `cJSON_GetObjectItemCaseSensitive`: the position at which it stops. -/
def firstMatch (key : String) : Members → Option ℕ
  | [] => none
  | m :: ms => if m.1 = key then some 0 else (firstMatch key ms).map Nat.succ

/-- The position of the member that no later one replaces. -/
def lastMatch (key : String) : Members → Option ℕ
  | [] => none
  | m :: ms => ((lastMatch key ms).map Nat.succ).or (if m.1 = key then some 0 else none)

def memberAt (ms : Members) (i : ℕ) : Option Json := ms[i]?.map Prod.snd

section members
variable {ms : Members} {m : String × Json} {key : String}

theorem firstMatch_eq_none (h : key ∉ ms.map Prod.fst) : firstMatch key ms = none := by
  induction ms with
  | nil => rfl
  | cons m ms ih =>
    rw [List.map_cons, List.mem_cons, not_or] at h
    rw [firstMatch, if_neg (Ne.symm h.1), ih h.2]
    rfl

theorem lastMatch_eq_none : lastMatch key ms = none ↔ key ∉ ms.map Prod.fst := by
  induction ms with
  | nil => simp [lastMatch]
  | cons m ms ih =>
    rw [lastMatch, Option.or_eq_none_iff, Option.map_eq_none_iff, ih]
    by_cases same : m.1 = key
    · simp [same]
    · simp [same, Ne.symm same]

theorem member_firstMatch : ms.lookup key = (firstMatch key ms).bind (memberAt ms) := by
  induction ms with
  | nil => rfl
  | cons m ms ih =>
    rw [lookup_cons, firstMatch]
    by_cases same : m.1 = key
    · rw [if_pos same, if_pos same.symm]
      rfl
    · rw [if_neg same, if_neg (Ne.symm same), ih]
      cases firstMatch key ms <;> rfl

theorem member_lastMatch : ms.reverse.lookup key = (lastMatch key ms).bind (memberAt ms) := by
  induction ms with
  | nil => rfl
  | cons m ms ih =>
    rw [List.reverse_cons, List.lookup_append, ih, lastMatch]
    cases h : lastMatch key ms with
    | some i =>
      have inside : i < ms.length := by
        by_contra far
        have absent : key ∈ ms.map Prod.fst := by
          by_contra out
          rw [lastMatch_eq_none.mpr out] at h
          cases h
        have missing : ms.reverse.lookup key = none := by
          rw [ih, h]
          simp [memberAt, Nat.not_lt.mp far]
        rw [lookup_eq_none_iff] at missing
        exact missing (by simpa using absent)
      simp [memberAt, inside]
    | none =>
      by_cases same : m.1 = key
      · simp [same, memberAt, lookup_cons]
      · simp [same, Ne.symm same, lookup_cons]

/-- The two loops stop at the same member for every key exactly when no key repeats. -/
theorem unique_iff_matches : UniqueKeys ms ↔ ∀ key, firstMatch key ms = lastMatch key ms := by
  induction ms with
  | nil => simp [UniqueKeys, firstMatch, lastMatch]
  | cons m ms ih =>
    unfold UniqueKeys at ih ⊢
    rw [List.map_cons, List.nodup_cons, ih]
    constructor
    · intro h key
      rw [firstMatch, lastMatch]
      by_cases same : m.1 = key
      · rw [if_pos same, if_pos same, lastMatch_eq_none.mpr (same ▸ h.1)]
        rfl
      · rw [if_neg same, if_neg same, Option.or_none, h.2 key]
    · intro h
      have fresh : m.1 ∉ ms.map Prod.fst := by
        have head := h m.1
        rw [firstMatch, lastMatch, if_pos rfl, if_pos rfl] at head
        rw [← lastMatch_eq_none]
        cases later : lastMatch m.1 ms with
        | none => rfl
        | some i => simp [later] at head
      refine ⟨fresh, fun key => ?_⟩
      by_cases same : m.1 = key
      · rw [← same, firstMatch_eq_none fresh, lastMatch_eq_none.mpr fresh]
      · have tail := h key
        rw [firstMatch, lastMatch, if_neg same, if_neg same, Option.or_none] at tail
        exact Option.map_injective Nat.succ_injective tail

theorem lookups_agree (h : firstMatch key ms = lastMatch key ms) : ms.reverse.lookup key = ms.lookup key := by
  rw [member_lastMatch, member_firstMatch, h]

end members

/-- `inner` is the second tree or lies in it, below members and items. -/
inductive Within (inner : Json) : Json → Prop where
  | here : Within inner inner
  | member {ms : Members} {key : String} {child : Json} :
      (key, child) ∈ ms → Within inner child → Within inner (.obj ms)
  | item {items : List Json} {child : Json} : child ∈ items → Within inner child → Within inner (.arr items)

theorem distinct_of_member {ms : Members} {key : String} {child : Json} (h : MembersDistinct ms)
    (inside : (key, child) ∈ ms) : DistinctKeys child := by
  induction ms with
  | nil => cases inside
  | cons m ms ih =>
    cases inside with
    | head => exact h.1
    | tail _ rest => exact ih h.2 rest

theorem distinct_of_item {items : List Json} {child : Json} (h : ItemsDistinct items) (inside : child ∈ items) :
    DistinctKeys child := by
  induction items with
  | nil => cases inside
  | cons item items ih =>
    cases inside with
    | head => exact h.1
    | tail _ rest => exact ih h.2 rest

theorem distinct_within {inner outer : Json} (w : Within inner outer) (h : DistinctKeys outer) :
    DistinctKeys inner := by
  induction w with
  | here => exact h
  | member inside _ ih => exact ih (distinct_of_member h.2 inside)
  | item inside _ ih => exact ih (distinct_of_item h inside)

mutual
theorem distinct_of_unique : ∀ j : Json, (∀ ms, Within (.obj ms) j → UniqueKeys ms) → DistinctKeys j
  | .obj ms, h => ⟨h ms .here, members_distinct ms fun _ _ inside _ w => h _ (.member inside w)⟩
  | .arr items, h => items_distinct items fun _ inside _ w => h _ (.item inside w)
  | .null, _ => trivial
  | .bool _, _ => trivial
  | .num _, _ => trivial
  | .str _, _ => trivial
  | .cut _, _ => trivial
theorem items_distinct : ∀ items : List Json,
    (∀ child ∈ items, ∀ ms, Within (.obj ms) child → UniqueKeys ms) → ItemsDistinct items
  | [], _ => trivial
  | item :: items, h => ⟨distinct_of_unique item (h item List.mem_cons_self),
      items_distinct items fun child inside => h child (List.mem_cons_of_mem _ inside)⟩
theorem members_distinct : ∀ ms : List (String × Json),
    (∀ key child, (key, child) ∈ ms → ∀ inner, Within (.obj inner) child → UniqueKeys inner) → MembersDistinct ms
  | [], _ => trivial
  | (key, child) :: ms, h => ⟨distinct_of_unique child (h key child List.mem_cons_self),
      members_distinct ms fun other below inside => h other below (List.mem_cons_of_mem _ inside)⟩
end

theorem distinct_iff_unique (j : Json) : DistinctKeys j ↔ ∀ ms, Within (.obj ms) j → UniqueKeys ms :=
  ⟨fun h _ w => (distinct_within w h).1, distinct_of_unique j⟩

inductive Step where
  | key (name : String)
  | index (i : ℕ)
  deriving DecidableEq, Repr

/-- What a reader finds who looks members up with `find`. -/
def reading (find : Json → String → Option Json) : List Step → Json → Option Json
  | [], j => some j
  | .key name :: path, j => (find j name).bind (reading find path)
  | .index i :: path, j => j.items[i]?.bind (reading find path)

theorem member_distinct {j child : Json} {key : String} (h : DistinctKeys j) (found : j.member key = some child) :
    DistinctKeys child := by
  cases j with
  | obj ms => exact distinct_of_member h.2 (mem_of_lookup found)
  | _ => cases found

theorem item_distinct {j child : Json} {i : ℕ} (h : DistinctKeys j) (found : j.items[i]? = some child) :
    DistinctKeys child := by
  cases j with
  | arr items => exact distinct_of_item h (List.mem_of_getElem? found)
  | _ => cases found

theorem lastMember_of_distinct {j : Json} (h : DistinctKeys j) (key : String) : j.lastMember key = j.member key := by
  cases j with
  | obj ms => exact lookups_agree (unique_iff_matches.mp h.1 key)
  | _ => rfl

theorem reading_distinct {j : Json} (h : DistinctKeys j) (path : List Step) :
    reading Json.lastMember path j = reading Json.member path j := by
  induction path generalizing j with
  | nil => rfl
  | cons step path ih =>
    cases step with
    | key name =>
      rw [reading, reading, lastMember_of_distinct h]
      cases found : j.member name with
      | none => rfl
      | some child => exact ih (member_distinct h found)
    | index i =>
      rw [reading, reading]
      cases found : j.items[i]? with
      | none => rfl
      | some child => exact ih (item_distinct h found)

mutual
/-- The value that `JSON.parse` builds from the text of a tree: a member of a name that the
    object has already gives the old property a new value. -/
def jsonParse : Json → Json
  | .arr items => .arr (parsedItems items)
  | .obj ms => .obj (parsedMembers ms [])
  | j => j
def parsedItems : List Json → List Json
  | [] => []
  | item :: items => jsonParse item :: parsedItems items
def parsedMembers : List (String × Json) → Members → Members
  | [], object => object
  | (key, child) :: rest, object => parsedMembers rest (setKey key (jsonParse child) object)
end

theorem parsedItems_getElem (items : List Json) (i : ℕ) : (parsedItems items)[i]? = items[i]?.map jsonParse := by
  induction items generalizing i with
  | nil => rfl
  | cons item items ih =>
    cases i with
    | zero => rfl
    | succ i => exact ih i

theorem parsedMembers_lookup (ms object : Members) (key : String) :
    (parsedMembers ms object).lookup key = ((ms.reverse.lookup key).map jsonParse).or (object.lookup key) := by
  induction ms generalizing object with
  | nil => rfl
  | cons m ms ih =>
    rw [parsedMembers, ih, List.reverse_cons, List.lookup_append, lookup_cons]
    by_cases same : key = m.1
    · subst same
      rw [lookup_setKey_self, if_pos rfl]
      cases ms.reverse.lookup m.1 <;> rfl
    · rw [lookup_setKey_ne same, if_neg same]
      cases ms.reverse.lookup key <;> rfl

theorem jsonParse_member (j : Json) (key : String) : (jsonParse j).member key = (j.lastMember key).map jsonParse := by
  cases j with
  | obj ms =>
    change (parsedMembers ms []).lookup key = (ms.reverse.lookup key).map jsonParse
    rw [parsedMembers_lookup]
    exact Option.or_none
  | _ => rfl

theorem jsonParse_items (j : Json) (i : ℕ) : (jsonParse j).items[i]? = j.items[i]?.map jsonParse := by
  cases j with
  | arr items => exact parsedItems_getElem items i
  | _ => rfl

theorem jsonParse_reading (j : Json) (path : List Step) :
    reading Json.member path (jsonParse j) = (reading Json.lastMember path j).map jsonParse := by
  induction path generalizing j with
  | nil => rfl
  | cons step path ih =>
    cases step with
    | key name =>
      rw [reading, reading, jsonParse_member]
      cases j.lastMember name with
      | none => rfl
      | some child => exact ih child
    | index i =>
      rw [reading, reading, jsonParse_items]
      cases j.items[i]? with
      | none => rfl
      | some child => exact ih child

theorem setKey_fresh {ms : Members} {key : String} {v : Json} (h : key ∉ ms.map Prod.fst) :
    setKey key v ms = ms ++ [(key, v)] := by
  induction ms with
  | nil => rfl
  | cons m ms ih =>
    rw [List.map_cons, List.mem_cons, not_or] at h
    rw [setKey, if_neg (Ne.symm h.1), ih h.2]
    rfl

mutual
theorem jsonParse_distinct : ∀ j : Json, DistinctKeys j → jsonParse j = j
  | .obj ms, h => congrArg Json.obj (parsedMembers_distinct ms [] h.1 h.2)
  | .arr items, h => congrArg Json.arr (parsedItems_distinct items h)
  | .null, _ => rfl
  | .bool _, _ => rfl
  | .num _, _ => rfl
  | .str _, _ => rfl
  | .cut _, _ => rfl
theorem parsedItems_distinct : ∀ items : List Json, ItemsDistinct items → parsedItems items = items
  | [], _ => rfl
  | item :: items, h => by
    rw [parsedItems, jsonParse_distinct item h.1, parsedItems_distinct items h.2]
theorem parsedMembers_distinct : ∀ ms object : List (String × Json), UniqueKeys (object ++ ms) →
    MembersDistinct ms → parsedMembers ms object = object ++ ms
  | [], object, _, _ => (List.append_nil object).symm
  | (key, child) :: ms, object, unique, h => by
    have fresh : key ∉ object.map Prod.fst := by
      intro used
      rw [UniqueKeys, List.map_append, List.nodup_append] at unique
      exact unique.2.2 key used key List.mem_cons_self rfl
    have next : object ++ [(key, child)] ++ ms = object ++ (key, child) :: ms := List.append_assoc _ _ _
    rw [parsedMembers, jsonParse_distinct child h.1, setKey_fresh fresh,
      parsedMembers_distinct ms _ (next ▸ unique) h.2, next]
end

/-- `json_has_duplicate_keys` is false exactly when in every object of the tree the two lookups
    select the same member for every key. `JSON.parse` keeps the last member at every depth, and
    of a payload that the gate admits any nested field is the same value for both readers. -/
theorem readers_agree (root : Json) :
    (jsonHasDuplicateKeys root = false ↔
      ∀ ms, Within (.obj ms) root → ∀ key, firstMatch key ms = lastMatch key ms) ∧
    (∀ path, reading Json.member path (jsonParse root) = (reading Json.lastMember path root).map jsonParse) ∧
    ∀ (cJSONParse : CJSONParse) (payload : List UInt8), chatJsonParseObject cJSONParse payload = some root →
      ∀ path, reading Json.lastMember path root = reading Json.member path root ∧
        reading Json.member path (jsonParse root) = reading Json.member path root := by
  refine ⟨?_, jsonParse_reading root, ?_⟩
  · rw [duplicates_iff, distinct_iff_unique]
    exact forall₂_congr fun _ _ => unique_iff_matches
  · intro cJSONParse payload admitted path
    have distinct := (duplicates_iff root).mp (chatJsonParseObject_spec admitted).2.2
    exact ⟨reading_distinct distinct path, by rw [jsonParse_distinct root distinct]⟩

def nested : Json := .obj [("to", .obj [("ids", .arr [.str "ann"])])]

def nestedText : List UInt8 := bytesOf "\x7b\"to\":\x7b\"ids\":[\"ann\"]\x7d\x7d"

theorem nested_agrees :
    reading Json.member [.key "to", .key "ids", .index 0] nested = some (.str "ann") ∧
      reading Json.member [.key "to", .key "ids", .index 0] (jsonParse nested) = some (.str "ann") := by
  have passes : ¬(nestedText = [] ∨ validUtf8 nestedText ≠ some true ∨ scanFrom nestedText 0 false = false) := by
    decide +kernel
  have admitted : chatJsonParseObject (fun _ => some (nested, nestedText.length)) nestedText = some nested := by
    rw [chatJsonParseObject, if_neg passes]
    dsimp only
    rw [List.drop_length]
    rfl
  exact ⟨rfl, ((readers_agree nested).2.2 _ _ admitted [.key "to", .key "ids", .index 0]).2⟩

end EspWebChat.ReaderAgreement
