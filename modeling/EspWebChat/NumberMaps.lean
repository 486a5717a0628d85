import EspWebChat.JsonTree

set_option autoImplicit false

/-!
# Trees with other numbers

A writer of JSON and the reader of its text agree on everything but numbers. What they make of a
tree is the tree with each number replaced.
-/
namespace EspWebChat.NumberMaps
open JsonTree

mutual
def mapNumbers (f : Number → Json) : Json → Json
  | .num n => f n
  | .arr items => .arr (mapItems f items)
  | .obj ms => .obj (mapMembers f ms)
  | j => j
def mapItems (f : Number → Json) : List Json → List Json
  | [] => []
  | j :: js => mapNumbers f j :: mapItems f js
def mapMembers (f : Number → Json) : List (String × Json) → List (String × Json)
  | [] => []
  | (key, j) :: ms => (key, mapNumbers f j) :: mapMembers f ms
end

/-- A number stays a number or is dropped. -/
def Numeric (f : Number → Json) : Prop := ∀ n, f n = .null ∨ ∃ k, f n = .num k

variable {f : Number → Json} {j : Json}

@[elab_as_elim] theorem Numeric.cases {P : Json → Prop} (numeric : Numeric f) (n : Number) (null : P .null)
    (num : ∀ k, P (.num k)) : P (f n) := by
  rcases numeric n with e | ⟨k, e⟩
  · rw [e]
    exact null
  · rw [e]
    exact num k

theorem mapItems_eq (f : Number → Json) (items : List Json) : mapItems f items = items.map (mapNumbers f) := by
  induction items with
  | nil => rfl
  | cons j js ih => rw [mapItems, ih, List.map_cons]

theorem mapMembers_eq (f : Number → Json) (ms : Members) :
    mapMembers f ms = ms.map (fun m => (m.1, mapNumbers f m.2)) := by
  induction ms with
  | nil => rfl
  | cons m ms ih => rw [mapMembers, ih, List.map_cons]

mutual
theorem mapNumbers_twice (once : ∀ n, mapNumbers f (f n) = f n) : ∀ j : Json,
    mapNumbers f (mapNumbers f j) = mapNumbers f j
  | .null => rfl
  | .bool _ => rfl
  | .str _ => rfl
  | .cut _ => rfl
  | .num n => once n
  | .arr items => by
    rw [mapNumbers, mapNumbers, mapItems_twice once items]
  | .obj ms => by
    rw [mapNumbers, mapNumbers, mapMembers_twice once ms]
theorem mapItems_twice (once : ∀ n, mapNumbers f (f n) = f n) : ∀ items : List Json,
    mapItems f (mapItems f items) = mapItems f items
  | [] => rfl
  | j :: js => by
    rw [mapItems, mapItems, mapNumbers_twice once j, mapItems_twice once js]
theorem mapMembers_twice (once : ∀ n, mapNumbers f (f n) = f n) : ∀ ms : List (String × Json),
    mapMembers f (mapMembers f ms) = mapMembers f ms
  | [] => rfl
  | (key, j) :: ms => by
    rw [mapMembers, mapMembers, mapNumbers_twice once j, mapMembers_twice once ms]
end

theorem mapNumbers_members (numeric : Numeric f) (j : Json) :
    (mapNumbers f j).members = j.members.map (fun m => (m.1, mapNumbers f m.2)) := by
  cases j with
  | num n =>
    rw [mapNumbers]
    exact numeric.cases n rfl (fun _ => rfl)
  | obj ms =>
    rw [mapNumbers]
    exact mapMembers_eq f ms
  | null | bool | str | cut | arr => rfl

theorem mapNumbers_items (numeric : Numeric f) (j : Json) : (mapNumbers f j).items = j.items.map (mapNumbers f) := by
  cases j with
  | num n =>
    rw [mapNumbers]
    exact numeric.cases n rfl (fun _ => rfl)
  | arr items =>
    rw [mapNumbers]
    exact mapItems_eq f items
  | null | bool | str | cut | obj => rfl

theorem mapNumbers_isObject (numeric : Numeric f) (j : Json) : (mapNumbers f j).isObject = j.isObject := by
  cases j with
  | num n =>
    rw [mapNumbers]
    exact numeric.cases n rfl (fun _ => rfl)
  | null | bool | str | cut | arr | obj => rfl

theorem lookup_mapped (ms : Members) (key : String) :
    (ms.map (fun m => (m.1, mapNumbers f m.2))).lookup key = (ms.lookup key).map (mapNumbers f) := by
  induction ms with
  | nil => rfl
  | cons m ms ih =>
    rw [List.map_cons, lookup_cons, lookup_cons, ih]
    split_ifs
    · rfl
    · rfl

theorem member_mapNumbers (numeric : Numeric f) (j : Json) (key : String) :
    (mapNumbers f j).member key = (j.member key).map (mapNumbers f) := by
  unfold Json.member
  rw [mapNumbers_members numeric, lookup_mapped]

theorem lastMember_mapNumbers (numeric : Numeric f) (j : Json) (key : String) :
    (mapNumbers f j).lastMember key = (j.lastMember key).map (mapNumbers f) := by
  unfold Json.lastMember
  rw [mapNumbers_members numeric, ← List.map_reverse, lookup_mapped]

theorem uniqueKeys_mapNumbers (numeric : Numeric f) (unique : UniqueKeys j.members) :
    UniqueKeys (mapNumbers f j).members := by
  unfold UniqueKeys
  rw [mapNumbers_members numeric, List.map_map]
  exact unique

/-- A string comes from that string. -/
theorem mapNumbers_eq_str (numeric : Numeric f) {s : String} : mapNumbers f j = .str s ↔ j = .str s := by
  cases j with
  | num n =>
    rw [mapNumbers]
    exact numeric.cases n (by simp) (fun _ => by simp)
  | null | bool | str | cut | arr | obj => simp [mapNumbers]

theorem mapped_eq_str (numeric : Numeric f) {o : Option Json} {s : String} :
    o.map (mapNumbers f) = some (.str s) ↔ o = some (.str s) := by
  rw [Option.map_eq_some_iff]
  constructor
  · rintro ⟨j, rfl, same⟩
    rw [(mapNumbers_eq_str numeric).mp same]
  · rintro rfl
    exact ⟨_, rfl, rfl⟩

theorem mapNumbers_fixed {ms : Members} (fixed : ∀ m ∈ ms, mapNumbers f m.2 = m.2) : mapNumbers f (.obj ms) = .obj ms := by
  rw [mapNumbers, mapMembers_eq]
  refine congrArg Json.obj ((List.map_congr_left (g := id) ?_).trans (List.map_id _))
  intro m hm
  exact Prod.ext rfl (fixed m hm)

theorem mapNumbers_texts (texts : List String) : (texts.map Json.str).map (mapNumbers f) = texts.map Json.str := by
  rw [List.map_map]
  rfl

end EspWebChat.NumberMaps
