import EspWebChat.FaithfulCopies
import EspWebChat.RecoveryMerge
import EspWebChat.Registers

set_option autoImplicit false

/-!
# Conversation summaries and the order of the messages

Every message of a conversation writes its summary again. The preview and its time go to the
newest message, whatever the order; the name and the members go to the last one processed.
-/
namespace EspWebChat.ConversationSummaries
open JsonTree JsValues ClientMessages Interruptible BrowserWorld ClientStore
open StoreSteps WrittenMessages FaithfulCopies RecoveryMerge Registers

variable {s u : Store} {m : Json} {c key userId : String} {existing : Option Json} {l : List Json}

def moment (m : Json) : ℚ :=
  match numberOfMember (m.lastMember "timestamp") with
  | .fin q => q
  | _ => 0

/-- Messages of one conversation, at distinct positive times. -/
structure Batch (userId : String) where
  conversation : String
  messages : List Json
  valid : ∀ m ∈ messages, validHistoryMessage m = true
  belongs : ∀ m ∈ messages, conversationForMessage userId m = conversation
  positive : ∀ m ∈ messages, 0 < moment m
  distinct : (messages.map moment).Nodup
  identified : (messages.map (fun m => m.lastMember "id")).Nodup

/-- The same properties with the same values. Of the member list only what `read` takes from it is
    compared: the list itself, or the set of its ids. -/
def SameEntry {α : Type} (read : Json → α) (a b : Option Json) : Prop :=
  a.isSome = b.isSome ∧ (∀ key, key ≠ "members" → property a key = property b key) ∧
    (property a "members").map read = (property b "members").map read

/-- The store after the messages have been processed in this order. -/
def Processed (s : Store) (order : List Json) (u : Store) : Prop :=
  ∃ env env', updateConversations order env s = ⟨some (), u, env'⟩

def updated (s : Store) (m : Json) : Store :=
  let entry := conversationEntry s m (.fin (moment m))
  { s with conversations := assign entry.1 entry.2 s.conversations }

theorem timestamp_moment (valid : Wellformed m) : numberOfMember (m.lastMember "timestamp") = .fin (moment m) := by
  obtain ⟨q, is_time⟩ := valid.time
  unfold moment
  rw [is_time]

theorem update_spec (valid : Wellformed m) (positive : 0 < moment m) (s : Store) :
    Traces (fun _ _ => True) (updateConversationFromMessage m) s (fun _ u => u = updated s m) := by
  apply Traces.ite
  · intro ignored
    obtain ⟨type, is_type, kind⟩ := valid.kind
    rw [truthy_of_valid valid, is_type] at ignored
    rcases kind with rfl | rfl <;> cases ignored
  · intro _
    apply reply_spec.bind
    intro r v _ hv
    subst hv
    have nonzero : ¬orZero (numberOfMember (m.lastMember "timestamp")) = .fin 0 := by
      rw [timestamp_moment valid]
      intro zero
      have value : moment m = 0 := Number.fin.inj zero
      rw [value] at positive
      exact lt_irrefl _ positive
    dsimp only
    rw [if_neg nonzero, timestamp_moment valid]
    exact .writes trivial rfl

theorem updateConversations_eq (valid : ∀ m ∈ l, Wellformed m) (positive : ∀ m ∈ l, 0 < moment m) (s : Store) :
    Traces (fun _ _ => True) (updateConversations l) s (fun _ u => u = l.foldl updated s) := by
  induction l generalizing s with
  | nil => exact .pure rfl
  | cons m l ih =>
    apply (update_spec (valid m List.mem_cons_self) (positive m List.mem_cons_self) s).bind
    intro _ u _ hu
    subst hu
    exact ih (fun x hx => valid x (List.mem_cons_of_mem _ hx)) (fun x hx => positive x (List.mem_cons_of_mem _ hx)) _

theorem updateConversations_completes (l : List Json) : Completes (updateConversations l) := by
  induction l with
  | nil => exact completes_pure ()
  | cons m l ih => exact (updateConversationFromMessage_completes m).bind (fun _ => ih)

theorem processed_iff (valid : ∀ m ∈ l, Wellformed m) (positive : ∀ m ∈ l, 0 < moment m) :
    Processed s l u ↔ u = l.foldl updated s := by
  constructor
  · intro h
    obtain ⟨env, env', run⟩ := h
    have post := (updateConversations_eq valid positive s env).2 ()
    rw [run] at post
    exact post rfl
  · intro h
    obtain ⟨a, v, env', run, -⟩ := (updateConversations_completes l s).run (fun _ => calmReply) (fun _ => rfl)
    have post := (updateConversations_eq valid positive s (fun _ => calmReply)).2 a
    rw [run] at post
    have same : v = u := (post rfl).trans h.symm
    rw [same] at run
    exact ⟨_, env', run⟩

theorem lookup_assign_self (key : String) (v : Json) (ms : Members) : (assign key v ms).lookup key = some v := by
  unfold assign
  split_ifs with present
  · induction ms with
    | nil => cases present
    | cons x ms ih =>
      rw [List.map_cons, lookup_cons]
      by_cases hx : x.1 = key
      · rw [if_pos hx]
        simp
      · rw [if_neg hx, if_neg (fun h => hx h.symm)]
        apply ih
        simpa [hx] using present
  · rw [List.lookup_append]
    have absent : ms.lookup key = none := by
      rw [lookup_eq_none_iff]
      intro hk
      obtain ⟨x, hx, rfl⟩ := List.mem_map.mp hk
      exact present (List.any_eq_true.mpr ⟨x, hx, by simp⟩)
    rw [absent]
    simp

theorem lastMember_assign (name : String) (v : Json) (ms : Members) :
    (assign name v ms).reverse.lookup key = if key = name then some v else ms.reverse.lookup key := by
  unfold assign
  split_ifs with present same same
  · subst same
    rw [← List.map_reverse]
    have found : ms.reverse.any (fun x => x.1 == key) = true := by
      rw [List.any_reverse]
      exact present
    generalize ms.reverse = xs at found
    induction xs with
    | nil => cases found
    | cons x xs ih =>
      rw [List.map_cons, lookup_cons]
      by_cases hx : x.1 = key
      · rw [if_pos hx]
        simp
      · rw [if_neg hx, if_neg (fun h => hx h.symm)]
        apply ih
        simpa [hx] using found
  · rw [← List.map_reverse]
    induction ms.reverse with
    | nil => rfl
    | cons x xs ih =>
      rw [List.map_cons, lookup_cons, lookup_cons, ih]
      by_cases hx : x.1 = name
      · have other : ¬key = x.1 := fun h => same (h.trans hx)
        rw [if_pos hx, if_neg same, if_neg other]
      · rw [if_neg hx]
  · subst same
    simp
  · rw [List.reverse_append]
    simp only [List.reverse_cons, List.reverse_nil, List.nil_append, List.cons_append, lookup_cons]
    rw [if_neg same]

theorem lastMember_spread (base overlay : Members) : (spread base overlay).reverse.lookup key =
    (overlay.reverse.lookup key).or (base.reverse.lookup key) := by
  unfold spread
  induction overlay generalizing base with
  | nil => rfl
  | cons x overlay ih =>
    obtain ⟨name, v⟩ := x
    rw [List.foldl_cons, ih, lastMember_assign, List.reverse_cons, List.lookup_append]
    cases overlay.reverse.lookup key with
    | some w => rfl
    | none =>
      simp only [Option.none_or, lookup_cons]
      split_ifs <;> rfl

theorem object_spread (base overlay : Members) : (Json.obj (spread base overlay)).lastMember key =
    (overlay.reverse.lookup key).or ((Json.obj base).lastMember key) := lastMember_spread base overlay

theorem lookup_updated (belongs : conversationForMessage s.userId m = c) :
    (updated s m).conversations.lookup c = some (conversationEntry s m (.fin (moment m))).2 := by
  have id : (conversationEntry s m (.fin (moment m))).1 = c := by
    rw [← belongs]
    unfold conversationEntry
    dsimp only
    split_ifs <;> rfl
  unfold updated
  dsimp only
  rw [id]
  exact lookup_assign_self _ _ _

abbrev Shown := Option Json × Option Json

/-- What `a || b` takes of the first operand. -/
def given (value : Option Json) : Option Json := value.filter truthyValue

theorem orElse_eq (value : Option Json) (b : Json) : orElse value b = (given value).getD b := by
  cases value with
  | none => rfl
  | some v =>
    by_cases h : truthyValue v = true
    · simp [orElse, given, truthy, Option.filter, h]
    · simp [orElse, given, truthy, Option.filter, h]

/-- A summary of the group chat is read with the defaults below it. -/
def member (c key : String) (entry : Json) : Option Json :=
  if c = "global" then (entry.lastMember key).or ((Json.obj defaultConversation).lastMember key)
  else entry.lastMember key

def shown (c : String) (existing : Option Json) : Option Shown :=
  existing.map (fun entry => (member c "lastPreview" entry, member c "updatedAt" entry))

def keepsShown (r : Option Shown) (m : Json) : Bool :=
  r.any (fun p => greater (numberOf (orElse p.2 (nat 0))) (.fin (moment m)))

def fallback (c : String) (m : Json) : String :=
  if c = "global" then "Group Chat" else if isGroupMessage m then "New group" else "Private chat"

def previewOf (c : String) (m : Json) : Json := orElse (m.lastMember "data") (str (fallback c m))

def showing (c : String) (m : Json) : Option Shown := some (some (previewOf c m), some (.num (.fin (moment m))))

theorem keepsShown_showing (c : String) (x y : Json) : keepsShown (showing c x) y = true ↔ moment y < moment x := by
  have time : numberOf (orElse (some (.num (.fin (moment x)))) (nat 0)) = .fin (moment x) := by
    by_cases zero : moment x = 0
    · rw [zero]
      rfl
    · unfold orElse
      rw [if_pos (by simp [truthy, truthyValue, zero])]
      rfl
  unfold keepsShown showing
  simp only [Option.any_some, time, greater, decide_eq_true_eq]

theorem shown_timed (c : String) : Timed (showing c) keepsShown moment := by
  refine ⟨keepsShown_showing c, ?_⟩
  intro r x y kept lost
  cases r with
  | none => cases kept
  | some p =>
    simp only [keepsShown, Option.any_some] at kept lost
    cases hn : numberOf (orElse p.2 (nat 0)) with
    | nan =>
      rw [hn] at kept
      cases kept
    | inf negative =>
      rw [hn] at kept lost
      cases negative with
      | true => cases kept
      | false => cases lost
    | fin q =>
      rw [hn] at kept lost
      simp only [greater, decide_eq_true_eq, decide_eq_false_iff_not, not_lt] at kept lost
      exact lt_of_lt_of_le kept lost

theorem keepsShown_iff (c : String) (existing : Option Json) (m : Json) : keepsShown (shown c existing) m =
    (existing.isSome && greater (updatedAt existing) (.fin (moment m))) := by
  cases existing with
  | none => rfl
  | some entry =>
    have defaults : (Json.obj defaultConversation).lastMember "updatedAt" = some (nat 0) := rfl
    have same : orElse (member c "updatedAt" entry) (nat 0) = orElse (entry.lastMember "updatedAt") (nat 0) := by
      unfold member
      split_ifs
      · rw [defaults]
        cases entry.lastMember "updatedAt" with
        | none => rfl
        | some v => rfl
      · rfl
    unfold keepsShown shown updatedAt property
    simp only [Option.map_some, Option.any_some, Option.isSome_some, Bool.true_and, Option.bind_some]
    rw [same]

theorem previewMembers_lookup (existing : Option Json) (m : Json) :
    let written := previewMembers existing (previewOf c m) (.fin (moment m))
    (written.reverse.lookup "lastPreview" = if keepsShown (shown c existing) m then property existing "lastPreview"
      else some (previewOf c m)) ∧
    (written.reverse.lookup "updatedAt" = if keepsShown (shown c existing) m then property existing "updatedAt"
      else some (.num (.fin (moment m)))) ∧
    ∀ key, key ≠ "lastPreview" → key ≠ "updatedAt" → written.reverse.lookup key = none := by
  intro written
  have unfolded : written = if keepsShown (shown c existing) m then
      optionalMember "lastPreview" (property existing "lastPreview") ++
        optionalMember "updatedAt" (property existing "updatedAt")
      else [("lastPreview", previewOf c m), ("updatedAt", .num (.fin (moment m)))] := by
    rw [keepsShown_iff]
    rfl
  rw [unfolded]
  split_ifs
  · refine ⟨?_, ?_, ?_⟩
    · rw [reverse_lookup_append, lookup_optionalMember (by decide), lookup_optionalMember_self]
      rfl
    · rw [reverse_lookup_append, lookup_optionalMember_self, lookup_optionalMember (by decide), Option.or_none]
    · intro key preview time
      rw [reverse_lookup_append, lookup_optionalMember preview, lookup_optionalMember time]
      rfl
  · refine ⟨rfl, rfl, ?_⟩
    intro key preview time
    simp [lookup_cons, preview, time]

/-- The name a message gives to its conversation. -/
def givenName (s : Store) (c : String) (m : Json) : Option Json :=
  if isGroupMessage m then given (m.lastMember "groupName")
  else if isText s.userId (m.lastMember "from") then given (nameOf s.onlineUsers c)
  else given (m.lastMember "name")

def givenType (m : Json) : Json := str (if isGroupMessage m then "group" else "private")

def givenMembers (s : Store) (c : String) (m : Json) : Json :=
  .arr (if isGroupMessage m then groupMembers m else [str s.userId, str c])

/-- The name a private chat goes by when no message gives one. -/
def knownName (c : String) (existing : Option Json) : Json := orElse (property existing "name") (sliceTo 8 c)

def plainEntry (c : String) (name type members : Json) (preview : Members) : Json :=
  .obj ([("id", str c), ("name", name), ("type", type), ("members", members)] ++ preview)

theorem entry_global (belongs : conversationForMessage s.userId m = "global") :
    (conversationEntry s m (.fin (moment m))).2 = .obj (spread (spread defaultConversation
      (((s.conversations.lookup "global").map Json.members).getD []))
      (previewMembers (s.conversations.lookup "global") (previewOf "global" m) (.fin (moment m)))) := by
  unfold conversationEntry
  dsimp only
  rw [belongs, if_pos rfl]
  rfl

theorem group_checked (valid : Wellformed m) (group : isGroupMessage m = true) : validGroupMetadata m = true := by
  have needed : (isText "newGroup" (m.lastMember "type") || (m.lastMember "groupId").isSome ||
      (m.lastMember "groupName").isSome) = true := by
    unfold isGroupMessage at group
    simp only [Bool.or_eq_true] at group ⊢
    cases group with
    | inl new => exact .inl (.inl new)
    | inr id =>
      refine .inl (.inr ?_)
      cases hid : m.lastMember "groupId" with
      | none =>
        rw [hid] at id
        cases id
      | some v => rfl
  have metadata := valid.group
  rw [if_pos needed] at metadata
  exact metadata

theorem group_named (valid : Wellformed m) (group : isGroupMessage m = true) :
    ∃ name, given (m.lastMember "groupName") = some name := by
  have metadata := group_checked valid group
  unfold validGroupMetadata at metadata
  rw [Bool.and_eq_true] at metadata
  have filled := (string_of_validLabel metadata.2).2
  cases is_name : m.lastMember "groupName" with
  | none =>
    rw [is_name] at filled
    cases filled
  | some name =>
    rw [is_name] at filled
    exact ⟨name, Option.filter_some_pos filled⟩

theorem entry_plain (valid : Wellformed m) (belongs : conversationForMessage s.userId m = c) (other : c ≠ "global") :
    (conversationEntry s m (.fin (moment m))).2 = plainEntry c
      (refresh (givenName s c) (knownName c (s.conversations.lookup c)) m) (givenType m) (givenMembers s c m)
      (previewMembers (s.conversations.lookup c) (previewOf c m) (.fin (moment m))) := by
  unfold conversationEntry plainEntry previewOf fallback givenType givenMembers refresh givenName
  dsimp only
  rw [belongs, if_neg other, if_neg other]
  by_cases group : isGroupMessage m = true
  · obtain ⟨name, named⟩ := group_named valid group
    simp only [group, if_true, orElse_eq, named, Option.getD_some]
  · rw [if_neg group, if_neg group, if_neg group, if_neg group, if_neg group]
    by_cases own : isText s.userId (m.lastMember "from") = true
    · simp only [own, if_true, orElse_eq, knownName]
    · rw [if_neg own, if_neg own]
      simp only [orElse_eq, knownName]

theorem plainEntry_lookup (name type members : Json) (preview : Members) :
    (plainEntry c name type members preview).lastMember key = (preview.reverse.lookup key).or
      ([("members", members), ("type", type), ("name", name), ("id", str c)].lookup key) := by
  unfold plainEntry Json.lastMember Json.members
  rw [List.reverse_append, List.lookup_append]
  rfl

theorem truthy_of_given {o : Option Json} {v : Json} (h : given o = some v) : truthyValue v = true :=
  (Option.filter_eq_some_iff.mp h).2

theorem truthy_ofPoints {ps : List Point} (filled : ps ≠ []) : truthyValue (ofPoints ps) = true := by
  unfold ofPoints
  split_ifs with cut
  · rfl
  · change (String.ofList (ps.filterMap Point.toChar) != "") = true
    rw [bne_iff_ne]
    intro empty
    have nothing : ps.filterMap Point.toChar = [] := by
      rw [← String.toList_ofList (l := ps.filterMap Point.toChar), empty]
      rfl
    rw [← map_toChar cut, nothing] at filled
    exact filled rfl

theorem sliceTo_filled (filled : c ≠ "") : truthyValue (sliceTo 8 c) = true := by
  apply truthy_ofPoints
  cases hc : c.toList with
  | nil => exact absurd (String.toList_injective (by rw [hc]; rfl)) filled
  | cons ch cs =>
    unfold takeUnits
    split_ifs <;> exact List.cons_ne_nil _ _

theorem knownName_truthy (filled : c ≠ "") (existing : Option Json) : truthyValue (knownName c existing) = true := by
  unfold knownName
  rw [orElse_eq]
  cases hg : given (property existing "name") with
  | some v => exact truthy_of_given hg
  | none => exact sliceTo_filled filled

theorem refresh_truthy (filled : c ≠ "") (s : Store) (existing : Option Json) (m : Json) :
    truthyValue (refresh (givenName s c) (knownName c existing) m) = true := by
  unfold refresh
  cases hg : givenName s c m with
  | none => exact knownName_truthy filled existing
  | some v =>
    unfold givenName at hg
    split_ifs at hg
    · exact truthy_of_given hg
    · exact truthy_of_given hg
    · exact truthy_of_given hg

theorem conversation_filled (valid : Wellformed m) (userId : String) : conversationForMessage userId m ≠ "" := by
  have sender := text_of_validText valid.sender
  unfold conversationForMessage
  by_cases group : isGroupMessage m = true
  · rw [if_pos group]
    rcases valid.metadata with none | ⟨-, ⟨id, is_id, filled⟩, -⟩
    · obtain ⟨name, named⟩ := group_named valid group
      rw [none.2] at named
      cases named
    · rw [is_id]
      exact filled
  · rw [if_neg group]
    split_ifs
    · decide
    · unfold otherTarget
      cases hf : ((targetUsers m).filterMap (fun user => text (some user))).find? (fun id => id != userId) with
      | none => decide
      | some id =>
        obtain ⟨user, hu, is_id⟩ := List.mem_filterMap.mp (List.mem_of_find?_eq_some hf)
        obtain ⟨id', same, filled⟩ := text_of_validText (List.filter_eq_self.mp valid.users user hu)
        rw [text_eq_some is_id] at same
        cases same
        exact filled
    · obtain ⟨id, is_id, filled⟩ := sender
      rw [is_id]
      exact filled

theorem member_step (valid : Wellformed m) (belongs : conversationForMessage s.userId m = c) {v : Json}
    (preview : key ∉ ["members", "type", "name", "id"])
    (written : (previewMembers (s.conversations.lookup c) (previewOf c m) (.fin (moment m))).reverse.lookup key =
      if keepsShown (shown c (s.conversations.lookup c)) m then property (s.conversations.lookup c) key else some v) :
    member c key (conversationEntry s m (.fin (moment m))).2 =
      if keepsShown (shown c (s.conversations.lookup c)) m then (s.conversations.lookup c).bind (member c key)
      else some v := by
  by_cases other : c = "global"
  · subst other
    rw [entry_global belongs]
    unfold member
    simp only [if_true, object_spread, written]
    split_ifs with kept
    · cases hl : s.conversations.lookup "global" with
      | none =>
        rw [hl] at kept
        cases kept
      | some entry =>
        change ((entry.lastMember key).or ((entry.lastMember key).or _)).or _ = (entry.lastMember key).or _
        cases entry.lastMember key with
        | none => cases (Json.obj defaultConversation).lastMember key <;> rfl
        | some w => rfl
    · rfl
  · rw [entry_plain valid belongs other]
    have absent : ∀ a b c d : Json, [("members", a), ("type", b), ("name", c), ("id", d)].lookup key = none := by
      intro a b c d
      rw [lookup_eq_none_iff]
      exact preview
    unfold member
    simp only [if_neg other, plainEntry_lookup, written, absent, Option.or_none]
    rfl

theorem shown_step (valid : Wellformed m) (belongs : conversationForMessage s.userId m = c) :
    shown c (some (conversationEntry s m (.fin (moment m))).2) =
      advance (showing c) keepsShown (shown c (s.conversations.lookup c)) m := by
  obtain ⟨preview, time, -⟩ := previewMembers_lookup (c := c) (s.conversations.lookup c) m
  have first := member_step valid belongs (by decide) preview
  have second := member_step valid belongs (by decide) time
  change some (member c "lastPreview" _, member c "updatedAt" _) = _
  rw [first, second]
  unfold advance
  by_cases kept : keepsShown (shown c (s.conversations.lookup c)) m = true
  · rw [if_pos kept, if_pos kept, if_pos kept]
    cases hl : s.conversations.lookup c with
    | none =>
      rw [hl] at kept
      cases kept
    | some entry => rfl
  · rw [if_neg kept, if_neg kept, if_neg kept]
    rfl

theorem global_step (belongs : conversationForMessage s.userId m = "global")
    (preview : key ≠ "lastPreview") (time : key ≠ "updatedAt") :
    (conversationEntry s m (.fin (moment m))).2.lastMember key =
      ((s.conversations.lookup "global").bind (fun e => e.lastMember key)).or
        ((Json.obj defaultConversation).lastMember key) := by
  obtain ⟨-, -, absent⟩ := previewMembers_lookup (c := "global") (s.conversations.lookup "global") m
  rw [entry_global belongs, object_spread, absent key preview time, object_spread]
  cases s.conversations.lookup "global" with
  | none => rfl
  | some entry => rfl

theorem known_step (valid : Wellformed m) (belongs : conversationForMessage s.userId m = c) (other : c ≠ "global") :
    knownName c (some (conversationEntry s m (.fin (moment m))).2) =
      refresh (givenName s c) (knownName c (s.conversations.lookup c)) m := by
  obtain ⟨-, -, absent⟩ := previewMembers_lookup (c := c) (s.conversations.lookup c) m
  have filled : c ≠ "" := belongs ▸ conversation_filled valid s.userId
  have named : property (some (conversationEntry s m (.fin (moment m))).2) "name" =
      some (refresh (givenName s c) (knownName c (s.conversations.lookup c)) m) := by
    rw [entry_plain valid belongs other]
    change (plainEntry _ _ _ _ _).lastMember "name" = _
    rw [plainEntry_lookup, absent "name" (by decide) (by decide)]
    rfl
  have truth := refresh_truthy filled s (s.conversations.lookup c) m
  unfold knownName at truth ⊢
  rw [named]
  unfold orElse
  rw [if_pos (by exact truth)]
  rfl

section folds

theorem or_or_self (value default : Option Json) : (value.or default).or default = value.or default := by
  cases value with
  | none => cases default <;> rfl
  | some v => rfl

theorem updated_fold_same (s : Store) (l : List Json) :
    (l.foldl updated s).userId = s.userId ∧ (l.foldl updated s).onlineUsers = s.onlineUsers := by
  induction l generalizing s with
  | nil => exact ⟨rfl, rfl⟩
  | cons m l ih => exact ih (updated s m)

theorem givenName_fold (s : Store) (l : List Json) (c : String) : givenName (l.foldl updated s) c = givenName s c := by
  obtain ⟨user, online⟩ := updated_fold_same s l
  funext m
  unfold givenName
  rw [user, online]

theorem shown_fold (valid : ∀ m ∈ l, Wellformed m) (belongs : ∀ m ∈ l, conversationForMessage s.userId m = c) :
    shown c ((l.foldl updated s).conversations.lookup c) =
      l.foldl (advance (showing c) keepsShown) (shown c (s.conversations.lookup c)) := by
  induction l generalizing s with
  | nil => rfl
  | cons m l ih =>
    have first := belongs m List.mem_cons_self
    have rest := ih (s := updated s m) (fun x hx => valid x (List.mem_cons_of_mem _ hx))
      (fun x hx => belongs x (List.mem_cons_of_mem _ hx))
    rw [List.foldl_cons, List.foldl_cons, rest, lookup_updated first, shown_step (valid m List.mem_cons_self) first]

theorem known_fold (valid : ∀ m ∈ l, Wellformed m) (belongs : ∀ m ∈ l, conversationForMessage s.userId m = c)
    (other : c ≠ "global") : knownName c ((l.foldl updated s).conversations.lookup c) =
      l.foldl (refresh (givenName s c)) (knownName c (s.conversations.lookup c)) := by
  induction l generalizing s with
  | nil => rfl
  | cons m l ih =>
    have first := belongs m List.mem_cons_self
    have rest := ih (s := updated s m) (fun x hx => valid x (List.mem_cons_of_mem _ hx))
      (fun x hx => belongs x (List.mem_cons_of_mem _ hx))
    rw [List.foldl_cons, List.foldl_cons, rest, lookup_updated first,
      known_step (valid m List.mem_cons_self) first other]
    rfl

theorem global_fold (belongs : ∀ m ∈ l, conversationForMessage s.userId m = "global")
    (preview : key ≠ "lastPreview") (time : key ≠ "updatedAt") :
    (((l.foldl updated s).conversations.lookup "global").bind (fun e => e.lastMember key)).or
        ((Json.obj defaultConversation).lastMember key) =
      ((s.conversations.lookup "global").bind (fun e => e.lastMember key)).or
        ((Json.obj defaultConversation).lastMember key) := by
  induction l generalizing s with
  | nil => rfl
  | cons m l ih =>
    have first := belongs m List.mem_cons_self
    have rest := ih (s := updated s m) (fun x hx => belongs x (List.mem_cons_of_mem _ hx))
    rw [List.foldl_cons, rest, lookup_updated first, Option.bind_some, global_step first preview time, or_or_self]

theorem member_written (belongs : conversationForMessage s.userId m = c) :
    member c key (conversationEntry s m (.fin (moment m))).2 =
      (conversationEntry s m (.fin (moment m))).2.lastMember key := by
  unfold member
  split_ifs with other
  · subst other
    rw [entry_global belongs, object_spread, object_spread]
    cases (previewMembers _ _ _).reverse.lookup key with
    | some v => rfl
    | none =>
      rw [Option.none_or]
      exact or_or_self _ _
  · rfl

end folds

structure Ending (s : Store) (c : String) (front : List Json) (m : Json) : Prop where
  valid : ∀ x ∈ front ++ [m], Wellformed x
  belongs : ∀ x ∈ front ++ [m], conversationForMessage s.userId x = c

variable {front : List Json}

theorem Ending.last (h : Ending s c front m) :
    Wellformed m ∧ conversationForMessage (front.foldl updated s).userId m = c := by
  have member : m ∈ front ++ [m] := List.mem_append_right _ (List.mem_singleton_self m)
  refine ⟨h.valid m member, ?_⟩
  rw [(updated_fold_same s front).1]
  exact h.belongs m member

theorem Ending.entry (h : Ending s c front m) : ((front ++ [m]).foldl updated s).conversations.lookup c =
    some (conversationEntry (front.foldl updated s) m (.fin (moment m))).2 := by
  rw [List.foldl_append]
  exact lookup_updated h.last.2

theorem Ending.preview (h : Ending s c front m) (preview : key = "lastPreview" ∨ key = "updatedAt") :
    property (((front ++ [m]).foldl updated s).conversations.lookup c) key =
      (((front ++ [m]).foldl (advance (showing c) keepsShown) (shown c (s.conversations.lookup c))).bind
        (fun p => if key = "lastPreview" then p.1 else p.2)) := by
  rw [← shown_fold h.valid h.belongs, h.entry]
  unfold shown
  simp only [Option.map_some, Option.bind_some, property, member_written h.last.2]
  rcases preview with rfl | rfl <;> rfl

theorem Ending.global (h : Ending s "global" front m) (preview : key ≠ "lastPreview") (time : key ≠ "updatedAt") :
    property (((front ++ [m]).foldl updated s).conversations.lookup "global") key =
      ((s.conversations.lookup "global").bind (fun e => e.lastMember key)).or
        ((Json.obj defaultConversation).lastMember key) := by
  rw [h.entry, property, Option.bind_some, global_step h.last.2 preview time]
  exact global_fold (fun x hx => h.belongs x (List.mem_append_left _ hx)) preview time

theorem Ending.plain (h : Ending s c front m) (other : c ≠ "global") (preview : key ≠ "lastPreview")
    (time : key ≠ "updatedAt") : property (((front ++ [m]).foldl updated s).conversations.lookup c) key =
      [("members", givenMembers s c m), ("type", givenType m),
        ("name", (front ++ [m]).foldl (refresh (givenName s c)) (knownName c (s.conversations.lookup c))),
        ("id", str c)].lookup key := by
  obtain ⟨-, -, absent⟩ := previewMembers_lookup (c := c) ((front.foldl updated s).conversations.lookup c) m
  have names : (front ++ [m]).foldl (refresh (givenName s c)) (knownName c (s.conversations.lookup c)) =
      refresh (givenName (front.foldl updated s) c) (knownName c ((front.foldl updated s).conversations.lookup c)) m := by
    rw [foldl_refresh_last, givenName_fold, known_fold (fun x hx => h.valid x (List.mem_append_left _ hx))
      (fun x hx => h.belongs x (List.mem_append_left _ hx)) other]
  have members : givenMembers (front.foldl updated s) c m = givenMembers s c m := by
    unfold givenMembers
    rw [(updated_fold_same s front).1]
  rw [h.entry, property, Option.bind_some, entry_plain h.last.1 h.last.2 other, plainEntry_lookup,
    absent key preview time, Option.none_or, names, members]

variable {α : Type} {read : Json → α}

/-- After any order the preview and the time are those of the newest message, unless the entry was
    newer before. -/
def ShowsNewest (s : Store) (b : Batch s.userId) : Prop :=
  ∀ n ∈ b.messages, (∀ y ∈ b.messages, moment y ≤ moment n) → ∀ order u, order.Perm b.messages → Processed s order u →
    shown b.conversation (u.conversations.lookup b.conversation) =
      if keepsShown (shown b.conversation (s.conversations.lookup b.conversation)) n then
        shown b.conversation (s.conversations.lookup b.conversation)
      else some (some (previewOf b.conversation n), some (.num (.fin (moment n))))

/-- Any two orders give the same entry. -/
def OrderFree (read : Json → α) (s : Store) (b : Batch s.userId) : Prop :=
  ∀ order order' u u', order.Perm b.messages → order'.Perm b.messages → Processed s order u → Processed s order' u' →
    SameEntry read (u.conversations.lookup b.conversation) (u'.conversations.lookup b.conversation)

/-- The messages agree on the kind of the conversation, on its members and on every name given. -/
def Consistent (read : Json → α) (s : Store) (b : Batch s.userId) : Prop :=
  b.conversation = "global" ∨ ∀ x ∈ b.messages, ∀ y ∈ b.messages, isGroupMessage x = isGroupMessage y ∧
    read (givenMembers s b.conversation x) = read (givenMembers s b.conversation y) ∧
    ∀ name ∈ givenName s b.conversation x, ∀ name' ∈ givenName s b.conversation y, name = name'

variable {b : Batch s.userId} {order order' : List Json}

theorem Batch.processed (b : Batch s.userId) (perm : order.Perm b.messages) :
    Processed s order u ↔ u = order.foldl updated s :=
  processed_iff (fun m hm => valid_iff.mp (b.valid m (perm.mem_iff.mp hm)))
    (fun m hm => b.positive m (perm.mem_iff.mp hm))

theorem Batch.ending (b : Batch s.userId) (perm : (front ++ [m]).Perm b.messages) : Ending s b.conversation front m :=
  ⟨fun x hx => valid_iff.mp (b.valid x (perm.mem_iff.mp hx)), fun x hx => b.belongs x (perm.mem_iff.mp hx)⟩

theorem Batch.shows (b : Batch s.userId) : ShowsNewest s b := by
  intro n hn newest order u perm h
  rw [(b.processed perm).mp h]
  have distinct : (order.map moment).Nodup := (perm.map moment).nodup_iff.mpr b.distinct
  rw [shown_fold (fun m hm => valid_iff.mp (b.valid m (perm.mem_iff.mp hm)))
    (fun m hm => b.belongs m (perm.mem_iff.mp hm)),
    (shown_timed b.conversation).foldl_newest distinct (perm.mem_iff.mpr hn)
      (fun y hy => newest y (perm.mem_iff.mp hy))]
  rfl

theorem Batch.agree (b : Batch s.userId) (h : Consistent read s b) {front' : List Json} {m' : Json}
    (perm : (front ++ [m]).Perm b.messages) (perm' : (front' ++ [m']).Perm b.messages) :
    SameEntry read (((front ++ [m]).foldl updated s).conversations.lookup b.conversation)
      (((front' ++ [m']).foldl updated s).conversations.lookup b.conversation) := by
  have here := b.ending perm
  have there := b.ending perm'
  have shown_same := (shown_timed b.conversation).foldl_perm
    ((perm.map moment).nodup_iff.mpr b.distinct) (perm.trans perm'.symm)
  have last : m ∈ b.messages := perm.mem_iff.mp (List.mem_append_right _ (List.mem_singleton_self m))
  have last' : m' ∈ b.messages := perm'.mem_iff.mp (List.mem_append_right _ (List.mem_singleton_self m'))
  refine ⟨?_, ?_, ?_⟩
  · rw [here.entry, there.entry]
    rfl
  · intro key other
    by_cases preview : key = "lastPreview" ∨ key = "updatedAt"
    · rw [here.preview preview, there.preview preview, shown_same]
    · have absent : key ≠ "lastPreview" ∧ key ≠ "updatedAt" := not_or.mp preview
      by_cases global : b.conversation = "global"
      · rw [global] at here there ⊢
        rw [here.global absent.1 absent.2, there.global absent.1 absent.2]
      · have agree := h.resolve_left global
        have names := (foldl_refresh_iff (knownName b.conversation (s.conversations.lookup b.conversation))).mpr
          (fun x hx y hy => (agree x hx y hy).2.2) _ _ perm perm'
        have kind : givenType m = givenType m' := by
          unfold givenType
          rw [(agree m last m' last').1]
        rw [here.plain global absent.1 absent.2, there.plain global absent.1 absent.2, names, kind,
          lookup_cons, lookup_cons ("members", givenMembers s b.conversation m'), if_neg other, if_neg other]
  · by_cases global : b.conversation = "global"
    · rw [global] at here there ⊢
      rw [here.global (by decide) (by decide), there.global (by decide) (by decide)]
    · rw [here.plain global (by decide) (by decide), there.plain global (by decide) (by decide)]
      exact congrArg some (h.resolve_left global m last m' last').2.1

theorem Batch.orderFree (b : Batch s.userId) (h : Consistent read s b) : OrderFree read s b := by
  intro order order' u u' perm perm' hu hu'
  rw [(b.processed perm).mp hu, (b.processed perm').mp hu']
  rcases List.eq_nil_or_concat order with none | ⟨front, m, rfl⟩
  · subst none
    have none' : order' = [] := (perm'.trans perm.symm).eq_nil
    rw [none']
    exact ⟨rfl, fun _ _ => rfl, rfl⟩
  · rcases List.eq_nil_or_concat order' with none | ⟨front', m', rfl⟩
    · subst none
      exact absurd (perm.trans perm'.symm).eq_nil (by simp)
    · rw [List.concat_eq_append] at perm perm' ⊢
      rw [List.concat_eq_append]
      exact b.agree h perm perm'

theorem Batch.consistent (b : Batch s.userId) (h : OrderFree read s b) : Consistent read s b := by
  by_cases global : b.conversation = "global"
  · exact .inl global
  · right
    intro x hx y hy
    obtain ⟨front, perm⟩ := exists_ending hx
    obtain ⟨front', perm'⟩ := exists_ending hy
    obtain ⟨-, same, members⟩ := h _ _ _ _ perm perm' ((b.processed perm).mpr rfl) ((b.processed perm').mpr rfl)
    have here := b.ending perm
    have there := b.ending perm'
    refine ⟨?_, ?_, ?_⟩
    · have kind := same "type" (by decide)
      rw [here.plain global (by decide) (by decide), there.plain global (by decide) (by decide)] at kind
      have texts : givenType x = givenType y := Option.some.inj kind
      unfold givenType at texts
      cases hgx : isGroupMessage x <;> cases hgy : isGroupMessage y <;> simp_all [str]
    · rw [here.plain global (by decide) (by decide), there.plain global (by decide) (by decide)] at members
      exact Option.some.inj members
    · intro name hname name' hname'
      have names := same "name" (by decide)
      rw [here.plain global (by decide) (by decide), there.plain global (by decide) (by decide)] at names
      have values := Option.some.inj names
      rw [foldl_refresh_last, foldl_refresh_last] at values
      unfold refresh at values
      rw [show givenName s b.conversation x = some name from hname,
        show givenName s b.conversation y = some name' from hname'] at values
      exact values

/-- The preview and its time do not depend on the order. The entry as a whole does not exactly
    when the messages agree on what else they write. -/
theorem summary_order (read : Json → α) (s : Store) (b : Batch s.userId) :
    ShowsNewest s b ∧ (OrderFree read s b ↔ Consistent read s b) :=
  ⟨b.shows, b.consistent, b.orderFree⟩

def calling (id name : String) (time : ℕ) : Json := .obj [("id", .str id), ("type", str "text"), ("from", str "ann"),
  ("name", str name), ("to", .obj [("all", .bool false), ("users", .arr [str "bob"])]), ("data", str "hello"),
  ("timestamp", nat time)]

def emptyStore : Store := freshStore ⟨some "bob", none, none, none, none, none⟩ []

def renames : Batch emptyStore.userId where
  conversation := "ann"
  messages := [calling "1" "Ann" 1, calling "2" "Anna" 2]
  valid := by decide +kernel
  belongs := by decide +kernel
  positive := by decide +kernel
  distinct := by decide +kernel
  identified := by
    change [some (Json.str "1"), some (Json.str "2")].Nodup
    simp

/-- A friend who has taken another name goes by the one processed last. -/
theorem renamed_friend : ¬∀ (s : Store) (b : Batch s.userId),
    OrderFree (fun members => {id | id ∈ members.items}) s b := by
  intro free
  have consistent := (renames.consistent (free emptyStore renames)).resolve_left (by decide)
  have names := (consistent (calling "1" "Ann" 1) List.mem_cons_self (calling "2" "Anna" 2)
    (List.mem_cons_of_mem _ List.mem_cons_self)).2.2 (str "Ann") rfl (str "Anna") rfl
  exact absurd (Json.str.inj names) (by decide)

end EspWebChat.ConversationSummaries
