import EspWebChat.ConversationKinds
import EspWebChat.OutgoingMessages
import EspWebChat.LocalStore

set_option autoImplicit false

/-!
# Every stored message has its conversation

A message is stored and filed in two steps of one handler. Between two events every stored message
has an entry in the map of conversations, whatever was saved, pruned or drawn in the meantime.
-/
namespace EspWebChat.ConversationFiling
open Relation JsonTree JsValues ClientMessages Interruptible BrowserWorld ClientStore ClientSocket
open StoreSteps StoreEffects StoreRules OutboxSteps FaithfulCopies

variable {s u : Store} {m msg : Json}

def keys (s : Store) : List String := s.conversations.map Prod.fst

def people (s : Store) : List String := s.onlineUsers.map Prod.fst

def place (s : Store) (m : Json) : String := conversationForMessage s.userId m

/-- From `s` to `u` no conversation is lost, and every message that is new has one. -/
structure Files (s u : Store) : Prop where
  user : u.userId = s.userId
  listed : ∀ key ∈ keys s, key ∈ keys u
  apart : (keys s).Nodup → (keys u).Nodup
  alone : (people s).Nodup → (people u).Nodup
  placed : ∀ m ∈ u.allMessages, m ∈ s.allMessages ∨ place u m ∈ keys u

theorem Files.refl (s : Store) : Files s s := ⟨rfl, fun _ => id, id, id, fun _ => .inl⟩

theorem Files.trans {v : Store} (h : Files s u) (k : Files u v) : Files s v := by
  refine ⟨k.user.trans h.user, fun key hk => k.listed key (h.listed key hk), k.apart ∘ h.apart, k.alone ∘ h.alone, ?_⟩
  intro m hm
  rcases k.placed m hm with old | new
  · rcases h.placed m old with older | there
    · exact .inl older
    · right
      unfold place at there ⊢
      rw [k.user]
      exact k.listed _ there
  · exact .inr new

instance : Std.Refl Files := ⟨Files.refl⟩
instance : IsTrans Store Files := ⟨fun _ _ _ => Files.trans⟩

/-- Every stored message has an entry, and no two entries or users have the same key. -/
structure Orderly (s : Store) : Prop where
  placed : ∀ m ∈ s.allMessages, place s m ∈ keys s
  apart : (keys s).Nodup
  alone : (people s).Nodup

theorem Orderly.files (h : Orderly s) (files : Files s u) : Orderly u := by
  refine ⟨?_, files.apart h.apart, files.alone h.alone⟩
  intro m hm
  rcases files.placed m hm with old | new
  · have there := files.listed _ (h.placed m old)
    unfold place at there ⊢
    rw [files.user]
    exact there
  · exact new

theorem assign_keys (key : String) (v : Json) (ms : Members) : (assign key v ms).map Prod.fst =
    if ms.any (fun m => m.1 == key) then ms.map Prod.fst else ms.map Prod.fst ++ [key] := by
  unfold assign
  split_ifs with present
  · rw [List.map_map]
    apply List.map_congr_left
    intro m _
    dsimp only [Function.comp_apply]
    split_ifs with same
    · exact same.symm
    · rfl
  · simp

theorem assign_self (key : String) (v : Json) (ms : Members) : key ∈ (assign key v ms).map Prod.fst := by
  rw [assign_keys]
  split_ifs with present
  · obtain ⟨m, hm, same⟩ := List.any_eq_true.mp present
    exact List.mem_map.mpr ⟨m, hm, by simpa using same⟩
  · simp

theorem assign_apart {key : String} {v : Json} {ms : Members} (apart : (ms.map Prod.fst).Nodup) :
    ((assign key v ms).map Prod.fst).Nodup := by
  rw [assign_keys]
  split_ifs with present
  · exact apart
  · apply List.Nodup.append apart (List.nodup_singleton _)
    intro other there here
    obtain ⟨m, hm, rfl⟩ := List.mem_map.mp there
    apply present
    exact List.any_eq_true.mpr ⟨m, hm, by simpa using here⟩

theorem spread_apart {base overlay : Members} (apart : (base.map Prod.fst).Nodup) :
    ((spread base overlay).map Prod.fst).Nodup := by
  unfold spread
  induction overlay generalizing base with
  | nil => exact apart
  | cons x overlay ih => exact ih (assign_apart apart)

theorem setName_keys (id : String) (name : Json) (users : Members) : (setName id name users).map Prod.fst =
    if id ∈ users.map Prod.fst then users.map Prod.fst else users.map Prod.fst ++ [id] := by
  induction users with
  | nil => rfl
  | cons user users ih =>
    unfold setName
    by_cases same : user.1 = id
    · simp [same]
    · rw [if_neg same]
      simp only [List.map_cons]
      rw [ih]
      by_cases there : id ∈ users.map Prod.fst
      · rw [if_pos there, if_pos (List.mem_cons_of_mem _ there)]
      · rw [if_neg there, if_neg]
        · rfl
        · rw [List.mem_cons, not_or]
          exact ⟨Ne.symm same, there⟩

theorem setName_alone {id : String} {name : Json} {users : Members} (alone : (users.map Prod.fst).Nodup) :
    ((setName id name users).map Prod.fst).Nodup := by
  rw [setName_keys]
  split_ifs with there
  · exact alone
  · apply List.Nodup.append alone (List.nodup_singleton _)
    intro other known new
    rw [List.mem_singleton.mp new] at known
    exact there known

theorem presence_alone (s : Store) (data : List Json) : ((presence s data).map Prod.fst).Nodup := by
  have fold : ∀ (data : List Json) (users : Members), (users.map Prod.fst).Nodup →
      ((data.foldl (fun users user => if validUserId (user.lastMember "id") then
        setName (orEmpty (user.lastMember "id")) (presenceName user (orEmpty (user.lastMember "id"))) users
        else users) users).map Prod.fst).Nodup := by
    intro data
    induction data with
    | nil => exact fun _ alone => alone
    | cons user data ih =>
      intro users alone
      rw [List.foldl_cons]
      apply ih
      split_ifs
      · exact setName_alone alone
      · exact alone
  unfold presence
  dsimp only
  split_ifs
  · exact fold data [] List.nodup_nil
  · exact setName_alone (fold data [] List.nodup_nil)

theorem assign_files (s : Store) (key : String) (v : Json) (c : Json) :
    Files s { s with conversations := assign key v s.conversations, currentConversation := c } :=
  ⟨rfl, fun _ => assign_listed, assign_apart, id, fun _ => .inl⟩

theorem addOnlineConversations_files (s : Store) : Files s (addOnlineConversations s) := by
  unfold addOnlineConversations
  generalize s.onlineUsers.filter (fun user => user.1 != s.userId) = users
  induction users generalizing s with
  | nil => exact .refl s
  | cons user users ih => exact (assign_files s user.1 (privateEntry s user) s.currentConversation).trans (ih _)

theorem files_kept : Kept Files where
  aside s u same := by
    have fields := same
    simp only [core, Core.mk.injEq] at fields
    obtain ⟨user, messages, conversations, -, users, -, -⟩ := fields
    refine ⟨user, ?_, ?_, ?_, ?_⟩
    · unfold keys
      rw [conversations]
      exact fun _ => id
    · unfold keys
      rw [conversations]
      exact id
    · unfold people
      rw [users]
      exact id
    · rw [messages]
      exact fun _ => .inl
  pruned s := ⟨rfl, fun _ => id, id, id, fun m hm => .inl ((mem_retain s.allMessages m).mp (.inl hm))⟩
  savedMessages s := ⟨rfl, fun _ => id, id, id, fun _ => .inl⟩
  savedConversations s := ⟨rfl, fun _ => id, id, id, fun _ => .inl⟩
  listed := addOnlineConversations_files
  reset s := ⟨rfl, fun _ => id, id, fun _ => List.nodup_singleton _, fun _ => .inl⟩
  entered s name := ⟨rfl, fun _ => id, id, setName_alone, fun _ => .inl⟩
  opened s id := ⟨rfl, fun _ h => h, fun h => h, fun h => h, fun _ => .inl⟩

theorem files_brings (chat : validHistoryMessage msg = false) (history : isText "historyResponse" (msg.lastMember "type") = false) :
    Brings Files msg where
  chat valid := by
    rw [chat] at valid
    cases valid
  recovered type := by
    rw [history] at type
    cases type
  presence _ s := ⟨rfl, fun _ => id, id, fun _ => presence_alone s _, fun _ => .inl⟩

/-- What a computation has done if it is not cut short. -/
abbrev Filing {α : Type} (s : Store) : Option α → Store → Prop := fun r u => r.isSome = true → Files s u

theorem filing_within {α : Type} {m : Client Store α} (h : Within Files m) (s : Store) : Ends m s (Filing s) :=
  ⟨fun env _ => h.run s env⟩

theorem filing_bind {α β : Type} {m : Client Store α} {f : α → Client Store β} (h : Ends m s (Filing s))
    (next : ∀ a, Within Files (f a)) : Ends (m >>= f) s (Filing s) := by
  apply h.bind
  · intro u _ returned
    cases returned
  · intro a u filed
    exact ⟨fun env _ => (filed rfl).trans ((next a).run u env)⟩

theorem update_filed (valid : validHistoryMessage m = true) (s : Store) : Ends (updateConversationFromMessage m) s
    (fun r u => r.isSome = true → ∃ now, u = { s with
      conversations := assign (conversationEntry s m now).1 (conversationEntry s m now).2 s.conversations }) := by
  have type := (valid_iff.mp valid).type
  have skip : ¬ (!truthyValue m || isText "error" (m.lastMember "type") || isText "onlineUsers" (m.lastMember "type")) = true := by
    rw [truthy_of_valid (valid_iff.mp valid)]
    unfold isText at type ⊢
    rcases Bool.or_eq_true_iff.mp type with kind | kind
    · rw [eq_of_beq kind]
      decide
    · rw [eq_of_beq kind]
      decide
  unfold updateConversationFromMessage
  dsimp only
  rw [if_neg skip]
  apply ends_silent reply_spec
  · intro returned
    cases returned
  · intro r _
    exact .writes (fun _ => ⟨_, rfl⟩)

theorem entry_place (s : Store) (m : Json) (now : Number) : (conversationEntry s m now).1 = place s m := by
  unfold conversationEntry place
  dsimp only
  split_ifs <;> rfl

/-- The message is stored, then filed, before anything else is done. -/
theorem push_filing {α : Type} {f : Client Store α} (valid : validHistoryMessage m = true) (rest : Within Files f) (s : Store) :
    Ends (do
      writes (pushMessage m)
      updateConversationFromMessage m
      f) s (Filing s) := by
  apply Ends.bind (E := fun r u => r = some () ∧ u = pushMessage m s) (.writes ⟨rfl, rfl⟩)
  · intro u h
    cases h.1
  · intro _ u h
    obtain ⟨-, rfl⟩ := h
    refine (update_filed valid _).bind ?_ ?_
    · intro u _ returned
      cases returned
    · intro _ u filed
      obtain ⟨now, rfl⟩ := filed rfl
      refine ⟨fun env _ => Files.trans ?_ (rest.run _ env)⟩
      refine ⟨rfl, fun _ => assign_listed, assign_apart, id, ?_⟩
      intro x hx
      rcases List.mem_append.mp hx with old | new
      · exact .inl old
      · right
        rw [List.mem_singleton.mp new]
        change place s m ∈ (assign (conversationEntry (pushMessage m s) m now).1
          (conversationEntry (pushMessage m s) m now).2 (pushMessage m s).conversations).map Prod.fst
        rw [entry_place]
        exact assign_self _ _ _

theorem saveIncomingMessage_filing (msg : Json) (s : Store) : Ends (saveIncomingMessage msg) s (Filing s) := by
  unfold saveIncomingMessage
  split_ifs with invalid
  · exact .pure (fun _ => .refl s)
  · have valid : validHistoryMessage msg = true := by simpa using invalid
    apply Ends.bind (E := fun r u => r = some s ∧ u = s) (.reads ⟨rfl, rfl⟩)
    · intro u h
      cases h.1
    · intro _ u h
      obtain ⟨-, rfl⟩ := h
      apply Ends.ite
      · intro _
        exact filing_within ((saveThenRemember_effects files_kept _).bind (fun _ => .pure false)) u
      · intro _
        have rest : Within Files (do
            saveThenRemember (numericId msg)
            saveConversations
            pure true : Client Store Bool) := by
          apply (saveThenRemember_effects files_kept _).bind
          intro _
          exact (saveConversations_effects files_kept).bind (fun _ => .pure true)
        exact push_filing valid rest u

theorem importRecoveredMessage_filing (candidate : Option Json) (source : Json) (s : Store) :
    Ends (importRecoveredMessage candidate source) s (Filing s) := by
  cases candidate with
  | none => exact .pure (fun _ => .refl s)
  | some c =>
    apply Ends.bind (E := fun r u => r = some s ∧ u = s) (.reads ⟨rfl, rfl⟩)
    · intro u h
      cases h.1
    · intro x u h
      obtain ⟨same, rfl⟩ := h
      obtain rfl := Option.some.inj same
      apply Ends.ite (fun _ => .pure (fun _ => .refl x))
      intro accepted
      have valid : validHistoryMessage c = true := by
        simp only [Bool.or_eq_true, not_or, Bool.not_eq_true', Bool.not_eq_false] at accepted
        exact accepted.1
      apply Ends.ite (fun _ => .pure (fun _ => .refl x))
      intro _
      cases x.allMessages.find? (fun stored => numericId stored == numericId c) with
      | some existing => exact .pure (fun _ => .refl x)
      | none =>
        refine ends_silent nowS_spec (fun cut => by cases cut) ?_
        intro now _
        have copies := recoveredMessagePayload_copies x.onlineUsers c source now
        have still := valid_iff.mpr (copies.wellformed (valid_iff.mp valid))
        have rest : Within Files (do
            let _ ← saveMessages
            saveConversations
            pure ImportResult.imported : Client Store ImportResult) := by
          apply (saveMessages_effects files_kept).bind
          intro _
          exact (saveConversations_effects files_kept).bind (fun _ => .pure ImportResult.imported)
        exact push_filing still rest x

theorem openNewGroup_files (msg : Json) (s : Store) : Files s (openNewGroup msg s) := by
  unfold openNewGroup
  split_ifs
  · exact files_kept.opened s _
  · exact .refl s

theorem handleChat_filing (msg : Json) (s : Store) : Ends (handleChat msg) s (Filing s) := by
  apply filing_bind (saveIncomingMessage_filing msg s)
  intro saved
  refine .ite ?_ (.pure ())
  exact Within.bind (.writes (openNewGroup_files msg)) (fun _ => renderLast_effects files_kept)

theorem handleHistoryResponse_filing (msg : Json) (s : Store) : Ends (handleHistoryResponse msg) s (Filing s) := by
  apply Ends.bind (E := fun r u => r = some s ∧ u = s) (.reads ⟨rfl, rfl⟩)
  · intro u h
    cases h.1
  · intro x u h
    obtain ⟨same, rfl⟩ := h
    obtain rfl := Option.some.inj same
    cases x.activeRecovery with
    | none => exact .pure (fun _ => .refl x)
    | some recovery =>
      apply Ends.ite (fun _ => .pure (fun _ => .refl x))
      intro _
      apply filing_bind (importRecoveredMessage_filing _ _ x)
      intro result
      exact .ite (write_aside files_kept (fun _ => rfl)) (.pure ())

abbrev PageFiling (w : Page) : Option Unit → Page → Prop := fun r u => r.isSome = true → Files w.store u.store

variable {w : Page}

theorem onStore_filing {m : Client Store Unit} {u : Page} (same : u.store = w.store) (h : Ends m w.store (Filing w.store)) :
    Ends (onStore m) u (PageFiling w) := by
  rw [← same] at h
  constructor
  intro env returned
  rw [← same]
  exact h.run env returned

theorem page_within {m : Client Page Unit} (h : Within (OnStore Files) m) (w : Page) : Ends m w (PageFiling w) :=
  ⟨fun env _ => h.run w env⟩

theorem handleIncoming_filing (frame : Option Json) (w : Page) : Ends (handleIncoming frame) w (PageFiling w) := by
  cases frame with
  | none => exact .pure (fun _ => .refl w.store)
  | some msg =>
    apply Ends.ite (fun _ => .pure (fun _ => .refl w.store))
    intro _
    apply Ends.bind (E := fun r v => r = some () ∧ v = { w with link := noteProgress msg w.link }) (.writes ⟨rfl, rfl⟩)
    · intro v h
      cases h.1
    · intro _ v h
      obtain ⟨-, rfl⟩ := h
      have quiet : ∀ {m : Client Page Unit}, Within (OnStore Files) m →
          Ends m { w with link := noteProgress msg w.link } (PageFiling w) := fun within => page_within within _
      apply Ends.ite
      · intro _
        apply quiet
        apply Within.bind .reads
        intro s
        apply nowS_within.bind
        intro now
        exact (sendRaw_effects files_kept _).bind (fun _ => .pure ())
      · intro _
        apply Ends.ite (fun _ => quiet (handleHistoryInfo_effects files_kept msg))
        intro _
        apply Ends.ite (fun _ => quiet (handleHistoryRequest_effects files_kept msg))
        intro _
        apply Ends.ite
        · intro _
          exact onStore_filing rfl (handleHistoryResponse_filing msg w.store)
        intro response
        apply Ends.ite
        · intro presence
          have chat : validHistoryMessage msg = false := by
            by_contra valid
            have type := (valid_iff.mp (by simpa using valid)).type
            unfold isText at type presence
            rw [eq_of_beq presence] at type
            exact absurd type (by decide)
          exact quiet (handlePresence_effects files_kept (files_brings chat (by simpa using response)) presence)
        · intro _
          apply Ends.ite (fun _ => quiet (handleError_effects files_kept msg))
          intro _
          apply Ends.ite
          · intro _
            exact onStore_filing rfl (handleChat_filing msg w.store)
          · exact fun _ => .pure (fun _ => .refl w.store)

theorem onmessage_filing (s : ℕ) (frame : Option Json) (w : Page) : Ends (onmessage s frame) w (PageFiling w) := by
  apply Ends.bind (E := fun r u => r = some w.link ∧ u = w) (.reads ⟨rfl, rfl⟩)
  · intro u h
    cases h.1
  · intro l u h
    obtain ⟨-, rfl⟩ := h
    apply Ends.ite (fun _ => .pure (fun _ => .refl u.store))
    intro _
    apply Ends.bind (E := fun r v => r = some () ∧ v = { u with link := noteTraffic s u.link }) (.writes ⟨rfl, rfl⟩)
    · intro v h
      cases h.1
    · intro _ v h
      obtain ⟨-, rfl⟩ := h
      exact handleIncoming_filing frame _

theorem handle_filing (e : Event) (w : Page) : Ends (handle e) w (PageFiling w) := by
  by_cases frame : ∃ s f, e = .socketMessage s f
  · obtain ⟨s, f, rfl⟩ := frame
    exact onmessage_filing s f w
  · constructor
    intro env _
    apply handle_effects files_kept e w env
    · intro s msg same
      exact absurd ⟨s, some msg, same⟩ frame
    · intro ids _ _ now s
      exact assign_files s _ _ _

def SamePeople (s u : Store) : Prop := people u = people s

instance : Std.Refl SamePeople := ⟨fun _ => rfl⟩
instance : IsTrans Store SamePeople := ⟨fun _ _ _ h k => k.trans h⟩

theorem write_people (f : LocalStorage → LocalStorage) : Within SamePeople (writeStoredValue f) := by
  apply reply_within.bind
  intro r
  exact .ite (.bind (.writes (fun _ => rfl)) (fun _ => .pure true)) (.pure false)

theorem chooseUserId_people : Within SamePeople chooseUserId := by
  apply Within.bind .reads
  intro s
  refine .ite (.pure ()) (reply_within.bind ?_)
  intro r
  refine Within.bind (.writes (fun _ => rfl)) ?_
  intro _
  exact (write_people _).bind (fun _ => .pure ())

theorem chooseNickname_people : Within SamePeople chooseNickname := by
  apply Within.bind .reads
  intro s
  refine .ite (.pure ()) (reply_within.bind ?_)
  intro r
  exact .writes (fun _ => rfl)

theorem updateConversations_filed (ms : List Json) (valid : ∀ m ∈ ms, validHistoryMessage m = true) (s : Store) :
    Ends (updateConversations ms) s (fun r u => r.isSome = true → Files s u ∧ ∀ m ∈ ms, place s m ∈ keys u) := by
  induction ms generalizing s with
  | nil => exact .pure (fun _ => ⟨.refl s, fun _ h => nomatch h⟩)
  | cons m ms ih =>
    refine (update_filed (valid m List.mem_cons_self) s).bind ?_ ?_
    · intro u _ returned
      cases returned
    · intro _ u filed
      obtain ⟨now, rfl⟩ := filed rfl
      apply (ih (fun x hx => valid x (List.mem_cons_of_mem m hx)) _).post
      intro r v rest returned
      obtain ⟨files, placed⟩ := rest returned
      have first := assign_files s (conversationEntry s m now).1 (conversationEntry s m now).2 s.currentConversation
      refine ⟨first.trans files, ?_⟩
      intro x hx
      rcases List.mem_cons.mp hx with rfl | later
      · apply files.listed
        rw [← entry_place s x now]
        exact assign_self _ _ _
      · exact placed x later

theorem loaded_apart (s : Store) : (keys (loaded s)).Nodup := by
  have found : (((spread [] ((s.storage.conversations.map Json.members).getD [])).filter validConversation).map Prod.fst).Nodup :=
    (List.Nodup.sublist (List.filter_sublist.map _) (spread_apart (show (List.map Prod.fst ([] : Members)).Nodup from List.nodup_nil)))
  exact assign_apart found

theorem filed_orderly {x v : Store} (apart : (keys x).Nodup) (alone : (people x).Nodup)
    (same : LocalStore.SameMessages x v) (filed : Files x v ∧ ∀ m ∈ x.allMessages, place x m ∈ keys v) : Orderly v := by
  refine ⟨?_, filed.1.apart apart, filed.1.alone alone⟩
  intro m hm
  rw [same.2] at hm
  have there := filed.2 m hm
  unfold place at there ⊢
  rw [same.1]
  exact there

theorem loadState_orderly (alone : (people s).Nodup) : Ends loadState s (fun r u => r.isSome = true → Orderly u) := by
  apply Ends.bind (E := fun r u => r = some () ∧ u = loaded s) (.writes ⟨rfl, rfl⟩)
  · intro u h
    cases h.1
  · intro _ u h
    obtain ⟨-, rfl⟩ := h
    have saved : Ends saveMessages (loaded s) (fun r u => r.isSome = true → (keys u).Nodup ∧ (people u).Nodup ∧
        ∀ m ∈ u.allMessages, validHistoryMessage m = true) := by
      constructor
      intro env returned
      have files := (saveMessages_effects files_kept).run (loaded s) env
      obtain ⟨a, ha⟩ := Option.isSome_iff_exists.mp returned
      have kept := (LocalStore.saveMessages_leaves (loaded s) env).2 a ha
      refine ⟨files.apart (loaded_apart s), files.alone alone, ?_⟩
      intro m hm
      rw [kept.2] at hm
      exact (List.mem_filter.mp ((mem_retain _ m).mp (.inl hm))).2
    refine saved.bind (fun _ _ cut => by cases cut) ?_
    intro done u sound
    obtain ⟨apart, alone, valid⟩ := sound rfl
    apply Ends.bind (E := fun r v => r = some u ∧ v = u) (.reads ⟨rfl, rfl⟩)
    · intro v h
      cases h.1
    · intro x v h
      obtain ⟨same, rfl⟩ := h
      obtain rfl := Option.some.inj same
      have filed : ∀ x' : Store, (keys x').Nodup → (people x').Nodup → x'.userId = x.userId → x'.allMessages = x.allMessages →
          Ends (updateConversations x.allMessages) x' (fun r v => r.isSome = true → Orderly v) := by
        intro x' apart alone user messages
        constructor
        intro env returned
        have there := (updateConversations_filed x.allMessages valid x').run env returned
        have same := (LocalStore.updateConversations_messages x.allMessages).run x' env
        rw [← messages] at there
        rw [← messages] at same ⊢
        exact filed_orderly apart alone same there
      apply Ends.ite
      · intro _
        have stored : Ends (storeCursor x.lastSeenId) x (fun _ v => (keys v).Nodup ∧ (people v).Nodup ∧
            LocalStore.SameMessages x v) := by
          constructor
          intro env
          have files := (storeCursor_effects files_kept x.lastSeenId).run x env
          exact ⟨files.apart apart, files.alone alone, (LocalStore.writeStoredValue_messages _).run x env⟩
        refine stored.bind (fun _ _ cut => by cases cut) ?_
        intro _ v h
        exact filed v h.1 h.2.1 h.2.2.1 h.2.2.2
      · intro _
        exact filed x apart alone rfl rfl

theorem startStore_orderly (alone : (people s).Nodup) : Ends startStore s (fun r u => r.isSome = true → Orderly u) := by
  have still : ∀ {α : Type} {m : Client Store α}, Within SamePeople m → ∀ s, (people s).Nodup →
      Ends m s (fun _ u => (people u).Nodup) := by
    intro α m within s alone
    constructor
    intro env
    have same : people (m env s).world = people s := within.run s env
    rw [same]
    exact alone
  refine (still chooseUserId_people s alone).bind (fun _ _ cut => by cases cut) ?_
  intro _ u alone
  refine (still chooseNickname_people u alone).bind (fun _ _ cut => by cases cut) ?_
  intro _ v alone
  refine (loadState_orderly alone).bind (fun _ _ cut => by cases cut) ?_
  intro _ x orderly
  have rest : Within Files (do
      writes (fun s => { s with currentConversation := (s.conversations.lookup "global").getD s.currentConversation })
      renderLast) :=
    Within.bind (.writes (fun s => files_kept.opened s "global")) (fun _ => renderLast_effects files_kept)
  exact ⟨fun env _ => (orderly rfl).files (rest.run x env)⟩

variable {location : Location} {boots : (ℕ → Reply) → Prop} {permits : Event → (ℕ → Reply) → Page → Prop} {t : Tab}
  {storage : LocalStorage}

theorem load_orderly (env : ℕ → Reply) (t : Tab) (running : (load location env t).running = true) :
    Orderly (load location env t).page.store :=
  (startStore_orderly (s := (freshPage location t.page).store) List.nodup_nil).run env running

/-- Every page that runs is in order, whatever it is told and however it was left before. -/
theorem run_orderly (run : ReflTransGen (Next location boots permits) (firstTab location storage) t) :
    t.running = true → Orderly t.page.store := by
  induction run with
  | refl =>
    intro running
    cases running
  | tail _ next ih =>
    cases next with
    | load env _ _ => exact load_orderly env _
    | step e env _ _ =>
      unfold step
      split_ifs with running
      · exact fun returned => (ih running).files ((handle_filing e _).run env returned)
      · exact ih

end EspWebChat.ConversationFiling
