import EspWebChat.PageSteps

set_option autoImplicit false

/-!
# What a page does when it is loaded

Until the stored messages are read the storage keeps what the page before has left in it.
-/
namespace EspWebChat.StartSteps
open Relation JsonTree JsValues ClientMessages Interruptible BrowserWorld ClientStore ClientSocket
open StoreSteps LinkStates PageSteps

def savedMessages (a : Archive) : List Json := (itemsOf a.storedMessages).filter validHistoryMessage

def savedCursor (a : Archive) : ℕ := (a.storedCursor.bind safeNat).getD 0

def restartCursor (a : Archive) : ℕ := max (savedCursor a) (localMaxId (savedMessages a))

def reloaded (a : Archive) : Archive :=
  { a with allMessages := savedMessages a, lastSeenId := restartCursor a }

/-- The stored messages and the stored cursor are those of `a`. -/
structure SameSaved (a b : Archive) : Prop where
  messages : b.storedMessages = a.storedMessages
  cursor : b.storedCursor = a.storedCursor
  pruned : b.pruned = a.pruned

theorem SameSaved.savedMessages {a b : Archive} (h : SameSaved a b) : savedMessages b = savedMessages a := by
  unfold StartSteps.savedMessages
  rw [h.messages]

theorem SameSaved.restartCursor {a b : Archive} (h : SameSaved a b) : restartCursor b = restartCursor a := by
  unfold StartSteps.restartCursor savedCursor
  rw [h.savedMessages, h.cursor]

section
variable {K L : Archive → Prop} {s : Store}

/-- A write of the start: `K` holds after it. -/
def StartStep (K : Archive → Prop) (u v : Store) : Prop := K (archive v) ∧ (RecoveryTimed u → RecoveryTimed v)

theorem chooseUserId_spec (idle : ∀ b, SameSaved (archive s) b → K b) :
    Traces (StartStep K) chooseUserId s
      (fun _ u => SameSaved (archive s) (archive u) ∧ u.activeRecovery = s.activeRecovery) := by
  have same : ∀ {u : Store}, SameSaved (archive s) (archive u) → u.activeRecovery = s.activeRecovery →
      StartStep K s u := by
    intro u saved recovery
    refine ⟨idle _ saved, ?_⟩
    unfold RecoveryTimed
    rw [recovery]
    exact fun h => h
  apply current_spec.bind
  intro a u _ h
  obtain ⟨rfl, rfl⟩ := h
  apply Traces.ite
  · intro _
    exact .pure ⟨⟨rfl, rfl, rfl⟩, rfl⟩
  · intro _
    apply reply_spec.bind
    intro r v _ hv
    subst hv
    apply (Traces.writes (P := fun _ x => x = { v with userId := r.uuid }) (same ⟨rfl, rfl, rfl⟩ rfl) rfl).bind
    intro _ x _ hx
    subst hx
    have stored : StartStep K { v with userId := r.uuid }
        { v with userId := r.uuid, storage := { v.storage with userId := some r.uuid } } :=
      ⟨idle _ ⟨rfl, rfl, rfl⟩, fun h => h⟩
    apply (writeStoredValue_spec stored).bind
    intro done y _ hy
    subst hy
    cases done with
    | false => exact .pure ⟨⟨rfl, rfl, rfl⟩, rfl⟩
    | true => exact .pure ⟨⟨rfl, rfl, rfl⟩, rfl⟩

theorem chooseNickname_spec (idle : ∀ b, SameSaved (archive s) b → K b) :
    Traces (StartStep K) chooseNickname s (fun _ u => SameSaved (archive s) (archive u)) := by
  apply current_spec.bind
  intro a u _ h
  obtain ⟨rfl, rfl⟩ := h
  apply Traces.ite
  · intro _
    exact .pure ⟨rfl, rfl, rfl⟩
  · intro _
    apply reply_spec.bind
    intro r v _ hv
    subst hv
    exact .writes ⟨idle _ ⟨rfl, rfl, rfl⟩, fun h => h⟩ ⟨rfl, rfl, rfl⟩

theorem updateConversations_spec (T : Traffic) (ms : List Json) :
    Traces (StoreStep T) (updateConversations ms) s (fun _ _ => True) := by
  induction ms generalizing s with
  | nil => exact .pure trivial
  | cons msg ms ih =>
    apply (updateConversationFromMessage_spec msg).bind
    intro _ u _ _
    exact ih

theorem firstSave_spec (T : Traffic) : Traces (StoreStep T) (do
    let saved ← saveMessages
    let s ← current
    if saved then do
      let _ ← storeCursor s.lastSeenId
      updateConversations s.allMessages
    else updateConversations s.allMessages) s (fun _ _ => True) := by
  apply saveMessages_spec.bind
  intro saved u _ _
  apply current_spec.bind
  intro a v _ h
  obtain ⟨rfl, rfl⟩ := h
  apply Traces.ite
  · intro _
    apply (storeCursor_spec v.lastSeenId rfl).bind
    intro _ x _ _
    exact updateConversations_spec T _
  · intro _
    exact updateConversations_spec T _

theorem afterLoading {α : Type} {m : Client Store α} {P : α → Store → Prop}
    (keep : ∀ a b, Move .none a b → L a → L b) (weaken : ∀ a, L a → K a) (start : L (archive s))
    (h : Traces (StoreStep .none) m s P) : Traces (StartStep K) m s (fun _ u => L (archive u)) := by
  have moved : ∀ u v : Store, L (archive u) → StoreStep .none u v → L (archive v) :=
    fun u v hu step => keep _ _ step.move hu
  apply (h.keeping (fun u => L (archive u)) start moved).whilst (fun u => L (archive u)) start moved |>.steps
  intro u v both
  exact ⟨weaken _ (moved u v both.1 both.2), both.2.timed⟩

/-- The rule for the start of a page: `K` holds throughout, `L` once the messages are read. -/
theorem startStore_spec (idle : ∀ b, SameSaved (archive s) b → K b)
    (loads : ∀ b, SameSaved (archive s) b → L (reloaded b))
    (keep : ∀ a b, Move .none a b → L a → L b) (weaken : ∀ a, L a → K a) :
    Traces (StartStep K) startStore s (fun _ u => L (archive u)) := by
  apply (chooseUserId_spec idle).bind
  intro _ u _ hu
  have later : ∀ {v b : Archive}, SameSaved (archive s) v → SameSaved v b → SameSaved (archive s) b :=
    fun h k => ⟨k.messages.trans h.messages, k.cursor.trans h.cursor, k.pruned.trans h.pruned⟩
  apply (chooseNickname_spec (fun b hb => idle b (later hu.1 hb))).bind
  intro _ v _ hv
  have saved := later hu.1 hv
  apply Traces.bind (P := fun _ x => L (archive x))
  · have reads : L (archive (loaded v)) := loads _ saved
    apply (Traces.writes (P := fun _ x => x = loaded v) ⟨weaken _ reads, fun h => h⟩ rfl).bind
    intro _ x _ hx
    subst hx
    exact afterLoading keep weaken reads (firstSave_spec .none)
  · intro _ x _ hx
    apply afterLoading keep weaken hx
    exact writeThenRender rfl rfl (fun _ => renderLast_spec)

end

def freshArchive (w : Page) : Archive := archive (freshStore w.store.storage w.store.pruned)

/-- What every load establishes: `K` in any case, `L` and a client that is attended to when
    the page runs. -/
theorem load_good {K L : Archive → Prop} {p : Prop} (location : Location) (env : ℕ → Reply) (t : Tab)
    (idle : ∀ b, SameSaved (archive t.page.store) b → K b)
    (loads : ∀ b, SameSaved (archive t.page.store) b → L (reloaded b))
    (keep : ∀ a b, Move .none a b → L a → L b) (weaken : ∀ a, L a → K a) :
    K (archive (load location env t).page.store) ∧
      ((load location env t).running = true →
        L (archive (load location env t).page.store) ∧ Good p (load location env t).page) := by
  have same : ∀ {b : Archive}, SameSaved (freshArchive t.page) b → SameSaved (archive t.page.store) b :=
    fun h => ⟨h.messages, h.cursor, h.pruned⟩
  have run : Traces (fun u v : Page => StartStep K u.store v.store) (onStore startStore) (freshPage location t.page)
      (fun _ u => L (archive u.store) ∧ u.link = freshLink location) := by
    apply (Traces.zoom (fun _ _ => rfl) (fun _ => rfl) (startStore_spec (s := (freshPage location t.page).store)
      (fun b hb => idle b (same hb)) (fun b hb => loads b (same hb)) keep weaken) (fun _ _ step => step)).post
    intro _ u _ hu
    obtain ⟨hl, v, rfl⟩ := hu
    exact ⟨hl, rfl⟩
  have always : K (archive (load location env t).page.store) :=
    run.invariant (fun u => K (archive u.store)) (fun _ _ _ step => step.1) (idle _ ⟨rfl, rfl, rfl⟩) env
  have timed : RecoveryTimed (load location env t).page.store := by
    refine run.invariant (fun u => RecoveryTimed u.store) (fun _ _ hu step => step.2 hu) ?_ env
    intro r hr
    cases hr
  refine ⟨always, ?_⟩
  intro running
  obtain ⟨a, ha⟩ := Option.isSome_iff_exists.mp running
  have final := (run env).2 a ha
  refine ⟨final.1, timed, ?_⟩
  rw [show (load location env t).page.link = freshLink location from final.2]
  exact freshLink_attended location

end EspWebChat.StartSteps
