import EspWebChat.ServerWorld

set_option autoImplicit false

/-! # `storage/message_id_store.c` -/
namespace EspWebChat.MessageIdStore
open Interruptible ServerWorld

variable {cfg : Config}

/-- A namespace without keys counts as absent: the loader treats both answers alike. -/
def nvsOpenReadonly : Server cfg EspErr := do
  let r ← reply
  match r.nvs.error with
  | some e => pure e.val
  | none => reads (fun w => if w.nvs.cached = ⟨none, none⟩ then .nvsNotFound else .ok)

def nvsOpenReadwrite : Server cfg EspErr := do
  let r ← reply
  match r.nvs.error with
  | some e => pure e.val
  | none => pure .ok

/-- The second component is `*value` after the call, which starts as 0. -/
def nvsGetCurrent : Server cfg (EspErr × ℕ) := do
  let r ← reply
  match r.nvs.error with
  | some e => pure (e.val, 0)
  | none => reads (fun w => match w.nvs.cached.current with
    | some v => (.ok, v)
    | none => (.nvsNotFound, 0))

def nvsSet (f : NvsStore → NvsStore) : Server cfg EspErr := do
  let r ← reply
  writes (fun w => { w with nvs := {
    cached := if r.nvs.error.isNone || r.nvs.written then f w.nvs.cached else w.nvs.cached
    flash := if r.nvs.written then f w.nvs.flash else w.nvs.flash } })
  match r.nvs.error with
  | some e => pure e.val
  | none => pure .ok

def nvsCommit : Server cfg EspErr := do
  let r ← reply
  writes (fun w => { w with nvs := { w.nvs with
    flash := if r.nvs.error.isNone || r.nvs.written then w.nvs.cached else w.nvs.flash } })
  match r.nvs.error with
  | some e => pure e.val
  | none => pure .ok

def setCurrent (v : ℕ) (s : NvsStore) : NvsStore := { s with current := some v }
def setBootStart (v : ℕ) (s : NvsStore) : NvsStore := { s with bootStart := some v }

def chatMessageIdsPersist (currentId bootStartId : ℕ) : Server cfg EspErr := do
  let opened ← nvsOpenReadwrite
  if opened ≠ .ok then pure opened
  else do
    let first ← nvsSet (setCurrent currentId)
    if first ≠ .ok then pure first
    else do
      let second ← nvsSet (setBootStart bootStartId)
      if second ≠ .ok then pure second
      else nvsCommit

structure MessageIdState where
  bootStartId : ℕ
  currentId : ℕ
  counterLoaded : Bool
  deriving DecidableEq, Repr

def bootStartOf (currentId : ℕ) : ℕ :=
  if currentId < chatMessageMaxSafeId then currentId + 1 else chatMessageMaxSafeId

/-- A failed persist at the end is reported, but the state counts as loaded. -/
def chatMessageIdsLoad : Server cfg (EspErr × MessageIdState) := do
  let opened ← nvsOpenReadonly
  let (ret, value) ← (if opened = .ok then nvsGetCurrent else pure (opened, 0))
  if ret ≠ .ok ∧ ret ≠ .nvsNotFound then pure (ret, ⟨1, 0, false⟩)
  else do
    let currentId := min (if ret = .nvsNotFound then 0 else value) chatMessageMaxSafeId
    let persisted ← chatMessageIdsPersist currentId (bootStartOf currentId)
    pure (persisted, ⟨bootStartOf currentId, currentId, true⟩)

end EspWebChat.MessageIdStore
