import GipMultiplayer.Exec

/-!
# Join attempts and the backend in place

`NetworkManager` has one backend.  The main thread replaces it in `hostLobby`,
`useBackend`, `joinLobby` and the tick of `update` that carries out a
`disconnect`; a join attempt runs on a thread of its own and installs its
backend when it is through, unless `joinGeneration` has moved on.  Three of the
four advance the generation.  The tick that carries out a disconnect does not,
so an attempt still in flight installs itself over the disconnect.

* `LatestInstalls` — the law: the backend in place belongs to the latest of the
  four, and an attempt installs only as the latest;
* `Settled` — the condition on each step;
* `latest_installs` — the law in every run under the condition;
* `stale_attempt_installs` — a join that ends after a disconnect.
-/

namespace Manager

/-- A join attempt in flight: the generation `beginJoin` gave it, and the
number of the action that started it. -/
structure Attempt where
  serial : Nat
  generation : Nat
  deriving DecidableEq, Repr

/-- The part of `NetworkManager` that has to do with its backend.  Actions are
numbered in the order in which they take place, `latest` is the last of them,
and a backend is named by the action it belongs to.  `pending` is the backend
`hostLobby` or `useBackend` is about to set.  The generation has 64 bits in the
source; it is a number here, as long as fewer than `2 ^ 64` joins are begun. -/
structure NetworkManager where
  joinGeneration : Nat := 0
  backend : Option Nat := none
  wantsDisconnect : Bool := false
  disconnectPending : Bool := false
  hostMode : Bool := false
  pending : Option Nat := none
  attempts : List Attempt := []
  latest : Nat := 0
  deriving DecidableEq, Repr

/-- `beginJoin`: drop the backend and advance the generation. -/
def beginJoin (nm : NetworkManager) : NetworkManager :=
  { nm with
    disconnectPending := false
    backend := none
    joinGeneration := nm.joinGeneration + 1
    latest := nm.latest + 1 }

/-- `hostLobby` up to its `setBackend`. -/
def hostLobby (nm : NetworkManager) : NetworkManager :=
  let nm := beginJoin nm
  { nm with wantsDisconnect := false, hostMode := true, pending := some nm.latest }

/-- `useBackend` up to its `setBackend`. -/
def useBackend (nm : NetworkManager) : NetworkManager :=
  let nm := beginJoin nm
  { nm with wantsDisconnect := false, disconnectPending := false, pending := some nm.latest }

/-- `joinLobby`: the attempt starts. -/
def joinLobby (nm : NetworkManager) : NetworkManager :=
  let nm := beginJoin nm
  { nm with
    wantsDisconnect := false
    hostMode := false
    attempts := nm.attempts ++ [⟨nm.latest, nm.joinGeneration⟩] }

/-- `setBackend`, of `hostLobby` and `useBackend`. -/
def setBackend (nm : NetworkManager) (next : Nat) : NetworkManager :=
  { nm with backend := some next, pending := none }

/-- The part of `update` that carries out a disconnect. -/
def update (nm : NetworkManager) : NetworkManager :=
  if nm.wantsDisconnect then
    { nm with backend := none, wantsDisconnect := false, latest := nm.latest + 1 }
  else nm

/-- `installBackend`, for an attempt that is through. -/
def installBackend (nm : NetworkManager) (attempt : Attempt) : NetworkManager :=
  if attempt.generation ≠ nm.joinGeneration then nm
  else { nm with backend := some attempt.serial }

/-- What happens: a call on the main thread, its `setBackend` a little later, a
tick, a connection lost with no one listening, or an attempt that ends, with a
backend or without. -/
inductive Action
  | hostLobby
  | useBackend
  | setBackend
  | joinLobby
  | disconnect
  | update
  | lost
  | complete (attempt : Attempt) (joined : Bool)
  deriving DecidableEq, Repr

/-- One step.  While `hostLobby` or `useBackend` is under way the main thread
does nothing else, but attempts may end. -/
def step (nm : NetworkManager) : Action → Option NetworkManager
  | .hostLobby => if nm.pending = none then some (hostLobby nm) else none
  | .useBackend => if nm.pending = none then some (useBackend nm) else none
  | .setBackend => nm.pending.map (setBackend nm)
  | .joinLobby => if nm.pending = none then some (joinLobby nm) else none
  | .disconnect =>
      if nm.pending = none then some { nm with wantsDisconnect := true } else none
  | .update => if nm.pending = none then some (update nm) else none
  | .lost => some { nm with disconnectPending := true }
  | .complete attempt joined =>
      if attempt ∈ nm.attempts then
        let nm := { nm with attempts := nm.attempts.erase attempt }
        some (if joined then installBackend nm attempt else nm)
      else none

/-! ## The law -/

/-- **Only the latest intention installs a backend**: the backend in place
belongs to the latest action, and an attempt that ends with its backend in
place has seen no other action since it started. -/
structure LatestInstalls (nm : NetworkManager) (a : Action) (nm' : NetworkManager) : Prop where
  inPlace : ∀ n ∈ nm'.backend, n = nm'.latest
  installs : ∀ attempt joined, a = .complete attempt joined →
    nm'.backend = some attempt.serial → attempt.serial = nm.latest

/-- **The condition of the law**: a disconnect is not carried out while the
attempt of the current generation is in flight. -/
def Settled (nm : NetworkManager) : Action → Prop
  | .update => nm.wantsDisconnect = true →
      ∀ attempt ∈ nm.attempts, attempt.generation ≠ nm.joinGeneration
  | _ => True

instance (nm : NetworkManager) : (a : Action) → Decidable (Settled nm a)
  | .update => inferInstanceAs (Decidable (_ → ∀ attempt ∈ nm.attempts, _))
  | .hostLobby | .useBackend | .setBackend | .joinLobby | .disconnect | .lost
  | .complete _ _ => .isTrue trivial

/-! ## The invariant -/

/-- **The invariant**: no attempt is of a later generation, one of the current
generation was started by the latest action, and so was the backend, in place
or about to be set. -/
structure Inv (nm : NetworkManager) : Prop where
  generation : ∀ attempt ∈ nm.attempts, attempt.generation ≤ nm.joinGeneration
  current : ∀ attempt ∈ nm.attempts, attempt.generation = nm.joinGeneration →
    attempt.serial = nm.latest
  backend : ∀ n ∈ nm.backend, n = nm.latest
  pending : ∀ n ∈ nm.pending, n = nm.latest

variable {nm nm' : NetworkManager}

/-- After `beginJoin` every attempt in flight is of an earlier generation. -/
theorem Inv.beginJoin (h : Inv nm) (hidle : nm.pending = none) : Inv (beginJoin nm) where
  generation attempt hattempt := Nat.le_succ_of_le (h.generation attempt hattempt)
  current attempt hattempt hcurrent := by
    have hold := h.generation attempt hattempt
    have hnow : attempt.generation = nm.joinGeneration + 1 := hcurrent
    omega
  backend n hn := by cases hn
  pending n hn := by
    have hpending : nm.pending = some n := hn
    rw [hidle] at hpending
    cases hpending

/-- `hostLobby` and `useBackend` are about to set the backend of the latest
action. -/
theorem Inv.announce (h : Inv nm) (hidle : nm.pending = none)
    (wantsDisconnect disconnectPending hostMode : Bool) :
    Inv { Manager.beginJoin nm with
      wantsDisconnect := wantsDisconnect
      disconnectPending := disconnectPending
      hostMode := hostMode
      pending := some (Manager.beginJoin nm).latest } := by
  have hbegun := h.beginJoin hidle
  refine ⟨hbegun.generation, hbegun.current, hbegun.backend, fun n hn => ?_⟩
  exact (Option.some.inj hn).symm

/-- The attempt `joinLobby` starts is of the current generation. -/
theorem Inv.joinLobby (h : Inv nm) (hidle : nm.pending = none) : Inv (joinLobby nm) := by
  have hbegun := h.beginJoin hidle
  constructor
  · intro attempt hattempt
    rcases List.mem_append.mp hattempt with hold | hnew
    · exact hbegun.generation attempt hold
    · rw [List.mem_singleton.mp hnew]
      exact Nat.le_refl _
  · intro attempt hattempt hcurrent
    rcases List.mem_append.mp hattempt with hold | hnew
    · exact hbegun.current attempt hold hcurrent
    · rw [List.mem_singleton.mp hnew]
      rfl
  · exact hbegun.backend
  · exact hbegun.pending

/-- A disconnect is carried out with no current attempt in flight. -/
theorem Inv.update (h : Inv nm) (hidle : nm.pending = none) (hsettled : Settled nm .update) :
    Inv (update nm) := by
  unfold Manager.update
  split_ifs with hwants
  · refine ⟨h.generation, fun attempt hattempt hcurrent => ?_, fun n hn => (by cases hn),
      fun n hn => ?_⟩
    · exact absurd hcurrent (hsettled hwants attempt hattempt)
    · have hpending : nm.pending = some n := hn
      rw [hidle] at hpending
      cases hpending
  · exact h

/-- An attempt ends. -/
theorem Inv.complete (h : Inv nm) {attempt : Attempt} (hattempt : attempt ∈ nm.attempts) :
    Inv { nm with attempts := nm.attempts.erase attempt } ∧
      Inv (installBackend { nm with attempts := nm.attempts.erase attempt } attempt) := by
  have hended : Inv { nm with attempts := nm.attempts.erase attempt } :=
    ⟨fun other hother => h.generation other (List.mem_of_mem_erase hother),
      fun other hother => h.current other (List.mem_of_mem_erase hother), h.backend, h.pending⟩
  refine ⟨hended, ?_⟩
  unfold installBackend
  split_ifs with hstale
  · exact hended
  · refine ⟨hended.generation, hended.current, fun n hn => ?_, hended.pending⟩
    rw [← Option.some.inj hn]
    exact h.current attempt hattempt (not_not.mp hstale)

theorem Inv.start : Inv {} := by
  constructor
  · intro attempt hattempt
    cases hattempt
  · intro attempt hattempt
    cases hattempt
  · intro n hn
    cases hn
  · intro n hn
    cases hn

/-- **What each settled step keeps.** -/
theorem Inv.step {a : Action} (h : Inv nm) (hsettled : Settled nm a)
    (hstep : step nm a = some nm') : Inv nm' := by
  unfold Manager.step at hstep
  cases a with
  | hostLobby =>
      dsimp only at hstep
      split_ifs at hstep with hidle
      cases hstep
      exact h.announce hidle _ _ _
  | useBackend =>
      dsimp only at hstep
      split_ifs at hstep with hidle
      cases hstep
      exact h.announce hidle _ _ _
  | setBackend =>
      obtain ⟨next, hnext, rfl⟩ := Option.map_eq_some_iff.mp hstep
      refine ⟨h.generation, h.current, fun n hn => ?_, fun n hn => by cases hn⟩
      rw [← Option.some.inj hn]
      exact h.pending next hnext
  | joinLobby =>
      dsimp only at hstep
      split_ifs at hstep with hidle
      cases hstep
      exact h.joinLobby hidle
  | disconnect =>
      dsimp only at hstep
      split_ifs at hstep
      cases hstep
      exact ⟨h.generation, h.current, h.backend, h.pending⟩
  | update =>
      dsimp only at hstep
      split_ifs at hstep with hidle
      cases hstep
      exact h.update hidle hsettled
  | lost =>
      cases hstep
      exact ⟨h.generation, h.current, h.backend, h.pending⟩
  | complete attempt joined =>
      dsimp only at hstep
      split_ifs at hstep with hattempt hjoined
      · cases hstep
        exact (h.complete hattempt).2
      · cases hstep
        exact (h.complete hattempt).1

/-! ## Runs -/

/-- **Only the latest intention installs a backend**, in every run whose steps
meet the condition. -/
theorem latest_installs {nm nm' : NetworkManager} {a : Action}
    (h : Exec.ReachedAlong step Settled {} nm) (hsettled : Settled nm a)
    (hstep : step nm a = some nm') : LatestInstalls nm a nm' := by
  have hinv : Inv nm := h.invariant Inv Inv.start fun nm a nm' hinv hsettled hstep =>
    hinv.step hsettled hstep
  have hinv' : Inv nm' := hinv.step hsettled hstep
  refine ⟨hinv'.backend, fun attempt joined haction hplace => ?_⟩
  subst haction
  have hlatest : nm'.latest = nm.latest := by
    unfold step at hstep
    dsimp only at hstep
    split_ifs at hstep
    · cases hstep
      unfold installBackend
      split_ifs <;> rfl
    · cases hstep
      rfl
  exact (hinv'.backend attempt.serial hplace).trans hlatest

/-- Two joins, the second of which is through first; the first is discarded. -/
theorem latest_installs_two_joins :
    ∃ nm nm' : NetworkManager, LatestInstalls nm (.complete ⟨1, 1⟩ true) nm' ∧
      nm'.backend = some 2 ∧ nm'.latest = 2 := by
  let run : List Action := [.joinLobby, .joinLobby, .complete ⟨2, 2⟩ true]
  obtain ⟨nm, hnm, hout⟩ : ∃ nm, Exec.exec step {} run = some nm ∧
      decide (∃ nm' ∈ step nm (.complete ⟨1, 1⟩ true),
        nm'.backend = some 2 ∧ nm'.latest = 2) = true :=
    Exec.exec_any (by decide)
  obtain ⟨nm', hstep, hplace⟩ := of_decide_eq_true hout
  exact ⟨nm, nm', latest_installs ⟨run, hnm, by decide⟩ trivial hstep, hplace⟩

/-- **A stale attempt installs.**  The player gives up a join that takes too
long; the join is through after the disconnect was carried out, and the player
is back in the lobby it left. -/
theorem stale_attempt_installs :
    ¬ ∀ (nm nm' : NetworkManager) (a : Action), Exec.Reached step {} nm →
      step nm a = some nm' → LatestInstalls nm a nm' := by
  let run : List Action := [.joinLobby, .disconnect, .update]
  obtain ⟨nm, hnm, hout⟩ : ∃ nm, Exec.exec step {} run = some nm ∧
      decide (∃ nm' ∈ step nm (.complete ⟨1, 1⟩ true),
        nm'.backend = some 1 ∧ nm'.latest = 2) = true :=
    Exec.exec_any (by decide)
  obtain ⟨nm', hstep, hplace, hlatest⟩ := of_decide_eq_true hout
  intro hlaw
  have hinstalls := hlaw nm nm' (.complete ⟨1, 1⟩ true) ⟨run, hnm⟩ hstep
  have hsame := hinstalls.inPlace 1 hplace
  rw [hlatest] at hsame
  cases hsame

end Manager
