import GipMultiplayer.Exec
import Mathlib.Data.Rat.Defs
import Mathlib.Algebra.Order.Ring.Rat
import Mathlib.Data.List.Nodup
import Mathlib.Logic.Function.Basic
import Mathlib.Tactic.SplitIfs

/-!
# One disconnect for each connection

How a client learns that its connection is gone.  A backend reports it once,
whether the transport raises an event, the check of a punched session finds it
dead or the host stays silent; the report goes to the handler of
`NetworkManager`, or waits until one is registered.  `disconnect()` is carried
out by the next `update`, which calls the handler itself.  Main-thread calls
made from inside a callback, the join thread and the network thread come in
between the steps of an update.

* `NetworkManager.step` — one step;
* `Inv` — who has been told and who may still be;
* `Unreported` — the condition on each disconnect that is carried out;
* `disconnect_once` — the law in every run under the condition;
* `disconnect_twice` — a `disconnect()` after the backend has reported.
-/

namespace Remote

/-- A client backend: its session, the silence so far in seconds, the packets
in its queue and the `notifyDisconnected` tasks among its main-thread tasks. -/
structure Backend where
  session : Bool := false
  alive : Bool := true
  sessionadopted : Bool := false
  disconnectNotified : Bool := false
  timeSinceLastKeepAlive : ℚ := 0
  packetQueue : Nat := 0
  mainThreadTasks : Nat := 0

/-- Where an update is: before it looks for the backend, in the backend's
`GameBackend::update` with packets and tasks still to run, or past it. -/
inductive Phase
  | pickup
  | running (backend packets tasks : Nat)
  | checking (backend : Nat)
  deriving DecidableEq, Repr

/-- The backend an update is working on. -/
def Phase.active : Phase → Option Nat
  | .pickup => none
  | .running backend _ _ => some backend
  | .checking backend => some backend

/-- `STALLED_FRAME_SECONDS`. -/
def stalledFrameSeconds : ℚ := 1 / 4

/-- The silence after which a client gives its host up, in seconds. -/
def silenceSeconds : ℚ := 8

/-- The manager.  Backends are numbered in the order they were installed.
`onDisconnected` says whether a handler is registered, `disconnectPending` whose
report waits for one, `last` which backend was installed last since the last
join began, and `invoked` for which backends the handler was invoked. -/
structure NetworkManager where
  onDisconnected : Bool := false
  wantsDisconnect : Bool := false
  disconnectPending : Option Nat := none
  backend : Option Nat := none
  joining : Bool := false
  frame : Option (ℚ × Phase) := none
  backends : Nat → Backend := fun _ => {}
  installs : Nat := 0
  last : Option Nat := none
  invoked : List Nat := []

/-- What happens: calls of the game, the join thread, the network thread, and
the steps of an update. -/
inductive ClientAction
  | setOnDisconnected (handler : Bool)
  | disconnect
  | joinLobby
  | installBackend
  | adoptSession (b : Nat)
  | enqueuePacket (b : Nat)
  | transportDisconnected (b : Nat)
  | sessionDies (b : Nat)
  | begin (deltaTime : ℚ)
  | pickup
  | packet
  | task
  | clocks
  | check

namespace NetworkManager

/-- Change one backend. -/
def modifyBackend (s : NetworkManager) (b : Nat) (f : Backend → Backend) : NetworkManager :=
  { s with backends := Function.update s.backends b (f (s.backends b)) }

/-- The callback that `wireBackend` gives a backend. -/
def report (s : NetworkManager) (b : Nat) : NetworkManager :=
  if s.onDisconnected then { s with invoked := s.invoked ++ [b] }
  else { s with disconnectPending := some b }

/-- The backend latches the disconnect and reports it. -/
def notify (s : NetworkManager) (b : Nat) : NetworkManager :=
  (s.modifyBackend b fun backend => { backend with disconnectNotified := true }).report b

/-- `setOnDisconnected`: a waiting report is delivered to the new handler. -/
def setOnDisconnected (s : NetworkManager) (handler : Bool) : NetworkManager :=
  match handler, s.disconnectPending with
  | true, some b =>
      { s with onDisconnected := true, disconnectPending := none, invoked := s.invoked ++ [b] }
  | handler, _ => { s with onDisconnected := handler }

/-- The start of `update`: a disconnect that was asked for is carried out. -/
def begin (s : NetworkManager) (deltaTime : ℚ) : NetworkManager :=
  if s.wantsDisconnect then
    { s with
      backend := none
      wantsDisconnect := false
      invoked := if s.onDisconnected then s.invoked ++ s.last.toList else s.invoked
      frame := some (deltaTime, .pickup) }
  else { s with frame := some (deltaTime, .pickup) }

/-- The clocks of `GameBackend::update`: a stalled frame resets the silence,
another one lengthens it. -/
def clocks (s : NetworkManager) (deltaTime : ℚ) (b : Nat) : NetworkManager :=
  if deltaTime > stalledFrameSeconds then
    s.modifyBackend b fun backend => { backend with timeSinceLastKeepAlive := 0 }
  else
    let s := s.modifyBackend b fun backend =>
      { backend with timeSinceLastKeepAlive := backend.timeSinceLastKeepAlive + deltaTime }
    if (s.backends b).timeSinceLastKeepAlive > silenceSeconds ∧
        (s.backends b).disconnectNotified = false then s.notify b
    else s

/-- The end of `GameBackendRemote::update`: a session that was adopted and has
died is reported by a task. -/
def check (s : NetworkManager) (b : Nat) : NetworkManager :=
  let backend := s.backends b
  if backend.session ∧ backend.alive then s
  else if backend.sessionadopted ∧ backend.disconnectNotified = false then
    s.modifyBackend b fun backend => { backend with mainThreadTasks := backend.mainThreadTasks + 1 }
  else s

/-- One step. -/
def step (s : NetworkManager) : ClientAction → Option NetworkManager
  | .setOnDisconnected handler => some (s.setOnDisconnected handler)
  | .disconnect => some { s with wantsDisconnect := true }
  | .joinLobby =>
      some { s with
        wantsDisconnect := false
        disconnectPending := none
        backend := none
        last := none
        joining := true }
  | .installBackend =>
      if s.joining then
        some { s with
          backends := Function.update s.backends s.installs {}
          backend := some s.installs
          last := some s.installs
          installs := s.installs + 1
          joining := false }
      else none
  | .adoptSession b =>
      some (s.modifyBackend b fun backend =>
        { backend with session := true, sessionadopted := true })
  | .enqueuePacket b =>
      some (s.modifyBackend b fun backend =>
        { backend with packetQueue := backend.packetQueue + 1 })
  | .transportDisconnected b =>
      some (s.modifyBackend b fun backend =>
        { backend with session := false, mainThreadTasks := backend.mainThreadTasks + 1 })
  | .sessionDies b => some (s.modifyBackend b fun backend => { backend with alive := false })
  | .begin deltaTime => if s.frame.isSome then none else some (s.begin deltaTime)
  | .pickup =>
      match s.frame, s.backend with
      | some (_, .pickup), none => some { s with frame := none }
      | some (deltaTime, .pickup), some b =>
          let backend := s.backends b
          some ({ s with
            frame := some
              (deltaTime, .running b backend.packetQueue backend.mainThreadTasks) }.modifyBackend b
            fun backend => { backend with packetQueue := 0, mainThreadTasks := 0 })
      | _, _ => none
  | .packet =>
      match s.frame with
      | some (deltaTime, .running b (packets + 1) tasks) =>
          some ({ s with frame := some (deltaTime, .running b packets tasks) }.modifyBackend b
            fun backend => { backend with timeSinceLastKeepAlive := 0 })
      | _ => none
  | .task =>
      match s.frame with
      | some (deltaTime, .running b 0 (tasks + 1)) =>
          let s := { s with frame := some (deltaTime, .running b 0 tasks) }
          some (if (s.backends b).disconnectNotified then s else s.notify b)
      | _ => none
  | .clocks =>
      match s.frame with
      | some (deltaTime, .running b 0 0) =>
          some ({ s with frame := some (deltaTime, .checking b) }.clocks deltaTime b)
      | _ => none
  | .check =>
      match s.frame with
      | some (_, .checking b) => some ({ s with frame := none }.check b)
      | _ => none

/-- The backend an update is working on. -/
def active (s : NetworkManager) : Option Nat := s.frame.bind (·.2.active)

/-- **The condition of the law**: a disconnect that is carried out while a
handler is registered belongs to no connection, or to one whose backend is still
installed and has not reported. -/
def Unreported (s : NetworkManager) : ClientAction → Prop
  | .begin _ => s.wantsDisconnect = true → s.onDisconnected = true → ∀ b ∈ s.last,
      s.backend = some b ∧ (s.backends b).disconnectNotified = false
  | _ => True

/-- The invariant: no backend has been told twice; one whose report waits has
not been told, and neither has one that is in use and has not reported. -/
structure Inv (s : NetworkManager) : Prop where
  once : s.invoked.Nodup
  invoked : ∀ b ∈ s.invoked, b < s.installs
  waiting : ∀ b ∈ s.disconnectPending,
    b < s.installs ∧ b ∉ s.invoked ∧ (s.backends b).disconnectNotified = true
  inUse : ∀ b, s.backend = some b ∨ s.active = some b →
    b < s.installs ∧ ((s.backends b).disconnectNotified = false → b ∉ s.invoked)

variable {s t : NetworkManager}

theorem nodup_concat {told : List Nat} {b : Nat} (h : told.Nodup) (hb : b ∉ told) :
    (told ++ [b]).Nodup :=
  h.append (List.nodup_singleton b) (List.disjoint_singleton.mpr hb)

theorem not_mem_concat {told : List Nat} {b c : Nat} (h : c ∉ told) (hne : c ≠ b) :
    c ∉ told ++ [b] :=
  fun hc => (List.mem_append.mp hc).elim h fun hlast => hne (List.mem_singleton.mp hlast)

/-- Changes that keep what the invariant reads. -/
theorem Inv.same (h : s.Inv) (hinvoked : t.invoked = s.invoked)
    (hinstalls : t.installs = s.installs)
    (hpending : ∀ b ∈ t.disconnectPending, b ∈ s.disconnectPending)
    (hinUse : ∀ b, t.backend = some b ∨ t.active = some b → s.backend = some b ∨ s.active = some b)
    (hnotified : ∀ b, (t.backends b).disconnectNotified = (s.backends b).disconnectNotified) :
    t.Inv where
  once := hinvoked ▸ h.once
  invoked b hb := by
    rw [hinstalls]
    exact h.invoked b (hinvoked ▸ hb)
  waiting b hb := by
    rw [hinvoked, hinstalls, hnotified]
    exact h.waiting b (hpending b hb)
  inUse b hb := by
    rw [hinvoked, hinstalls, hnotified]
    exact h.inUse b (hinUse b hb)

/-- An update goes on, with the backend it had, the one installed, or none. -/
theorem Inv.reframe (h : s.Inv) {frame : Option (ℚ × Phase)}
    (hframe : ∀ b, frame.bind (·.2.active) = some b → s.backend = some b ∨ s.active = some b) :
    Inv { s with frame } :=
  h.same rfl rfl (fun _ hc => hc) (fun b hb => hb.elim .inl (hframe b)) fun _ => rfl

/-- A change of one backend that leaves its latch alone. -/
theorem Inv.modifyBackend (h : s.Inv) (b : Nat) {f : Backend → Backend}
    (hf : ∀ backend, (f backend).disconnectNotified = backend.disconnectNotified) :
    (s.modifyBackend b f).Inv := by
  refine h.same rfl rfl (fun _ hc => hc) (fun _ hc => hc) fun c => ?_
  show (Function.update s.backends b (f (s.backends b)) c).disconnectNotified = _
  by_cases hc : c = b
  · rw [hc, Function.update_self, hf]
  · rw [Function.update_of_ne hc]

/-- **A report** of a backend in use that has not reported before. -/
theorem Inv.notify (h : s.Inv) {b : Nat} (hactive : s.active = some b)
    (hnew : (s.backends b).disconnectNotified = false) : (s.notify b).Inv := by
  obtain ⟨hb, huntold⟩ := h.inUse b (.inr hactive)
  have huntold := huntold hnew
  have hlatched : ∀ c, c ≠ b →
      (Function.update s.backends b { s.backends b with disconnectNotified := true } c) =
        s.backends c := fun c hc => Function.update_of_ne hc ..
  unfold NetworkManager.notify report
  by_cases hhandler : s.onDisconnected
  · rw [if_pos (show (s.modifyBackend b _).onDisconnected = true from hhandler)]
    constructor
    case once => exact nodup_concat h.once huntold
    case invoked =>
      intro c hc
      rcases List.mem_append.mp hc with hold | hlast
      · exact h.invoked c hold
      · exact List.mem_singleton.mp hlast ▸ hb
    case waiting =>
      intro c hc
      obtain ⟨hc, huntold', hreported⟩ := h.waiting c hc
      have hne : c ≠ b := by
        rintro rfl
        rw [hnew] at hreported
        cases hreported
      refine ⟨hc, not_mem_concat huntold' hne, ?_⟩
      exact (congrArg Backend.disconnectNotified (hlatched c hne)).trans hreported
    case inUse =>
      intro c hc
      obtain ⟨hbound, huntold'⟩ := h.inUse c hc
      refine ⟨hbound, fun hsilent => ?_⟩
      by_cases hne : c = b
      · change (Function.update s.backends b _ c).disconnectNotified = false at hsilent
        rw [hne, Function.update_self] at hsilent
        cases hsilent
      · exact not_mem_concat (huntold'
          ((congrArg Backend.disconnectNotified (hlatched c hne)).symm.trans hsilent)) hne
  · rw [if_neg (show ¬ (s.modifyBackend b _).onDisconnected = true from hhandler)]
    constructor
    case once => exact h.once
    case invoked => exact h.invoked
    case waiting =>
      intro c hc
      obtain rfl := Option.some.inj hc
      refine ⟨hb, huntold, ?_⟩
      show (Function.update s.backends b _ b).disconnectNotified = true
      rw [Function.update_self]
    case inUse =>
      intro c hc
      obtain ⟨hbound, huntold'⟩ := h.inUse c hc
      refine ⟨hbound, fun hsilent => ?_⟩
      by_cases hne : c = b
      · exact hne ▸ huntold
      · exact huntold' ((congrArg Backend.disconnectNotified (hlatched c hne)).symm.trans hsilent)

theorem Inv.setOnDisconnected (h : s.Inv) (handler : Bool) :
    (s.setOnDisconnected handler).Inv := by
  unfold NetworkManager.setOnDisconnected
  split
  · rename_i b hpending
    obtain ⟨hb, huntold, hreported⟩ := h.waiting b hpending
    refine ⟨nodup_concat h.once huntold, fun c hc => ?_, nofun, fun c hc => ?_⟩
    · rcases List.mem_append.mp hc with hold | hlast
      · exact h.invoked c hold
      · exact List.mem_singleton.mp hlast ▸ hb
    · obtain ⟨hbound, huntold'⟩ := h.inUse c hc
      refine ⟨hbound, fun hsilent => not_mem_concat (huntold' hsilent) ?_⟩
      rintro rfl
      rw [hreported] at hsilent
      cases hsilent
  · exact h.same rfl rfl (fun _ hc => hc) (fun _ hc => hc) fun _ => rfl

/-- **A disconnect is carried out** for a backend in use that has not reported. -/
theorem Inv.begin (h : s.Inv) (deltaTime : ℚ) (hok : s.Unreported (.begin deltaTime)) :
    (s.begin deltaTime).Inv := by
  unfold NetworkManager.begin
  split_ifs with hwants hhandler
  · cases hlast : s.last with
    | none =>
        refine h.same (List.append_nil _) rfl (fun _ hc => hc) ?_ fun _ => rfl
        rintro c (hc | hc) <;> cases hc
    | some b =>
        obtain ⟨hinstalled, hnew⟩ := hok hwants hhandler b hlast
        obtain ⟨hb, huntold⟩ := h.inUse b (.inl hinstalled)
        refine ⟨nodup_concat h.once (huntold hnew), fun c hc => ?_, fun c hc => ?_, ?_⟩
        · rcases List.mem_append.mp hc with hold | hnow
          · exact h.invoked c hold
          · exact List.mem_singleton.mp hnow ▸ hb
        · obtain ⟨hbound, huntold', hreported⟩ := h.waiting c hc
          refine ⟨hbound, not_mem_concat huntold' ?_, hreported⟩
          rintro rfl
          rw [hnew] at hreported
          cases hreported
        · rintro c (hc | hc) <;> cases hc
  · refine h.same rfl rfl (fun _ hc => hc) ?_ fun _ => rfl
    rintro c (hc | hc) <;> cases hc
  · refine h.same rfl rfl (fun _ hc => hc) ?_ fun _ => rfl
    rintro c (hc | hc)
    · exact .inl hc
    · cases hc

theorem Inv.clocks (h : s.Inv) (deltaTime : ℚ) {b : Nat} (hactive : s.active = some b) :
    (s.clocks deltaTime b).Inv := by
  unfold NetworkManager.clocks
  split_ifs with hstalled
  · exact h.modifyBackend b fun _ => rfl
  · have hlonger := h.modifyBackend b
      (f := fun backend => { backend with
        timeSinceLastKeepAlive := backend.timeSinceLastKeepAlive + deltaTime }) fun _ => rfl
    dsimp only
    split_ifs with hsilent
    · exact hlonger.notify hactive hsilent.2
    · exact hlonger

theorem Inv.check (h : s.Inv) (b : Nat) : (s.check b).Inv := by
  unfold NetworkManager.check
  dsimp only
  split_ifs
  · exact h
  · exact h.modifyBackend b fun _ => rfl
  · exact h

/-- A backend is installed: no one has been told about it. -/
theorem Inv.install (h : s.Inv) : Inv { s with
    backends := Function.update s.backends s.installs {}
    backend := some s.installs
    last := some s.installs
    installs := s.installs + 1
    joining := false } := by
  have hold : ∀ b < s.installs, Function.update s.backends s.installs {} b = s.backends b :=
    fun b hb => Function.update_of_ne (Nat.ne_of_lt hb) ..
  refine ⟨h.once, fun b hb => Nat.lt_succ_of_lt (h.invoked b hb), fun b hb => ?_, fun b hb => ?_⟩
  · obtain ⟨hbound, huntold, hreported⟩ := h.waiting b hb
    refine ⟨Nat.lt_succ_of_lt hbound, huntold, ?_⟩
    exact (congrArg Backend.disconnectNotified (hold b hbound)).trans hreported
  · rcases hb with hb | hb
    · obtain rfl := Option.some.inj hb
      exact ⟨Nat.lt_succ_self _, fun _ hmem => Nat.lt_irrefl _ (h.invoked _ hmem)⟩
    · obtain ⟨hbound, huntold⟩ := h.inUse b (.inr hb)
      refine ⟨Nat.lt_succ_of_lt hbound, fun hsilent => huntold ?_⟩
      exact (congrArg Backend.disconnectNotified (hold b hbound)).symm.trans hsilent

/-- **What each step keeps** under the condition. -/
theorem Inv.step (h : s.Inv) {action : ClientAction} (hok : s.Unreported action)
    (hstep : s.step action = some t) : t.Inv := by
  cases action with
  | setOnDisconnected handler =>
      obtain rfl := Option.some.inj hstep
      exact h.setOnDisconnected handler
  | disconnect =>
      obtain rfl := Option.some.inj hstep
      exact h.same rfl rfl (fun _ hc => hc) (fun _ hc => hc) fun _ => rfl
  | joinLobby =>
      obtain rfl := Option.some.inj hstep
      refine h.same rfl rfl nofun ?_ fun _ => rfl
      rintro c (hc | hc)
      · cases hc
      · exact .inr hc
  | installBackend =>
      unfold NetworkManager.step at hstep
      dsimp only at hstep
      split_ifs at hstep
      obtain rfl := Option.some.inj hstep
      exact h.install
  | adoptSession b =>
      obtain rfl := Option.some.inj hstep
      exact h.modifyBackend b fun _ => rfl
  | enqueuePacket b =>
      obtain rfl := Option.some.inj hstep
      exact h.modifyBackend b fun _ => rfl
  | transportDisconnected b =>
      obtain rfl := Option.some.inj hstep
      exact h.modifyBackend b fun _ => rfl
  | sessionDies b =>
      obtain rfl := Option.some.inj hstep
      exact h.modifyBackend b fun _ => rfl
  | begin deltaTime =>
      unfold NetworkManager.step at hstep
      dsimp only at hstep
      split_ifs at hstep
      obtain rfl := Option.some.inj hstep
      exact h.begin deltaTime hok
  | pickup =>
      unfold NetworkManager.step at hstep
      dsimp only at hstep
      split at hstep
      · obtain rfl := Option.some.inj hstep
        exact h.reframe fun c hc => by cases hc
      · rename_i deltaTime b _ hbackend
        obtain rfl := Option.some.inj hstep
        have hrun : Inv { s with frame := some (deltaTime,
            .running b (s.backends b).packetQueue (s.backends b).mainThreadTasks) } :=
          h.reframe fun c hc => .inl (hbackend.trans hc)
        exact hrun.modifyBackend b fun _ => rfl
      · cases hstep
  | packet =>
      unfold NetworkManager.step at hstep
      dsimp only at hstep
      split at hstep
      · rename_i deltaTime b packets tasks hframe
        obtain rfl := Option.some.inj hstep
        have hrun : Inv { s with frame := some (deltaTime, .running b packets tasks) } :=
          h.reframe fun c hc => .inr (by rw [active, hframe]; exact hc)
        exact hrun.modifyBackend b fun _ => rfl
      · cases hstep
  | task =>
      unfold NetworkManager.step at hstep
      dsimp only at hstep
      split at hstep
      · rename_i deltaTime b tasks hframe
        obtain rfl := Option.some.inj hstep
        have hrun : Inv { s with frame := some (deltaTime, .running b 0 tasks) } :=
          h.reframe fun c hc => .inr (by rw [active, hframe]; exact hc)
        split_ifs with hreported
        · exact hrun
        · exact hrun.notify rfl (Bool.eq_false_iff.mpr hreported)
      · cases hstep
  | clocks =>
      unfold NetworkManager.step at hstep
      dsimp only at hstep
      split at hstep
      · rename_i deltaTime b hframe
        obtain rfl := Option.some.inj hstep
        have hrun : Inv { s with frame := some (deltaTime, .checking b) } :=
          h.reframe fun c hc => .inr (by rw [active, hframe]; exact hc)
        exact hrun.clocks deltaTime rfl
      · cases hstep
  | check =>
      unfold NetworkManager.step at hstep
      dsimp only at hstep
      split at hstep
      · rename_i deltaTime b hframe
        obtain rfl := Option.some.inj hstep
        exact Inv.check (h.reframe fun c hc => by cases hc) b
      · cases hstep

theorem Inv.init : Inv {} where
  once := List.nodup_nil
  invoked _ hb := absurd hb List.not_mem_nil
  waiting _ hb := nomatch hb
  inUse _ hb := by rcases hb with hb | hb <;> cases hb

/-- **One disconnect for each connection**: in every run in which a disconnect
that is carried out while a handler is registered finds its backend installed
and silent so far, the handler is invoked at most once for each backend. -/
theorem disconnect_once {actions : List ClientAction} {t : NetworkManager}
    (hrun : Exec.exec step {} actions = some t)
    (hunreported : Exec.Along step Unreported {} actions) : t.invoked.Nodup :=
  (Exec.exec_invariant_along (fun _ _ _ hs hok hstep => hs.step hok hstep) Inv.init hunreported
    hrun).once

instance (s : NetworkManager) : (action : ClientAction) → Decidable (s.Unreported action)
  | .begin _ => inferInstanceAs (Decidable (_ → _ → ∀ b ∈ s.last, _))
  | .setOnDisconnected _ | .disconnect | .joinLobby | .installBackend | .adoptSession _
  | .enqueuePacket _ | .transportDisconnected _ | .sessionDies _ | .pickup | .packet | .task
  | .clocks | .check => .isTrue trivial

/-- A connection is made; the transport loses it and the session is found dead
as well; a handler is registered only then. -/
def lostUnheard : List ClientAction :=
  [.joinLobby, .installBackend, .adoptSession 0, .sessionDies 0, .transportDisconnected 0,
    .begin (1 / 60), .pickup, .task, .clocks, .check, .begin 1, .pickup, .clocks, .check,
    .setOnDisconnected true]

theorem disconnect_once_lostUnheard :
    ∃ t, Exec.exec step {} lostUnheard = some t ∧ t.invoked = [0] ∧ t.invoked.Nodup := by
  have hany : (Exec.exec step {} lostUnheard).any (fun t => decide (t.invoked = [0])) = true := by
    decide +kernel
  obtain ⟨t, hrun, hinvoked⟩ := Exec.exec_any hany
  exact ⟨t, hrun, of_decide_eq_true hinvoked, disconnect_once hrun (by decide +kernel)⟩

/-- The transport loses the connection, the handler hears of it, and the user
disconnects. -/
def lostAndLeft : List ClientAction :=
  [.setOnDisconnected true, .joinLobby, .installBackend, .adoptSession 0,
    .transportDisconnected 0, .begin (1 / 60), .pickup, .task, .clocks, .check, .disconnect,
    .begin (1 / 60)]

theorem disconnect_twice :
    ∃ t, Exec.exec step {} lostAndLeft = some t ∧ t.invoked = [0, 0] ∧ ¬ t.invoked.Nodup := by
  have hany : (Exec.exec step {} lostAndLeft).any (fun t =>
      decide (t.invoked = [0, 0] ∧ ¬ t.invoked.Nodup)) = true := by
    decide +kernel
  obtain ⟨t, hrun, ht⟩ := Exec.exec_any hany
  exact ⟨t, hrun, of_decide_eq_true ht⟩

end NetworkManager

end Remote
