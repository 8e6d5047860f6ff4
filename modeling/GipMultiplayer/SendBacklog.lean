import GipMultiplayer.Exec
import Mathlib.Tactic.SplitIfs

/-!
# The send backlog of a client

`GameBackendRemote` hands a packet to its session at once when there is one and
it is ready, and otherwise keeps it in a backlog.  Adopting a session takes the
backlog out under the lock and hands it over after releasing it, one packet at
a time, while other threads go on sending.  A packet is the number of the
`sendPacket` call that brought it.

* `Delivered` — the law: the packets covered are handed over once, in order;
* `Orderly` — the condition on each call;
* `backlog_delivered` — the law in every run under the condition;
* `backlog_overtaken` — a packet that overtakes the backlog, and one that is
  never handed over.
-/

namespace Remote

/-- `MAX_PENDING_PACKETS`. -/
def maxPendingPackets : Nat := 256

/-- The backend, as far as sending goes.  `session` says whether there is one,
`ready` what its `IsReady` answers and `queued` what `adoptSession` has taken
out of the backlog and not yet handed over.  `given` are the calls the law is
about: no keepalives, made before the connection was lost and with room in the
backlog.  `handed` is what the session was handed. -/
structure Sender where
  session : Bool := false
  sessionadopted : Bool := false
  ready : Bool := false
  pendingPackets : List Nat := []
  queued : List Nat := []
  lost : Bool := false
  calls : Nat := 0
  given : List Nat := []
  handed : List Nat := []
  deriving DecidableEq, Repr

/-- What happens: a call of `sendPacket`, the two parts of `adoptSession`, and
what the transport does. -/
inductive SendAction
  | sendPacket (keepalive : Bool)
  | adopt
  | flush
  | becomeReady
  | die
  | disconnected
  deriving DecidableEq, Repr

namespace Sender

/-- A call the law is about. -/
def Covers (s : Sender) (keepalive : Bool) : Prop :=
  keepalive = false ∧ s.lost = false ∧ s.pendingPackets.length < maxPendingPackets

instance (s : Sender) (keepalive : Bool) : Decidable (s.Covers keepalive) :=
  inferInstanceAs (Decidable (_ ∧ _ ∧ _))

/-- The session takes packets. -/
def Direct (s : Sender) : Prop := s.session = true ∧ s.ready = true

instance (s : Sender) : Decidable s.Direct := inferInstanceAs (Decidable (_ ∧ _))

/-- The call gets its number. -/
def call (s : Sender) (keepalive : Bool) : Sender :=
  { s with
    calls := s.calls + 1
    given := if s.Covers keepalive then s.given ++ [s.calls] else s.given }

/-- `sendPacket`: straight to the session, dropped, or into the backlog. -/
def sendPacket (s : Sender) (keepalive : Bool) : Sender :=
  if s.Direct then { s.call keepalive with handed := s.handed ++ [s.calls] }
  else if keepalive then s.call keepalive
  else if s.pendingPackets.length ≥ maxPendingPackets then s.call keepalive
  else { s.call keepalive with pendingPackets := s.pendingPackets ++ [s.calls] }

/-- One step. -/
def step (s : Sender) : SendAction → Option Sender
  | .sendPacket keepalive => some (s.sendPacket keepalive)
  | .adopt =>
      if s.sessionadopted then none
      else
        some { s with
          session := true
          sessionadopted := true
          queued := s.pendingPackets
          pendingPackets := [] }
  | .flush =>
      match s.queued with
      | [] => none
      | p :: queued => some { s with queued, handed := s.handed ++ [p] }
  | .becomeReady => if s.lost then none else some { s with ready := true }
  | .die => some { s with ready := false, lost := true }
  | .disconnected => some { s with session := false, lost := true }

/-- A backend that dials has no session until it adopts one; a punched one is
made with its session. -/
def start (punched : Bool) : Sender := { session := punched }

/-! ## The law -/

/-- What has been handed over of the packets covered. -/
def covered (s : Sender) : List Nat := s.handed.filter (· ∈ s.given)

/-- **Delivery in order**: the packets covered are handed over once and in the
order of the calls, and all of them when the adoption is over. -/
structure Delivered (s : Sender) : Prop where
  inOrder : s.covered <+: s.given
  calls : s.given.Pairwise (· < ·)
  all : s.sessionadopted = true → s.queued = [] → s.covered = s.given

/-- **The condition of the law**: of the calls covered, one goes straight to the
session only when nothing waits before it, and into the backlog only before the
session is adopted. -/
def Orderly (s : Sender) : SendAction → Prop
  | .sendPacket keepalive => s.Covers keepalive →
      (s.Direct → s.pendingPackets = [] ∧ s.queued = []) ∧
      (¬ s.Direct → s.sessionadopted = false)
  | _ => True

instance (s : Sender) : (action : SendAction) → Decidable (s.Orderly action)
  | .sendPacket _ => inferInstanceAs (Decidable (_ → _ ∧ _))
  | .adopt | .flush | .becomeReady | .die | .disconnected => .isTrue trivial

/-! ## The invariant -/

/-- Everything that was given and not dropped: handed over, being handed over,
or in the backlog. -/
def line (s : Sender) : List Nat := s.handed ++ s.queued ++ s.pendingPackets

/-- The invariant: the packets covered stand in line in the order of the calls,
and none of them is in the backlog once the session is adopted. -/
structure Inv (s : Sender) : Prop where
  numbered : ∀ n ∈ s.line, n < s.calls
  given : ∀ n ∈ s.given, n < s.calls
  calls : s.given.Pairwise (· < ·)
  inLine : s.line.filter (· ∈ s.given) = s.given
  unadopted : s.sessionadopted = false → s.queued = []
  flushed : s.sessionadopted = true → ∀ n ∈ s.pendingPackets, n ∉ s.given

variable {s t : Sender}

theorem Inv.delivered (h : s.Inv) : s.Delivered where
  inOrder := by
    refine ⟨(s.queued ++ s.pendingPackets).filter (· ∈ s.given), ?_⟩
    rw [covered, ← List.filter_append, ← List.append_assoc]
    exact h.inLine
  calls := h.calls
  all hadopted hqueued := by
    have hpending : s.pendingPackets.filter (· ∈ s.given) = [] :=
      List.filter_eq_nil_iff.mpr fun n hn => by simpa using h.flushed hadopted n hn
    have hline := h.inLine
    rw [line, hqueued, List.append_nil, List.filter_append, hpending, List.append_nil] at hline
    exact hline

theorem Inv.start (punched : Bool) : (start punched).Inv where
  numbered _ hn := absurd hn List.not_mem_nil
  given _ hn := absurd hn List.not_mem_nil
  calls := .nil
  inLine := rfl
  unadopted _ := rfl
  flushed _ _ hn := absurd hn List.not_mem_nil

/-- Taking the backlog out, or handing one packet over, moves nothing in line. -/
theorem Inv.move (h : s.Inv) {session adopted ready lost : Bool}
    {pendingPackets queued handed : List Nat}
    (hline : handed ++ queued ++ pendingPackets = s.line)
    (hunadopted : adopted = false → queued = [])
    (hflushed : adopted = true → ∀ n ∈ pendingPackets, n ∉ s.given) :
    Inv { s with
      session, sessionadopted := adopted, ready, lost, pendingPackets, queued, handed } where
  numbered n hn := h.numbered n (hline ▸ hn)
  given := h.given
  calls := h.calls
  inLine := by
    show (handed ++ queued ++ pendingPackets).filter (· ∈ s.given) = s.given
    rw [hline]
    exact h.inLine
  unadopted := hunadopted
  flushed := hflushed

/-- A packet covered goes to the end of the line. -/
theorem Inv.append (h : s.Inv) {keepalive : Bool} (hcovers : s.Covers keepalive)
    (handed pendingPackets : List Nat)
    (hline : handed ++ s.queued ++ pendingPackets = s.line ++ [s.calls])
    (hflushed : s.sessionadopted = true → pendingPackets = []) :
    Inv { s.call keepalive with handed, pendingPackets } := by
  have hgiven : (s.call keepalive).given = s.given ++ [s.calls] := if_pos hcovers
  constructor
  case numbered =>
    intro n hn
    have hmem : n ∈ s.line ++ [s.calls] := hline ▸ hn
    rcases List.mem_append.mp hmem with hold | hnew
    · exact Nat.lt_succ_of_lt (h.numbered n hold)
    · rw [List.mem_singleton.mp hnew]
      exact Nat.lt_succ_self _
  case given =>
    intro n hn
    change n ∈ (s.call keepalive).given at hn
    rw [hgiven] at hn
    rcases List.mem_append.mp hn with hold | hnew
    · exact Nat.lt_succ_of_lt (h.given n hold)
    · rw [List.mem_singleton.mp hnew]
      exact Nat.lt_succ_self _
  case calls =>
    show (s.call keepalive).given.Pairwise (· < ·)
    rw [hgiven]
    refine List.pairwise_append.mpr ⟨h.calls, List.pairwise_singleton _ _, fun m hm n hn => ?_⟩
    rw [List.mem_singleton.mp hn]
    exact h.given m hm
  case inLine =>
    show (handed ++ s.queued ++ pendingPackets).filter (· ∈ (s.call keepalive).given) =
      (s.call keepalive).given
    rw [hline, hgiven, List.filter_append]
    have hold : s.line.filter (· ∈ s.given ++ [s.calls]) = s.line.filter (· ∈ s.given) := by
      refine List.filter_congr fun n hn => ?_
      have hne : n ≠ s.calls := Nat.ne_of_lt (h.numbered n hn)
      simp [hne]
    rw [hold, h.inLine]
    simp
  case unadopted => exact h.unadopted
  case flushed =>
    intro hadopted n hn
    change n ∈ pendingPackets at hn
    rw [hflushed hadopted] at hn
    cases hn

/-- A packet the law is not about may stand anywhere. -/
theorem Inv.insert (h : s.Inv) {keepalive : Bool} (hcovers : ¬ s.Covers keepalive)
    {handed pendingPackets : List Nat}
    (hhanded : handed = s.handed ∨ handed = s.handed ++ [s.calls])
    (hpending : pendingPackets = s.pendingPackets ∨
      pendingPackets = s.pendingPackets ++ [s.calls]) :
    Inv { s.call keepalive with handed, pendingPackets } := by
  have hgiven : (s.call keepalive).given = s.given := if_neg hcovers
  have hnew : s.calls ∉ s.given := fun hmem => Nat.lt_irrefl _ (h.given _ hmem)
  have hmem : ∀ {old new : List Nat}, new = old ∨ new = old ++ [s.calls] →
      (∀ n ∈ new, n ∈ old ∨ n = s.calls) ∧
        new.filter (· ∈ s.given) = old.filter (· ∈ s.given) := by
    rintro old new (rfl | rfl)
    · exact ⟨fun n hn => .inl hn, rfl⟩
    · exact ⟨fun n hn => by simpa using hn, by simp [List.filter_append, hnew]⟩
  obtain ⟨hhandedmem, hhandedfilter⟩ := hmem hhanded
  obtain ⟨hpendingmem, hpendingfilter⟩ := hmem hpending
  constructor
  case numbered =>
    intro n hn
    have hor : n ∈ s.line ∨ n = s.calls := by
      rcases List.mem_append.mp hn with hfront | hback
      · rcases List.mem_append.mp hfront with hn | hn
        · exact (hhandedmem n hn).imp_left fun hn => by simp [line, hn]
        · exact .inl (by simp only [line, List.mem_append]; exact .inl (.inr hn))
      · exact (hpendingmem n hback).imp_left fun hn => by simp [line, hn]
    rcases hor with hold | rfl
    · exact Nat.lt_succ_of_lt (h.numbered n hold)
    · exact Nat.lt_succ_self _
  case given =>
    intro n hn
    exact Nat.lt_succ_of_lt (h.given n (hgiven ▸ hn))
  case calls => exact hgiven.symm ▸ h.calls
  case inLine =>
    show (handed ++ s.queued ++ pendingPackets).filter (· ∈ (s.call keepalive).given) =
      (s.call keepalive).given
    rw [hgiven, List.filter_append, List.filter_append, hhandedfilter, hpendingfilter,
      ← List.filter_append, ← List.filter_append]
    exact h.inLine
  case unadopted => exact h.unadopted
  case flushed =>
    intro hadopted n hn
    show n ∉ (s.call keepalive).given
    rw [hgiven]
    rcases hpendingmem n hn with hold | rfl
    · exact h.flushed hadopted n hold
    · exact hnew

/-- **What a call keeps** under the condition. -/
theorem Inv.sendPacket (h : s.Inv) (keepalive : Bool) (hok : s.Orderly (.sendPacket keepalive)) :
    (s.sendPacket keepalive).Inv := by
  unfold Sender.sendPacket
  split_ifs with hdirect hkeep hfull
  · by_cases hcovers : s.Covers keepalive
    · obtain ⟨hpending, hqueued⟩ := (hok hcovers).1 hdirect
      refine h.append hcovers _ s.pendingPackets ?_ fun _ => hpending
      simp [line, hpending, hqueued]
    · exact h.insert hcovers (.inr rfl) (.inl rfl)
  · exact h.insert (fun hcovers => by simp [hcovers.1] at hkeep) (.inl rfl) (.inl rfl)
  · exact h.insert (fun hcovers => Nat.not_lt.mpr hfull hcovers.2.2) (.inl rfl) (.inl rfl)
  · by_cases hcovers : s.Covers keepalive
    · refine h.append hcovers s.handed _ ?_ fun hadopted => ?_
      · rw [line, List.append_assoc, List.append_assoc, List.append_assoc]
      · rw [(hok hcovers).2 hdirect] at hadopted
        cases hadopted
    · exact h.insert hcovers (.inl rfl) (.inr rfl)

/-- **What each step keeps** under the condition. -/
theorem Inv.step (h : s.Inv) {action : SendAction} (hok : s.Orderly action)
    (hstep : s.step action = some t) : t.Inv := by
  cases action with
  | sendPacket keepalive =>
      obtain rfl := Option.some.inj hstep
      exact h.sendPacket keepalive hok
  | adopt =>
      unfold Sender.step at hstep
      dsimp only at hstep
      split_ifs at hstep with hadopted
      obtain rfl := Option.some.inj hstep
      have hqueued := h.unadopted (Bool.eq_false_iff.mpr hadopted)
      refine h.move ?_ nofun fun _ n hn => absurd hn List.not_mem_nil
      simp [line, hqueued]
  | flush =>
      unfold Sender.step at hstep
      dsimp only at hstep
      split at hstep
      · cases hstep
      · rename_i p queued hqueued
        obtain rfl := Option.some.inj hstep
        refine h.move ?_ (fun hunadopted => ?_) h.flushed
        · simp [line, hqueued]
        · have hnone := h.unadopted hunadopted
          rw [hqueued] at hnone
          cases hnone
  | becomeReady =>
      unfold Sender.step at hstep
      dsimp only at hstep
      split_ifs at hstep
      obtain rfl := Option.some.inj hstep
      exact h.move rfl h.unadopted h.flushed
  | die =>
      obtain rfl := Option.some.inj hstep
      exact h.move rfl h.unadopted h.flushed
  | disconnected =>
      obtain rfl := Option.some.inj hstep
      exact h.move rfl h.unadopted h.flushed

/-- **Delivery in order, in every run**: if each call covered goes straight to
the session only when nothing waits before it, and into the backlog only before
the adoption, the packets covered are handed over once and in order. -/
theorem backlog_delivered {punched : Bool} {actions : List SendAction} {t : Sender}
    (hrun : Exec.exec step (start punched) actions = some t)
    (horderly : Exec.Along step Orderly (start punched) actions) : t.Delivered :=
  (Exec.exec_invariant_along (fun _ _ _ hs hok hstep => hs.step hok hstep) (Inv.start punched)
    horderly hrun).delivered

/-- A packet before the connection, one while it is adopted and one after it
is ready. -/
def dialled : List SendAction :=
  [.sendPacket false, .sendPacket false, .sendPacket true, .adopt, .flush, .flush, .becomeReady,
    .sendPacket false]

theorem backlog_delivered_dialled :
    ∃ t, Exec.exec step (start false) dialled = some t ∧ t.handed = [0, 1, 3] ∧ t.Delivered := by
  have hany : (Exec.exec step (start false) dialled).any (fun t => decide (t.handed = [0, 1, 3])) =
      true := by
    decide +kernel
  obtain ⟨t, hrun, hhanded⟩ := Exec.exec_any hany
  exact ⟨t, hrun, of_decide_eq_true hhanded, backlog_delivered hrun (by decide +kernel)⟩

/-- A packet sent between the two parts of the adoption overtakes the backlog. -/
def overtaken : List SendAction :=
  [.sendPacket false, .becomeReady, .adopt, .sendPacket false, .flush]

/-- A packet sent after the adoption of a session that is not ready stays in the
backlog. -/
def stranded : List SendAction := [.adopt, .sendPacket false, .becomeReady]

theorem backlog_overtaken :
    (∃ t, Exec.exec step (start false) overtaken = some t ∧ t.handed = [1, 0] ∧ ¬ t.Delivered) ∧
      ∃ t, Exec.exec step (start false) stranded = some t ∧ t.handed = [] ∧ ¬ t.Delivered := by
  constructor
  · have hany : (Exec.exec step (start false) overtaken).any (fun t =>
        decide (t.handed = [1, 0] ∧ ¬ t.covered <+: t.given)) = true := by
      decide +kernel
    obtain ⟨t, hrun, ht⟩ := Exec.exec_any hany
    obtain ⟨hhanded, horder⟩ := of_decide_eq_true ht
    exact ⟨t, hrun, hhanded, fun h => horder h.inOrder⟩
  · have hany : (Exec.exec step (start false) stranded).any (fun t =>
        decide (t.handed = [] ∧ t.sessionadopted = true ∧ t.queued = [] ∧ t.covered ≠ t.given)) =
        true := by
      decide +kernel
    obtain ⟨t, hrun, ht⟩ := Exec.exec_any hany
    obtain ⟨hhanded, hadopted, hqueued, hall⟩ := of_decide_eq_true ht
    exact ⟨t, hrun, hhanded, fun h => hall (h.all hadopted hqueued)⟩

end Sender

end Remote
