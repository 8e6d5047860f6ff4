import Mathlib.Tactic.Tauto
import GipMultiplayer.Exec
import GipMultiplayer.VoiceRouter

/-!
# What one router step does to one peer

The router's public calls as labels of a step function.  A control call
contributes its two locked sections as separate labels, so that anything may
happen between them, as it may in the source while the send runs unlocked.

A peer record without its token buckets is a `Membership`.  Each label acts on
the membership of one connection as a function of its own, read off the source
once (`addPeer_membership` to `handleVoicePacket_membership`); every invariant
of the router is derived from these equations.

* `Membership.WellFormed` — a membership with a state has a valid one and a
  nonzero generation;
* `Reachable.wellFormed` — every run keeps all memberships well formed;
* `Reachable.setPeerState`, `Reachable.clearPeerState` — the composite calls
  are runs of the labels.
-/

namespace Voice

/-- What a peer record says about membership, without its token buckets. -/
structure Membership where
  handle : Nat
  state : PeerState
  hasstate : Bool
  controlpublished : Bool
  generation : UInt32
  deriving DecidableEq

/-- The membership part of a peer record. -/
def Peer.membership (peer : Peer) : Membership :=
  ⟨peer.handle, peer.state, peer.hasstate, peer.controlpublished, peer.generation⟩

/-- The membership of a registered connection. -/
def Router.membership (router : Router) (c : ConnectionId) : Option Membership :=
  (router.peers.lookup c).map Peer.membership

namespace Membership

/-- The membership a registration starts from. -/
def fresh (handle : Nat) : Membership :=
  ⟨handle, {}, false, true, 0⟩

/-- The state the router stores for a peer, if any. -/
def stored (m : Membership) : Option PeerState :=
  if m.hasstate then some m.state else none

@[simp] theorem stored_eq_none {m : Membership} : m.stored = none ↔ m.hasstate = false := by
  simp [stored]

@[simp] theorem stored_eq_some {m : Membership} {state : PeerState} :
    m.stored = some state ↔ m.hasstate = true ∧ m.state = state := by
  simp [stored]

/-- The membership `setPeerState` leaves before its send. -/
def grant (m : Membership) (newstate : PeerState) : Membership :=
  if m.hasstate ∧ m.state = newstate then m
  else
    { m with
      state := newstate
      hasstate := true
      controlpublished := false
      generation := nextGeneration m.generation }

/-- The membership `clearPeerState` leaves before its send. -/
def revoke (m : Membership) : Membership :=
  if m.hasstate then
    { m with
      hasstate := false
      state := {}
      generation := nextGeneration m.generation
      controlpublished := false }
  else { m with controlpublished := false }

/-- The membership with its control published. -/
def publish (m : Membership) : Membership :=
  { m with controlpublished := true }

/-- A peer with a state has a valid one and a nonzero generation; a peer
without one holds the default state. -/
def WellFormed (m : Membership) : Prop :=
  if m.hasstate then isValidPeerState m.state = true ∧ m.generation ≠ 0 else m.state = {}

end Membership

/-- The state a control call is about: an invalid one means a clear. -/
def effectiveRequest : Option PeerState → Option PeerState
  | some newstate => if isValidPeerState newstate then some newstate else none
  | none => none

@[simp] theorem effectiveRequest_none : effectiveRequest none = none := rfl

theorem effectiveRequest_valid {newstate : PeerState}
    (hvalid : isValidPeerState newstate = true) :
    effectiveRequest (some newstate) = some newstate :=
  if_pos hvalid

theorem effectiveRequest_invalid {newstate : PeerState}
    (hinvalid : isValidPeerState newstate = false) :
    effectiveRequest (some newstate) = none :=
  if_neg (by simp [hinvalid])

/-- What is effectively requested is valid. -/
theorem isValidPeerState_of_effectiveRequest {requested : Option PeerState}
    {newstate : PeerState} (h : effectiveRequest requested = some newstate) :
    isValidPeerState newstate = true := by
  unfold effectiveRequest at h
  grind

namespace Membership

/-- The membership after the first locked section of a control call. -/
def request (m : Membership) : Option PeerState → Membership
  | some newstate => m.grant newstate
  | none => if m.hasstate = false ∧ m.controlpublished then m else m.revoke

/-- The call whose send the first locked section goes on to. -/
def call (m : Membership) (c : ConnectionId) (requested : Option PeerState) : ControlCall :=
  ⟨c, requested, (m.request requested).handle, (m.request requested).generation⟩

/-- The control call has nothing to do: its grant or clear is published. -/
def upToDate (m : Membership) (requested : Option PeerState) : Prop :=
  m.stored = requested ∧ m.controlpublished = true

instance (m : Membership) (requested : Option PeerState) :
    Decidable (m.upToDate requested) :=
  inferInstanceAs (Decidable (_ ∧ _))

/-- The second locked section still finds what the first one left. -/
def stillRequested (m : Membership) (call : ControlCall) : Prop :=
  m.handle = call.handle ∧ m.generation = call.generation ∧ m.stored = call.requested

instance (m : Membership) (call : ControlCall) : Decidable (m.stillRequested call) :=
  inferInstanceAs (Decidable (_ ∧ _ ∧ _))

end Membership

namespace Membership

/-- A request keeps generation and stored state, or changes both. -/
theorem request_cases (m : Membership) (requested : Option PeerState) :
    ((m.request requested).generation = m.generation ∧
      (m.request requested).stored = m.stored) ∨
    ((m.request requested).generation = nextGeneration m.generation ∧
      (m.request requested).stored ≠ m.stored) := by
  cases requested with
  | some newstate => grind [Membership.request, grant, stored]
  | none => grind [Membership.request, revoke, stored]

/-- **Generations follow states.**  A request changes the generation exactly
when it changes the stored state. -/
theorem request_generation (m : Membership) (requested : Option PeerState) :
    (m.request requested).generation ≠ m.generation ↔
      (m.request requested).stored ≠ m.stored := by
  rcases m.request_cases requested with ⟨hgeneration, hstored⟩ | ⟨hgeneration, hstored⟩
  · simp [hgeneration, hstored]
  · simp [hgeneration, hstored, nextGeneration_ne_self]

/-- After its first locked section a call that is not up to date finds its own
request again. -/
theorem request_stillRequested {m : Membership} (c : ConnectionId)
    {requested : Option PeerState} (h : ¬ m.upToDate requested) :
    (m.request requested).stillRequested (m.call c requested) := by
  refine ⟨rfl, rfl, ?_⟩
  cases requested with
  | some newstate =>
      simp only [Membership.request, grant, call]
      split_ifs with hsame <;> simp [stored, *]
  | none =>
      have hrevoke : m.request none = m.revoke :=
        if_neg (by simpa [upToDate] using h)
      simp only [call, hrevoke, revoke]
      split_ifs with hstate <;> simp [stored, *]

/-- A request that is not up to date leaves the peer unpublished. -/
theorem request_unpublished {m : Membership} {requested : Option PeerState}
    (h : ¬ m.upToDate requested) : (m.request requested).controlpublished = false := by
  cases requested with
  | some newstate => grind [Membership.request, grant, upToDate, stored]
  | none => grind [Membership.request, revoke, upToDate, stored]

/-- A request that is up to date changes nothing. -/
theorem request_upToDate {m : Membership} {requested : Option PeerState}
    (h : m.upToDate requested) : m.request requested = m := by
  cases requested with
  | some newstate => grind [Membership.request, grant, upToDate, stored]
  | none => grind [Membership.request, revoke, upToDate, stored]

/-- Requesting again what an unpublished call left changes nothing. -/
theorem request_request {m : Membership} {requested : Option PeerState}
    (h : ¬ m.upToDate requested) :
    (m.request requested).request requested = m.request requested := by
  cases requested with
  | some newstate => grind [Membership.request, grant]
  | none => grind [Membership.request, revoke, upToDate, stored]

end Membership

/-! ## The peer functions on memberships -/

theorem Peer.grant_membership (config : Config) (now : TimePoint) (peer : Peer)
    (newstate : PeerState) :
    (peer.grant config now newstate).membership = peer.membership.grant newstate := by
  unfold Peer.grant Membership.grant
  by_cases h : peer.hasstate = true ∧ peer.state = newstate
  · rw [if_pos (by simpa using h), if_pos (by exact h)]
  · rw [if_neg (by simpa using h), if_neg (by exact h)]
    rfl

theorem Peer.revoke_membership (peer : Peer) :
    peer.revoke.membership = peer.membership.revoke := by
  unfold Peer.revoke Membership.revoke
  by_cases h : peer.hasstate = true
  · rw [if_pos h, if_pos (by exact h)]
    rfl
  · rw [if_neg h, if_neg (by exact h)]
    rfl

@[simp] theorem consumeRate_membership (config : Config) (now : TimePoint) (peer : Peer)
    (bytes : Nat) : (consumeRate config now peer bytes).1.membership = peer.membership := by
  unfold consumeRate
  dsimp only
  split_ifs <;> rfl

theorem Router.membership_eq_some {router : Router} {c : ConnectionId} {m : Membership} :
    router.membership c = some m ↔
      ∃ peer, router.peers.lookup c = some peer ∧ peer.membership = m :=
  Option.map_eq_some_iff

/-- Writing one record changes one membership. -/
theorem Router.membership_insert (router : Router) (c : ConnectionId) (peer : Peer)
    (d : ConnectionId) :
    ({ router with peers := router.peers.insert c peer } : Router).membership d =
      if d = c then some peer.membership else router.membership d := by
  rcases eq_or_ne d c with rfl | hd
  · simp [Router.membership]
  · simp [Router.membership, AList.lookup_insert_ne hd, hd]

theorem Router.membership_of_lookup {router : Router} {c : ConnectionId} {peer : Peer}
    (hpeer : router.peers.lookup c = some peer) :
    router.membership c = some peer.membership := by
  simp [Router.membership, hpeer]

theorem Router.membership_of_lookup_none {router : Router} {c : ConnectionId}
    (hpeer : router.peers.lookup c = none) : router.membership c = none := by
  simp [Router.membership, hpeer]

/-- Rewriting a record without touching its membership changes none. -/
theorem Router.membership_insert_same {router : Router} {c : ConnectionId} {peer peer' : Peer}
    (hpeer : router.peers.lookup c = some peer) (hsame : peer'.membership = peer.membership)
    (d : ConnectionId) :
    ({ router with peers := router.peers.insert c peer' } : Router).membership d =
      router.membership d := by
  rw [Router.membership_insert, hsame]
  split_ifs with hd
  · rw [hd, Router.membership_of_lookup hpeer]
  · rfl

/-! ## The router functions on memberships -/

theorem addPeer_membership (router : Router) (now : TimePoint) (c : ConnectionId)
    (callback : Bool) :
    ((addPeer router now c callback).2 = false ∧
      ∀ d, (addPeer router now c callback).1.membership d = router.membership d) ∨
    ((addPeer router now c callback).2 = true ∧ router.membership c = none ∧
      ∀ d, (addPeer router now c callback).1.membership d =
        if d = c then some (Membership.fresh router.nexthandle) else router.membership d) := by
  unfold addPeer
  split_ifs with hcallback hmem hfull
  · exact .inl ⟨rfl, fun _ => rfl⟩
  · exact .inl ⟨rfl, fun _ => rfl⟩
  · exact .inl ⟨rfl, fun _ => rfl⟩
  · refine .inr ⟨rfl, ?_, fun d => ?_⟩
    · exact Router.membership_of_lookup_none (AList.lookup_eq_none.mpr hmem)
    · exact Router.membership_insert router c _ d

theorem removePeer_membership (router : Router) (c d : ConnectionId) :
    (removePeer router c).membership d = if d = c then none else router.membership d := by
  rcases eq_or_ne d c with rfl | hd
  · simp [removePeer, Router.membership]
  · simp [removePeer, Router.membership, AList.lookup_erase_ne hd, hd]

theorem reset_membership (router : Router) (d : ConnectionId) :
    (reset router).membership d = none := by
  simp [reset, Router.membership]

theorem beginClearPeerState_membership (router : Router) (c d : ConnectionId) :
    (beginClearPeerState router c).1.membership d =
      if d = c then (router.membership c).map (Membership.request · none)
      else router.membership d := by
  unfold beginClearPeerState
  cases hpeer : router.peers.lookup c with
  | none =>
      have hm := Router.membership_of_lookup_none hpeer
      grind
  | some peer =>
      have hm := Router.membership_of_lookup hpeer
      by_cases hdone : peer.hasstate = false ∧ peer.controlpublished = true
      · have hsame : peer.membership.request none = peer.membership := if_pos hdone
        simp only [if_pos hdone, hm, Option.map_some, hsame]
        grind
      · have hrevoke : peer.membership.request none = peer.revoke.membership := by
          rw [Peer.revoke_membership]
          exact if_neg hdone
        simp only [if_neg hdone, hm, Option.map_some, hrevoke]
        exact Router.membership_insert router c _ d

theorem beginSetPeerState_membership (router : Router) (now : TimePoint) (c : ConnectionId)
    (newstate : PeerState) (d : ConnectionId) :
    (beginSetPeerState router now c newstate).1.membership d =
      if d = c then (router.membership c).map (Membership.request · (some newstate))
      else router.membership d := by
  unfold beginSetPeerState
  cases hpeer : router.peers.lookup c with
  | none =>
      have hm := Router.membership_of_lookup_none hpeer
      grind
  | some peer =>
      have hm := Router.membership_of_lookup hpeer
      simp only [peerStatesEqual_iff, hm, Option.map_some]
      split_ifs with hdone hd hd
      · have hsame : peer.membership.request (some newstate) = peer.membership :=
          if_pos ⟨hdone.1, hdone.2.1⟩
        rw [hd, hm, hsame]
      · rfl
      · rw [Router.membership_insert, if_pos hd, Peer.grant_membership]
        rfl
      · rw [Router.membership_insert, if_neg hd]

/-- A control call begins with the locked section of its effective request. -/
theorem beginControl_eq (router : Router) (now : TimePoint) (c : ConnectionId)
    (requested : Option PeerState) :
    beginControl router now c requested =
      match effectiveRequest requested with
      | some newstate => beginSetPeerState router now c newstate
      | none => beginClearPeerState router c := by
  cases requested with
  | none => rfl
  | some newstate =>
      cases hvalid : isValidPeerState newstate <;>
        simp [beginControl, effectiveRequest, hvalid]

/-- **First locked section.**  A control call requests its effective state of
the one connection it names. -/
theorem beginControl_membership (router : Router) (now : TimePoint) (c : ConnectionId)
    (requested : Option PeerState) (d : ConnectionId) :
    (beginControl router now c requested).1.membership d =
      if d = c then (router.membership c).map
        (Membership.request · (effectiveRequest requested))
      else router.membership d := by
  rw [beginControl_eq]
  cases effectiveRequest requested with
  | none => exact beginClearPeerState_membership router c d
  | some newstate => exact beginSetPeerState_membership router now c newstate d

theorem beginClearPeerState_start (router : Router) (c : ConnectionId) :
    (beginClearPeerState router c).2 =
      match router.membership c with
      | none => .done false
      | some m => if m.upToDate none then .done true else .send (m.call c none) := by
  unfold beginClearPeerState
  cases hpeer : router.peers.lookup c with
  | none => rw [Router.membership_of_lookup_none hpeer]
  | some peer =>
      rw [Router.membership_of_lookup hpeer]
      have hdone : peer.membership.upToDate none ↔
          peer.hasstate = false ∧ peer.controlpublished = true := by
        simp [Membership.upToDate, Peer.membership]
      by_cases h : peer.hasstate = false ∧ peer.controlpublished = true
      · simp only [if_pos h, if_pos (hdone.mpr h)]
      · have hrequest : peer.membership.request none = peer.revoke.membership := by
          rw [Peer.revoke_membership]
          exact if_neg h
        simp only [if_neg h, if_neg (mt hdone.mp h), Membership.call, hrequest]
        rfl

theorem beginSetPeerState_start (router : Router) (now : TimePoint) (c : ConnectionId)
    (newstate : PeerState) :
    (beginSetPeerState router now c newstate).2 =
      match router.membership c with
      | none => .done false
      | some m =>
          if m.upToDate (some newstate) then .done true
          else .send (m.call c (some newstate)) := by
  unfold beginSetPeerState
  cases hpeer : router.peers.lookup c with
  | none => rw [Router.membership_of_lookup_none hpeer]
  | some peer =>
      rw [Router.membership_of_lookup hpeer]
      have hdone : peer.membership.upToDate (some newstate) ↔
          peer.hasstate = true ∧ peerStatesEqual peer.state newstate = true ∧
            peer.controlpublished = true := by
        simp [Membership.upToDate, Peer.membership, and_assoc]
      by_cases h : peer.hasstate = true ∧ peerStatesEqual peer.state newstate = true ∧
          peer.controlpublished = true
      · simp only [if_pos h, if_pos (hdone.mpr h)]
      · have hrequest : peer.membership.request (some newstate) =
            (peer.grant router.config now newstate).membership :=
          (Peer.grant_membership ..).symm
        simp only [if_neg h, if_neg (mt hdone.mp h), Membership.call, hrequest]
        rfl

/-- How the first locked section ends, told from the membership it finds. -/
theorem beginControl_start (router : Router) (now : TimePoint) (c : ConnectionId)
    (requested : Option PeerState) :
    (beginControl router now c requested).2 =
      match router.membership c with
      | none => .done false
      | some m =>
          if m.upToDate (effectiveRequest requested) then .done true
          else .send (m.call c (effectiveRequest requested)) := by
  rw [beginControl_eq]
  cases effectiveRequest requested with
  | none => exact beginClearPeerState_start router c
  | some newstate => exact beginSetPeerState_start router now c newstate

theorem Peer.stillRequested_iff {peer : Peer} {call : ControlCall} :
    peer.stillRequested call = true ↔ peer.membership.stillRequested call := by
  unfold Peer.stillRequested Membership.stillRequested
  cases hrequested : call.requested <;> simp [Peer.membership, and_assoc]

/-- **Second locked section.**  A confirmed send publishes the membership that
the call still finds, and changes no other. -/
theorem confirmControl_membership (router : Router) (call : ControlCall) (d : ConnectionId) :
    (confirmControl router call).1.membership d =
      if d = call.connectionid then (router.membership d).map fun m =>
        if m.stillRequested call then m.publish else m
      else router.membership d := by
  unfold confirmControl
  cases hpeer : router.peers.lookup call.connectionid with
  | none =>
      have hm := Router.membership_of_lookup_none hpeer
      grind
  | some peer =>
      have hm := Router.membership_of_lookup hpeer
      by_cases h : peer.membership.stillRequested call
      · simp only [if_pos (Peer.stillRequested_iff.mpr h)]
        rw [Router.membership_insert]
        split_ifs with hd
        · rw [hd, hm, Option.map_some, if_pos h]
          rfl
        · rfl
      · simp only [if_neg (mt Peer.stillRequested_iff.mp h)]
        split_ifs with hd
        · rw [hd, hm, Option.map_some, if_neg h]
        · rfl

/-- The second locked section succeeds exactly when it still finds the grant. -/
theorem confirmControl_result (router : Router) (call : ControlCall) :
    (confirmControl router call).2 = true ↔
      ∃ m, router.membership call.connectionid = some m ∧ m.stillRequested call := by
  unfold confirmControl
  cases hpeer : router.peers.lookup call.connectionid with
  | none => simp [Router.membership_of_lookup_none hpeer]
  | some peer =>
      rw [Router.membership_of_lookup hpeer]
      by_cases h : peer.membership.stillRequested call
      · simp [Peer.stillRequested_iff.mpr h, h]
      · simp [mt Peer.stillRequested_iff.mp h, h]

theorem routeVoicePacket_membership (router : Router) (now : TimePoint) (c : ConnectionId)
    (packet : UplinkPacket) (d : ConnectionId) :
    (routeVoicePacket router now c packet).1.membership d = router.membership d := by
  unfold routeVoicePacket
  cases hpeer : router.peers.lookup c with
  | none => rfl
  | some peer =>
      have hsame := Router.membership_insert_same hpeer
        (consumeRate_membership router.config now peer packet.payload.length) d
      dsimp only
      split_ifs
      · exact hsame
      · exact hsame
      · rfl

/-- **Frame.**  Relaying a packet changes no membership. -/
theorem handleVoicePacket_membership (router : Router) (now : TimePoint) (c : ConnectionId)
    (packet : UplinkPacket) (sendOk : ConnectionId → Bool) (d : ConnectionId) :
    (handleVoicePacket router now c packet sendOk).1.membership d = router.membership d := by
  unfold handleVoicePacket
  split_ifs
  · rfl
  · have hroute := routeVoicePacket_membership (countReceived router packet) now c packet d
    split <;> rename_i heq
    · rw [heq] at hroute
      exact hroute
    · rw [heq] at hroute
      exact hroute

/-! ## Runs of the router -/

/-- One atomic action on the router: a public call, or one locked section of a
control call. -/
inductive RouterStep
  | addPeer (now : TimePoint) (c : ConnectionId) (callback : Bool)
  | removePeer (c : ConnectionId)
  | beginControl (now : TimePoint) (c : ConnectionId) (requested : Option PeerState)
  | confirmControl (call : ControlCall)
  | countSendFailure
  | handleVoicePacket (now : TimePoint) (c : ConnectionId) (packet : UplinkPacket)
      (sendOk : ConnectionId → Bool)
  | reportMalformedPacket
  | setHearEnemiesVoice (enable : Bool)
  | reset

/-- The router after one action. -/
def RouterStep.apply (router : Router) : RouterStep → Router
  | .addPeer now c callback => (Voice.addPeer router now c callback).1
  | .removePeer c => Voice.removePeer router c
  | .beginControl now c requested => (Voice.beginControl router now c requested).1
  | .confirmControl call => (Voice.confirmControl router call).1
  | .countSendFailure => Voice.countSendFailure router
  | .handleVoicePacket now c packet sendOk =>
      (Voice.handleVoicePacket router now c packet sendOk).1
  | .reportMalformedPacket => Voice.reportMalformedPacket router
  | .setHearEnemiesVoice enable => Voice.setHearEnemiesVoice router enable
  | .reset => Voice.reset router

/-- Every action is possible in every router. -/
def routerStep (router : Router) (action : RouterStep) : Option Router :=
  some (action.apply router)

/-- A router is reachable when some run leads to it from the empty router of
its configuration. -/
def Reachable (config : Config) (router : Router) : Prop :=
  Exec.Reached routerStep { config := config } router

namespace Membership

theorem fresh_wellFormed (handle : Nat) : (fresh handle).WellFormed := by
  simp [WellFormed, fresh]

theorem WellFormed.request {m : Membership} (h : m.WellFormed)
    (requested : Option PeerState) :
    (m.request (effectiveRequest requested)).WellFormed := by
  cases heffective : effectiveRequest requested with
  | some newstate =>
      have hvalid := isValidPeerState_of_effectiveRequest heffective
      have hgeneration := nextGeneration_ne_zero m.generation
      grind [Membership.request, grant, WellFormed]
  | none => grind [Membership.request, revoke, WellFormed]

theorem WellFormed.publish {m : Membership} (h : m.WellFormed) : m.publish.WellFormed := h

/-- A stored state of a well-formed membership is valid. -/
theorem WellFormed.valid {m : Membership} (h : m.WellFormed) (hstate : m.hasstate = true) :
    isValidPeerState m.state = true ∧ m.generation ≠ 0 := by
  rwa [WellFormed, if_pos hstate] at h

end Membership

/-- All memberships of the router are well formed. -/
def Router.WellFormed (router : Router) : Prop :=
  ∀ c m, router.membership c = some m → m.WellFormed

/-- **Step lemma.**  Every action keeps all memberships well formed. -/
theorem RouterStep.apply_wellFormed {router : Router} (action : RouterStep)
    (h : router.WellFormed) : (action.apply router).WellFormed := by
  intro d m hm
  cases action with
  | addPeer now c callback =>
      rcases addPeer_membership router now c callback with ⟨-, heq⟩ | ⟨-, -, heq⟩
      · exact h d m (by rwa [← heq])
      · have hm' := (heq d).symm.trans hm
        split_ifs at hm'
        · cases hm'
          exact Membership.fresh_wellFormed _
        · exact h d m hm'
  | removePeer c =>
      have hm' := (removePeer_membership router c d).symm.trans hm
      split_ifs at hm'
      exact h d m hm'
  | beginControl now c requested =>
      have hm' := (beginControl_membership router now c requested d).symm.trans hm
      split_ifs at hm'
      · obtain ⟨m', hbefore, rfl⟩ := Option.map_eq_some_iff.mp hm'
        exact (h c m' hbefore).request requested
      · exact h d m hm'
  | confirmControl call =>
      have hm' := (confirmControl_membership router call d).symm.trans hm
      split_ifs at hm'
      · obtain ⟨m', hbefore, rfl⟩ := Option.map_eq_some_iff.mp hm'
        split_ifs
        · exact (h d m' hbefore).publish
        · exact h d m' hbefore
      · exact h d m hm'
  | countSendFailure => exact h d m hm
  | handleVoicePacket now c packet sendOk =>
      exact h d m ((handleVoicePacket_membership router now c packet sendOk d).symm.trans hm)
  | reportMalformedPacket => exact h d m hm
  | setHearEnemiesVoice enable => exact h d m hm
  | reset =>
      have hm' := (reset_membership router d).symm.trans hm
      cases hm'

/-- **Run lemma.**  Every reachable router is well formed. -/
theorem Reachable.wellFormed {config : Config} {router : Router}
    (h : Reachable config router) : router.WellFormed := by
  refine Exec.Reached.invariant h Router.WellFormed (fun c m hm => ?_)
    (fun s action t hs ht => ?_)
  · simp [Router.membership] at hm
  · cases ht
    exact action.apply_wellFormed hs

/-- A run goes on with one more action. -/
theorem Reachable.step {config : Config} {router : Router} (h : Reachable config router)
    (action : RouterStep) : Reachable config (action.apply router) := by
  obtain ⟨as, has⟩ := h
  exact ⟨as ++ [action], by simp [Exec.exec_append, has, routerStep]⟩

/-- The rest of a control call is at most one more action. -/
theorem Reachable.finishControl {config : Config} {router : Router}
    (h : Reachable config router) (start : ControlStart) (sendOk : Bool) :
    Reachable config (finishControl router start sendOk).1 := by
  cases start with
  | done result => exact h
  | send call =>
      cases sendOk with
      | true => exact h.step (.confirmControl call)
      | false => exact h.step .countSendFailure

/-- `clearPeerState` is a run of the router. -/
theorem Reachable.clearPeerState {config : Config} {router : Router}
    (h : Reachable config router) (c : ConnectionId) (sendOk : Bool) :
    Reachable config (clearPeerState router c sendOk).1 :=
  (h.step (.beginControl 0 c none)).finishControl _ sendOk

/-- `setPeerState` is a run of the router. -/
theorem Reachable.setPeerState {config : Config} {router : Router}
    (h : Reachable config router) (now : TimePoint) (c : ConnectionId)
    (newstate : PeerState) (sendOk : Bool) :
    Reachable config (setPeerState router now c newstate sendOk).1 := by
  unfold Voice.setPeerState
  split_ifs with hvalid
  · have hbegin := h.step (.beginControl now c (some newstate))
    simp only [RouterStep.apply, Voice.beginControl, hvalid, if_true] at hbegin
    exact hbegin.finishControl _ sendOk
  · exact h.clearPeerState c sendOk

end Voice
